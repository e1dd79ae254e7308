import TableQuery.Http.Server
import TableQuery.Proofs.Outcomes
import TableQuery.Proofs.Text.Ascii

/-!
# How requests end

A route is told by the beginning of its path, as it is logged (`Route.subject_of_ofPath?`). A request that is no
preflight ends in one of four ways (`Server.Ends`, `Server.ends_answer`): it is answered, it is refused by a handler
that provides for its failure, the answer of such a handler gets stuck because it cannot be encoded, or it fails in a
way that nothing provides for.
-/

set_option autoImplicit false

namespace TableQuery.Http

open Sql (Value)

/-! ## Paths -/

namespace Route

def facility? : Route → Option String
  | entity f _ => f
  | «export» f _ | row f _ _ => some f

def entityName : Route → String
  | entity _ e | «export» _ e | row _ e _ => e

/-- **A route is told by the beginning of its path.** -/
theorem subject_of_ofPath? {path : String} {route : Route} (h : ofPath? path = some route) :
    subject path = (route.facility?, some route.entityName) := by
  have hends : ∀ {t : String}, ends "tquery" t = true → t.startsWith "tquery" = true := by
    intro t ht
    rw [ends, Bool.or_eq_true, beq_iff_eq, beq_iff_eq] at ht
    rcases ht with rfl | rfl <;> decide +kernel
  unfold ofPath? at h
  unfold subject
  split at h
  next f e t hsegments =>
    split at h
    next hroute =>
      cases h
      simp only [Bool.and_eq_true, bne_iff_ne] at hroute
      simp [hsegments, facility?, entityName, hroute.1.1, hroute.1.2, hends hroute.2]
    next => cases h
  next f e x hsegments =>
    split at h
    next hroute =>
      cases h
      simp only [Bool.and_eq_true, bne_iff_ne] at hroute
      have hword : "tquery".startsWith "tquery" = true := by decide +kernel
      simp [hsegments, facility?, entityName, hroute.1.1, hroute.1.2, hword]
    next => cases h
  next f e id hsegments =>
    split at h
    next hroute =>
      cases h
      simp only [Bool.and_eq_true, bne_iff_ne] at hroute
      have hword : "tquery".startsWith "tquery" = true := by decide +kernel
      simp [hsegments, facility?, entityName, hroute.1.1, hroute.1.2, hword]
    next => cases h
  next e t hsegments =>
    split at h
    next hroute =>
      cases h
      simp only [Bool.and_eq_true, bne_iff_ne] at hroute
      simp [hsegments, facility?, entityName, hroute.1, hends hroute.2]
    next => cases h
  next => cases h

end Route

namespace HttpRequest

/-- The path is written without escapes: in visible ASCII characters other than the percent sign, and without a
fragment. -/
def IsPlain (r : HttpRequest) : Prop :=
  ∀ c ∈ r.rawPath.toList, 32 < c.toNat ∧ Text.isAscii c ∧ c ≠ '%' ∧ c ≠ '#'

instance (r : HttpRequest) : Decidable r.IsPlain :=
  inferInstanceAs (Decidable (∀ c ∈ r.rawPath.toList, 32 < c.toNat ∧ Text.isAscii c ∧ c ≠ '%' ∧ c ≠ '#'))

variable {r : HttpRequest}

theorem path_of_isPlain (h : r.IsPlain) : r.path = r.rawPath := by
  have hplain : ∀ c ∈ r.rawPath.toList, Text.isAscii c ∧ c ≠ '%' := fun c hc => ⟨(h c hc).2.1, (h c hc).2.2.1⟩
  rw [path, unescape_plain hplain, unescape_plain hplain]

/-- **A path without escapes is told as it was sent.** -/
theorem shownPath_of_isPlain (h : r.IsPlain) : r.shownPath = r.path := by
  have hquery : ∀ c ∈ r.rawPath.toList, c ≠ '?' := by
    intro c hc
    rw [rawPath, String.toList_ofList] at hc
    simpa using List.mem_takeWhile_imp hc
  have htake : (r.rawPath.toList.takeWhile fun c => c != '?' && c != '#') = r.rawPath.toList := by
    rw [List.takeWhile_eq_self_iff]
    intro c hc
    simp [hquery c hc, (h c hc).2.2.2]
  have hfilter : (r.rawPath.toList.filter fun c => c != '\n' && c != '\r' && c != '\t') = r.rawPath.toList := by
    rw [List.filter_eq_self]
    intro c hc
    have hvisible := (h c hc).1
    have hlayout : c ≠ '\n' ∧ c ≠ '\r' ∧ c ≠ '\t' := by
      refine ⟨?_, ?_, ?_⟩ <;> rintro rfl <;> exact absurd hvisible (by decide)
    simp [hlayout]
  rw [shownPath, path_of_isPlain h, htake, hfilter, String.ofList_toList]

end HttpRequest

/-! ## Refusals -/

namespace Refusal

/-- A handler provides for the refusal: it writes it down and answers. -/
def isProvided : Refusal → Bool
  | badRequest _ | failed (.invalid _) | failed (.notFound _) | failed (.fatal _) => true
  | unreadable | failed (.config _) | failed (.fault _) => false

theorem fits_status (p : Refusal) : Value.fitsStore p.answer.status = true := by
  cases p with
  | failed f => cases f <;> rfl
  | _ => rfl

end Refusal

namespace Server

variable {s : Service} {r : HttpRequest} {p : Refusal} {a : HttpAnswer}

theorem status_of_respond (h : respond s r = .ok a) : Value.fitsStore a.status = true := by
  have hserve : ∀ route, serve s r route = .ok a → a.status = 200 := by
    intro route hroute
    cases route with
    | entity f e =>
      rw [serve] at hroute
      split at hroute
      · obtain ⟨j, -, hj⟩ := bind_eq_ok.1 hroute
        cases hj
        rfl
      · obtain ⟨d, -, hd⟩ := bind_eq_ok.1 hroute
        obtain ⟨response, -, hresponse⟩ := bind_eq_ok.1 hd
        cases hresponse
        rfl
    | row f e id =>
      obtain ⟨fields, -, hfields⟩ := bind_eq_ok.1 hroute
      cases hfields
      rfl
    | «export» f e =>
      obtain ⟨d, -, hd⟩ := bind_eq_ok.1 hroute
      obtain ⟨x, -, hx⟩ := bind_eq_ok.1 hd
      cases hx
      rfl
  unfold respond at h
  split at h
  · split at h
    · rw [hserve _ h]
      rfl
    · cases h
      rfl
  · split at h
    · cases h
      rfl
    · cases h
      rfl

/-! ## Layers -/

theorem sent_of_isEncodable (h : a.body.isEncodable = true) : sent a = .ok a := if_pos h

theorem sent_of_not_isEncodable (h : a.body.isEncodable = false) : sent a = .error (.fault .unencodable) :=
  if_neg (by rw [h]; exact Bool.false_ne_true)

/-- **A refusal that is provided for is written down**, whatever becomes of its answer. -/
theorem provide_of_isProvided (h : p.isProvided = true) :
    provide s r p = ⟨sent p.answer, ⟨[failureEntry s r p], true⟩⟩ := by
  cases p with
  | badRequest es => rfl
  | unreadable => cases h
  | failed f =>
    cases f with
    | config e | fault f => cases h
    | invalid es | notFound d | fatal b => rfl

/-- A failure that nothing has provided for. -/
theorem provide_of_not_isProvided (h : p.isProvided = false) :
    provide s r p = ⟨sent p.answer, {}⟩ ∧ p = .unreadable ∨
      ∃ f, provide s r p = ⟨.error f, {}⟩ ∧ p = .failed f := by
  cases p with
  | badRequest es => cases h
  | unreadable => exact Or.inl ⟨rfl, rfl⟩
  | failed f =>
    cases f with
    | config e | fault f => exact Or.inr ⟨_, rfl, rfl⟩
    | invalid es | notFound d | fatal b => cases h

/-- What is written down if the request is answered without a failure. -/
def answerEntries (s : Service) (r : HttpRequest) (a : HttpAnswer) : List LogEntry :=
  if isLogged r.shownPath then [entry s r a.status (loggedBody a)] else []

/-- The failure of an answer that cannot be encoded. -/
def unencodable : Refusal := .failed (.fault .unencodable)

theorem answer_of_preflight (h : preflight? r = some a) : answer s r = (a, []) := by
  rw [answer, h]

theorem answer_of_handled {j : Journal} (h : preflight? r = none) (hhandled : handled s r = ⟨.ok a, j⟩) :
    answer s r = (a, if isLogged r.shownPath then (j.addAnswer (entry s r a.status (loggedBody a))).entries
      else j.entries) := by
  rw [answer, h]
  simp only [logged, hhandled]
  split <;> rfl

theorem answer_of_unhandled {j : Journal} {f : Failure} (h : preflight? r = none)
    (hhandled : handled s r = ⟨.error f, j⟩) :
    answer s r = ((Refusal.failed f).answer, j.entries ++ [failureEntry s r (.failed f)]) := by
  rw [answer, h]
  simp only [logged, hhandled, finished, Journal.addFailure]

/-- How a request ends: with which answer, and with which entries in the log. -/
inductive Ends (s : Service) (r : HttpRequest) : HttpAnswer → List LogEntry → Prop
  | answered {a : HttpAnswer} : respond s r = .ok a ∨ respond s r = .error .unreadable ∧ a = Refusal.unreadable.answer →
      a.body.isEncodable = true → Ends s r a (answerEntries s r a)
  | provided {p : Refusal} : respond s r = .error p → p.isProvided = true → p.answer.body.isEncodable = true →
      Ends s r p.answer [failureEntry s r p]
  /-- The answer of a handler cannot be encoded when the failure has been written down already. -/
  | stuck {p : Refusal} : respond s r = .error p → p.isProvided = true → p.answer.body.isEncodable = false →
      Ends s r unencodable.answer [failureEntry s r p, failureEntry s r unencodable]
  | unforeseen {f : Failure} : respond s r = .error (.failed f) ∧ (Refusal.failed f).isProvided = false ∨
      f = .fault .unencodable ∧ (∃ a, respond s r = .ok a ∧ a.body.isEncodable = false) →
      Ends s r (Refusal.failed f).answer [failureEntry s r (.failed f)]

theorem isEncodable_unreadable : Refusal.unreadable.answer.body.isEncodable = true := by
  decide +kernel

/-- **Every request that is no preflight ends in one of four ways.** -/
theorem ends_answer (h : preflight? r = none) : Ends s r (answer s r).1 (answer s r).2 := by
  have hanswered : ∀ {a}, handled s r = ⟨.ok a, {}⟩ → answer s r = (a, answerEntries s r a) := by
    intro a hhandled
    rw [answer_of_handled h hhandled, answerEntries]
    split <;> rfl
  cases hrespond : respond s r with
  | ok a =>
    have hhandled : handled s r = ⟨sent a, {}⟩ := by
      simp only [handled, hrespond]
    cases ha : a.body.isEncodable with
    | true =>
      rw [sent_of_isEncodable ha] at hhandled
      rw [hanswered hhandled]
      dsimp only
      exact .answered (Or.inl hrespond) ha
    | false =>
      rw [sent_of_not_isEncodable ha] at hhandled
      rw [answer_of_unhandled h hhandled]
      show Ends s r _ [failureEntry s r (.failed _)]
      exact .unforeseen (Or.inr ⟨rfl, a, hrespond, ha⟩)
  | error p =>
    have hhandled : handled s r = provide s r p := by
      simp only [handled, hrespond]
    cases hp : p.isProvided with
    | true =>
      rw [provide_of_isProvided hp] at hhandled
      cases ha : p.answer.body.isEncodable with
      | true =>
        rw [sent_of_isEncodable ha] at hhandled
        have hentries : answer s r = (p.answer, [failureEntry s r p]) := by
          rw [answer_of_handled h hhandled]
          split <;> rfl
        rw [hentries]
        exact .provided hrespond hp ha
      | false =>
        rw [sent_of_not_isEncodable ha] at hhandled
        rw [answer_of_unhandled h hhandled]
        exact .stuck hrespond hp ha
    | false =>
      rcases provide_of_not_isProvided (s := s) (r := r) hp with ⟨hprovide, rfl⟩ | ⟨f, hprovide, rfl⟩
      · rw [hprovide, sent_of_isEncodable isEncodable_unreadable] at hhandled
        rw [hanswered hhandled]
        dsimp only
        exact .answered (Or.inr ⟨hrespond, rfl⟩) isEncodable_unreadable
      · rw [hprovide] at hhandled
        rw [answer_of_unhandled h hhandled]
        show Ends s r _ [failureEntry s r (.failed _)]
        exact .unforeseen (Or.inl ⟨hrespond, hp⟩)

end Server

end TableQuery.Http
