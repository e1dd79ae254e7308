import Mathlib.Data.List.Induction
import TableQuery.Proofs.View.Runs

/-!
# The latest request wins

Requests are numbered from one. A view keeps an answer, or a failure, only if it belongs to the latest request; what
belongs to another one changes nothing. What a view knows of its requests follows from what has come of its actions
(`TableView.Fetches`), in every run from the start: `TableView.latest_request_wins`.
-/

set_option autoImplicit false

namespace TableQuery

namespace Event

/-- The number that a request gets. -/
def issued? : Event → Option Nat
  | (.beginFetch, ⟨_, .ticket id _, _⟩) => some id
  | _ => none

/-- An answer that is kept, with the number of its request. -/
def stored? : Event → Option (Nat × Json)
  | (.acceptResponse ticket response, ⟨_, .flag true, _⟩) => some (ticket, response)
  | _ => none

/-- The number of a request whose answer or failure is kept. -/
def settled? : Event → Option Nat
  | (.acceptResponse ticket _, ⟨_, .flag true, _⟩) | (.failFetch ticket _, ⟨_, .flag true, _⟩) => some ticket
  | _ => none

end Event

/-- The numbers of the requests in the order in which they were made. -/
def issued (log : List Event) : List Nat := log.filterMap Event.issued?

/-- The answers that were kept, in order, with the numbers of their requests. -/
def stored (log : List Event) : List (Nat × Json) := log.filterMap Event.stored?

/-- The numbers of the requests whose answers or failures were kept. -/
def settled (log : List Event) : List Nat := log.filterMap Event.settled?

namespace TableView

variable {v w : TableView} {log : List Event}

/-! ## What actions do to fetching -/

/-- Two views are equally far with fetching data. -/
structure SameFetches (v w : TableView) : Prop where
  lastTicket : w.lastTicket = v.lastTicket
  inFlight : w.inFlight = v.inFlight
  response : w.response = v.response

theorem SameFetches.refl (v : TableView) : v.SameFetches v := ⟨rfl, rfl, rfl⟩

/-- What a step from one view to another does to fetching, with the number that it gives to a request, the answer that
it keeps and the number of the request that it settles. -/
inductive Fetching (v w : TableView) : Option Nat → Option (Nat × Json) → Option Nat → Prop
  | nothing : v.SameFetches w → Fetching v w none none none
  | issue : w.lastTicket = v.lastTicket + 1 → w.inFlight = some (v.lastTicket + 1) → w.response = v.response →
      Fetching v w (some (v.lastTicket + 1)) none none
  | answer {response : Json} : w.lastTicket = v.lastTicket → w.inFlight = none → w.response = response →
      Fetching v w none (some (v.lastTicket, response)) (some v.lastTicket)
  | failure : w.lastTicket = v.lastTicket → w.inFlight = none → w.response = v.response →
      Fetching v w none none (some v.lastTicket)

theorem sameFetches_flush (v : TableView) : v.SameFetches v.flush.state := by
  rcases state_flush v with h | h | h <;> rw [h] <;> exact ⟨rfl, rfl, rfl⟩

/-- **What an action does to fetching**: it numbers a request, keeps the answer or the failure that belongs to the
latest number, or does nothing. -/
theorem fetching_step (v : TableView) (a : Action) :
    Fetching v (v.step a).state (Event.issued? (a, v.step a)) (Event.stored? (a, v.step a))
      (Event.settled? (a, v.step a)) := by
  cases a with
  | advance seconds =>
    obtain ⟨_, h⟩ := state_advance v seconds
    exact .nothing (by rw [step, h]; exact ⟨rfl, rfl, rfl⟩)
  | setSchema schema =>
    obtain ⟨_, _, _, _, _, _, h⟩ := state_setSchema v schema
    exact .nothing (by rw [step, h]; exact ⟨rfl, rfl, rfl⟩)
  | setVisibility shown =>
    obtain ⟨_, h⟩ := state_setVisibility v shown
    exact .nothing (by rw [step, h]; exact ⟨rfl, rfl, rfl⟩)
  | poll =>
    rcases state_poll v with h | h
    · exact .nothing (by rw [step, h]; exact .refl v)
    · exact .nothing (by rw [step, h]; exact sameFetches_flush v)
  | flush => exact .nothing (sameFetches_flush v)
  | setColumnFilter column filter =>
    refine .nothing ?_
    rcases state_setColumnFilter v column filter with h | ⟨_, -, h⟩ <;> rw [step, h] <;> exact ⟨rfl, rfl, rfl⟩
  | setSorting entries =>
    refine .nothing ?_
    rcases state_setSorting v entries with h | ⟨_, _, -, -, h⟩ <;> rw [step, h] <;> exact ⟨rfl, rfl, rfl⟩
  | beginFetch =>
    rw [step, beginFetch]
    split
    · exact .nothing (.refl v)
    · exact .nothing (.refl v)
    · exact .issue rfl rfl rfl
  | acceptResponse ticket response =>
    rw [step, acceptResponse]
    split
    · exact .nothing (.refl v)
    next hlast =>
      obtain rfl : ticket = v.lastTicket := not_not.1 hlast
      exact .answer rfl rfl rfl
  | failFetch ticket message =>
    rw [step, failFetch]
    split
    · exact .nothing (.refl v)
    next hlast =>
      obtain rfl : ticket = v.lastTicket := not_not.1 hlast
      exact .failure rfl rfl rfl
  | _ => exact .nothing ⟨rfl, rfl, rfl⟩

/-! ## What a view knows of its requests -/

/-- What a view knows of its requests is what has come of its actions. -/
structure Fetches (log : List Event) (v : TableView) : Prop where
  numbered : issued log = List.range' 1 v.lastTicket
  awaited : ∀ t, v.inFlight = some t ↔ t = v.lastTicket ∧ t ≠ 0 ∧ t ∉ settled log
  settled_le : ∀ t ∈ settled log, t ≤ v.lastTicket
  stored_le : ∀ p ∈ stored log, p.1 ≤ v.lastTicket
  ordered : ((stored log).map (·.1)).Pairwise (· ≤ ·)
  kept : v.response = ((stored log).getLast?.map (·.2)).getD .null

theorem filterMap_concat {α β : Type} (f : α → Option β) (l : List α) (a : α) :
    (l ++ [a]).filterMap f = l.filterMap f ++ (f a).toList := by
  rw [List.filterMap_append]
  cases h : f a <;> simp [h]

namespace Fetches

/-- A view that has not fetched anything knows of no requests. -/
theorem start (hticket : v.lastTicket = 0) (hflight : v.inFlight = none) (hresponse : v.response = .null) :
    v.Fetches [] where
  numbered := by rw [hticket]; rfl
  awaited := by simp [hticket, hflight]
  settled_le := by simp [settled]
  stored_le := by simp [stored]
  ordered := .nil
  kept := hresponse

/-- **A step of each kind keeps what a view knows of its requests.** -/
theorem concat (h : v.Fetches log) {e : Event}
    (hstep : Fetching v w (Event.issued? e) (Event.stored? e) (Event.settled? e)) : w.Fetches (log ++ [e]) := by
  obtain ⟨hnumbered, hawaited, hsettled, hstored, hordered, hkept⟩ := h
  suffices hparts : issued log ++ (Event.issued? e).toList = List.range' 1 w.lastTicket ∧
      (∀ t, w.inFlight = some t ↔ t = w.lastTicket ∧ t ≠ 0 ∧ t ∉ settled log ++ (Event.settled? e).toList) ∧
      (∀ t ∈ settled log ++ (Event.settled? e).toList, t ≤ w.lastTicket) ∧
      (∀ p ∈ stored log ++ (Event.stored? e).toList, p.1 ≤ w.lastTicket) ∧
      ((stored log ++ (Event.stored? e).toList).map (·.1)).Pairwise (· ≤ ·) ∧
      w.response = ((stored log ++ (Event.stored? e).toList).getLast?.map (·.2)).getD .null by
    obtain ⟨hnumbered, hawaited, hsettled, hstored, hordered, hkept⟩ := hparts
    constructor <;> simpa only [issued, stored, settled, filterMap_concat]
  generalize Event.issued? e = number, Event.stored? e = answer, Event.settled? e = ticket at hstep
  cases hstep with
  | nothing hsame =>
    rw [hsame.lastTicket, hsame.inFlight, hsame.response]
    simp only [Option.toList_none, List.append_nil]
    exact ⟨hnumbered, hawaited, hsettled, hstored, hordered, hkept⟩
  | issue hticket hflight hresponse =>
    -- The new number is greater than all that were settled.
    have hnew : v.lastTicket + 1 ∉ settled log := fun hmem => absurd (hsettled _ hmem) (by omega)
    rw [hticket, hflight, hresponse]
    simp only [Option.toList_none, Option.toList_some, List.append_nil]
    refine ⟨?_, fun t => ⟨fun ht => ?_, fun ht => by rw [ht.1]⟩, fun t ht => Nat.le_succ_of_le (hsettled t ht),
      fun p hp => Nat.le_succ_of_le (hstored p hp), hordered, hkept⟩
    · rw [hnumbered, List.range'_concat, Nat.one_mul, Nat.add_comm 1]
    · obtain rfl := Option.some.inj ht
      exact ⟨rfl, by omega, hnew⟩
  | answer hticket hflight hresponse =>
    rw [hticket, hflight, hresponse]
    simp only [Option.toList_none, Option.toList_some, List.append_nil, List.forall_mem_append,
      List.forall_mem_singleton]
    refine ⟨hnumbered, by simp, ⟨hsettled, Nat.le_refl _⟩, ⟨hstored, Nat.le_refl _⟩, ?_, by simp⟩
    rw [List.map_append, List.pairwise_append]
    refine ⟨hordered, List.pairwise_singleton _ _, fun t ht t' ht' => ?_⟩
    obtain ⟨p, hp, rfl⟩ := List.mem_map.1 ht
    obtain rfl := List.mem_singleton.1 ht'
    exact hstored p hp
  | failure hticket hflight hresponse =>
    rw [hticket, hflight, hresponse]
    simp only [Option.toList_none, Option.toList_some, List.append_nil, List.forall_mem_append,
      List.forall_mem_singleton]
    exact ⟨hnumbered, by simp, ⟨hsettled, Nat.le_refl _⟩, hstored, hordered, hkept⟩

theorem run (h : v.Fetches log) (actions : List Action) : (v.run actions).Fetches (log ++ v.events actions) := by
  induction actions generalizing v log with
  | nil =>
    rw [events, List.append_nil]
    exact h
  | cons a actions ih =>
    have hrest := ih (h.concat (fetching_step v a))
    rwa [List.append_assoc] at hrest

theorem getLast?_issued (h : v.Fetches log) {ticket : Nat} :
    (issued log).getLast? = some ticket ↔ ticket = v.lastTicket ∧ ticket ≠ 0 := by
  rw [h.numbered, List.getLast?_range']
  split
  · simp only [reduceCtorEq, false_iff]
    omega
  · rw [Option.some.injEq]
    omega

end Fetches

/-! ## Runs from the start -/

/-- Of what comes for requests a view keeps what belongs to the latest one, after all that is in the log. -/
structure LatestWins (log : List Event) (v : TableView) : Prop where
  /-- Requests are numbered from one. -/
  numbered : issued log = List.range' 1 (issued log).length
  /-- What comes for another request changes nothing and is told to nobody. No request has the number 0. -/
  outdated : ∀ ticket, ticket ≠ 0 → (issued log).getLast? ≠ some ticket → ∀ response message,
    v.step (.acceptResponse ticket response) = ⟨v, .flag false, []⟩ ∧
      v.step (.failFetch ticket message) = ⟨v, .flag false, []⟩
  /-- What comes for the latest request is taken. -/
  latest : ∀ ticket, (issued log).getLast? = some ticket → ∀ response message,
    (v.step (.acceptResponse ticket response)).reply = .flag true ∧
      (v.step (.failFetch ticket message)).reply = .flag true
  /-- The numbers of the requests whose answers were kept never decrease. -/
  ordered : ((stored log).map (·.1)).Pairwise (· ≤ ·)
  /-- The view has the last of these answers. -/
  kept : v.response = ((stored log).getLast?.map (·.2)).getD .null
  /-- No failure changes the answer. -/
  failure : ∀ ticket message, (v.step (.failFetch ticket message)).state.response = v.response
  /-- An answer is awaited iff the latest request is not settled. -/
  awaited : v.isFetching = true ↔ ∃ ticket, (issued log).getLast? = some ticket ∧ ticket ∉ settled log
  /-- Without a request to number nothing changes. -/
  unnumbered : ∀ e, (v.step .beginFetch).reply = .failed e → (v.step .beginFetch).state = v

/-- **The latest request wins**, whatever is done with a view from the start: requests may be made at any time, and
answers and failures may come in any order, repeatedly or never. -/
theorem latest_request_wins (intrinsicFilter : Option Json) (quiet pageSize : Json) (actions : List Action) :
    LatestWins (events { intrinsicFilter, quiet, pageSize } actions)
      (run { intrinsicFilter, quiet, pageSize } actions) := by
  have hstart : Fetches [] { intrinsicFilter, quiet, pageSize } := .start rfl rfl rfl
  have h := hstart.run actions
  rw [List.nil_append] at h
  generalize events { intrinsicFilter, quiet, pageSize } actions = log at h
  generalize run { intrinsicFilter, quiet, pageSize } actions = v at h
  constructor
  case numbered => rw [h.numbered, List.length_range']
  case outdated =>
    intro ticket hne hlast response message
    rw [ne_eq, h.getLast?_issued, not_and] at hlast
    have hother : ticket ≠ v.lastTicket := fun heq => hlast heq hne
    exact ⟨if_pos hother, if_pos hother⟩
  case latest =>
    intro ticket hlast response message
    obtain ⟨rfl, -⟩ := h.getLast?_issued.1 hlast
    rw [step, step, acceptResponse, failFetch, if_neg (not_not.2 rfl), if_neg (not_not.2 rfl)]
    exact ⟨rfl, rfl⟩
  case ordered => exact h.ordered
  case kept => exact h.kept
  case failure =>
    intro ticket message
    rw [step, failFetch]
    split <;> rfl
  case awaited =>
    rw [isFetching, Option.isSome_iff_exists]
    refine exists_congr fun ticket => ?_
    rw [h.awaited, h.getLast?_issued, and_assoc]
  case unnumbered =>
    intro e he
    rw [step, beginFetch] at he ⊢
    split at he
    · rfl
    · rfl
    · cases he

end TableView

end TableQuery
