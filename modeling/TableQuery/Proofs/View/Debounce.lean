import TableQuery.Proofs.Number.Rounding
import TableQuery.Proofs.View.Restriction

/-!
# Which text is searched for, and since when

What is typed is searched for once it has not changed for a while. What a view knows of this are the text typed, the
text searched for, and when the former was typed unless it has been seen to since (`TableView.search_step_cases`).
A text that is searched for after a run without `Action.flush` was typed in it, and looked at when it was old enough,
with nothing typed in between (`TableView.PickedUp`). Whether a text is old enough is told by a difference of doubles
(`Number.Double.isPast_of_not_less`, `Number.Double.not_less_of_isPast`). The main statement is
`TableView.searches_after_quiet`.
-/

set_option autoImplicit false

namespace TableQuery

open Number (Numeric Double)

def Action.TypesText : Action → Prop
  | .search typed => ∃ text, typed = .str text
  | _ => True

/-- Whether so much time seems to have passed between two readings of the clock. -/
def elapsed (quiet : Numeric) (since now : Double) : Bool := !(Numeric.double (now.sub since)).less quiet

namespace TableView

variable {v w : TableView} {actions : List Action} {quiet : Numeric} {text : String} {s t : Double}

/-- The search in a request for the data of a view is for a text; there is none for the empty text. -/
def Searches (v : TableView) (text : String) : Prop :=
  v.filters = v.intrinsicFilter.toList ++ (if text = "" then [] else [searchFor (.str text)]) ++ v.activeFilters

theorem searches_iff {searched : String} (h : v.searched = .str searched) : v.Searches text ↔ text = searched := by
  have htruthy : (Json.str searched).truthy = true ↔ searched ≠ "" := by
    simp [Json.truthy]
  have hfilters : v.filters = v.intrinsicFilter.toList ++
      (if searched = "" then [] else [searchFor (.str searched)]) ++ v.activeFilters := by
    rw [filters, h]
    by_cases hempty : searched = ""
    · rw [if_pos hempty, if_neg (by rw [htruthy]; exact not_not.2 hempty)]
    · rw [if_neg hempty, if_pos (htruthy.2 hempty)]
      rfl
  rw [Searches, hfilters, List.append_left_inj, List.append_right_inj]
  by_cases hempty : searched = "" <;> by_cases hempty' : text = "" <;> simp [hempty, hempty', searchFor, eq_comm]

/-! ## What actions do to the search -/

theorem poll_eq (hquiet : v.quiet.number? = some quiet) :
    v.poll = if v.typedAt.any (elapsed quiet · v.now) then v.flush else ⟨v, .flag false, []⟩ := by
  unfold poll
  cases htypedAt : v.typedAt with
  | none => rfl
  | some s =>
    rw [hquiet]
    cases hless : (Numeric.double (v.now.sub s)).less quiet <;> simp [elapsed, hless]

/-- **What an action does to the search.** A text is typed, or the typed text is seen to, or nothing changes. -/
theorem search_step_cases (hquiet : v.quiet.number? = some quiet) (a : Action) :
    (∃ typed, a = .search typed ∧ (v.step a).state.typed = typed ∧ (v.step a).state.searched = v.searched ∧
      (v.step a).state.typedAt = some v.now) ∨
    ((a = .poll ∧ (∃ s, v.typedAt = some s ∧ elapsed quiet s v.now = true) ∨ a = .flush) ∧ v.step a = v.flush) ∨
    (∀ typed, a ≠ .search typed) ∧ (v.step a).state.typed = v.typed ∧ (v.step a).state.searched = v.searched ∧
      (v.step a).state.typedAt = v.typedAt := by
  by_cases hquiet' : a.IsQuiet
  · obtain ⟨_, _, _, _, _, _, _, hstate⟩ := state_quiet v hquiet'
    refine Or.inr (Or.inr ⟨?_, by rw [hstate], by rw [hstate], by rw [hstate]⟩)
    rintro typed rfl
    exact hquiet'.elim
  cases a with
  | search typed => exact Or.inl ⟨typed, rfl, rfl, rfl, rfl⟩
  | flush => exact Or.inr (Or.inl ⟨Or.inr rfl, rfl⟩)
  | poll =>
    rw [step, poll_eq hquiet]
    split
    next h =>
      rw [Option.any_eq_true] at h
      exact Or.inr (Or.inl ⟨Or.inl ⟨rfl, h⟩, rfl⟩)
    next => exact Or.inr (Or.inr ⟨by rintro _ ⟨⟩, rfl, rfl, rfl⟩)
  | setSchema schema =>
    obtain ⟨_, _, _, _, _, _, hstate⟩ := state_setSchema v schema
    rw [step, hstate]
    exact Or.inr (Or.inr ⟨by rintro _ ⟨⟩, rfl, rfl, rfl⟩)
  | setVisibility shown =>
    obtain ⟨_, hstate⟩ := state_setVisibility v shown
    rw [step, hstate]
    exact Or.inr (Or.inr ⟨by rintro _ ⟨⟩, rfl, rfl, rfl⟩)
  | setColumnFilter column filter =>
    rcases state_setColumnFilter v column filter with hstate | ⟨_, -, hstate⟩ <;> rw [step, hstate] <;>
      exact Or.inr (Or.inr ⟨by rintro _ ⟨⟩, rfl, rfl, rfl⟩)
  | setSorting entries =>
    rcases state_setSorting v entries with hstate | ⟨_, _, -, -, hstate⟩ <;> rw [step, hstate] <;>
      exact Or.inr (Or.inr ⟨by rintro _ ⟨⟩, rfl, rfl, rfl⟩)
  | setPage index size => exact Or.inr (Or.inr ⟨by rintro _ ⟨⟩, rfl, rfl, rfl⟩)
  | _ => exact absurd trivial hquiet'

theorem flush_of_none (h : v.typedAt = none) : v.flush = ⟨v, .flag false, []⟩ := by
  rw [flush, h]
  rfl

/-- A text that was typed is searched for once it has been seen to; this tells whether it was another one before. -/
theorem flush_of_typed {typed searched : String} (htyped : v.typed = .str typed)
    (hsearched : v.searched = .str searched) (hs : v.typedAt = some s) :
    v.flush.state.typed = .str typed ∧ v.flush.state.searched = .str typed ∧ v.flush.state.typedAt = none ∧
      v.flush.reply = .flag (decide (searched ≠ typed)) := by
  have hsame : (Json.str typed).same (.str searched) = decide (typed = searched) := by
    rw [Bool.eq_iff_iff, Json.same_str, decide_eq_true_iff]
    simp [eq_comm]
  unfold flush
  rw [hs, if_neg (by simp)]
  dsimp only
  rw [htyped, hsearched, hsame]
  by_cases h : typed = searched
  · simp [h]
  · simp [h, announce, atFirstPage, eq_comm]

/-! ## Runs -/

/-- The text was typed last in a run, at the time `s`. -/
def LastTyped (v : TableView) (actions : List Action) (text : String) (s : Double) : Prop :=
  ∃ before between, actions = before ++ .search (.str text) :: between ∧ (∀ typed, .search typed ∉ between) ∧
    s = (v.run before).now

/-- In a run the text was typed at the time `s` and became the one searched for when the clock was looked at, at the
time `t`, with nothing typed in between. -/
def PickedUp (v : TableView) (actions : List Action) (text : String) (s t : Double) : Prop :=
  ∃ before between after, actions = before ++ .search (.str text) :: (between ++ .poll :: after) ∧
    (∀ typed, .search typed ∉ between) ∧ s = (v.run before).now ∧
    t = (v.run (before ++ .search (.str text) :: between)).now ∧
    ((v.run (before ++ .search (.str text) :: between)).step .poll).reply = .flag true

theorem run_concat (v : TableView) (actions : List Action) (a : Action) :
    v.run (actions ++ [a]) = ((v.run actions).step a).state := by
  simp [run]

theorem LastTyped.concat {a : Action} (h : LastTyped v actions text s) (ha : ∀ typed, a ≠ .search typed) :
    LastTyped v (actions ++ [a]) text s := by
  obtain ⟨before, between, rfl, hbetween, hs⟩ := h
  refine ⟨before, between ++ [a], by simp, fun typed htyped => ?_, hs⟩
  rcases List.mem_append.1 htyped with h | h
  · exact hbetween typed h
  · exact ha typed (List.mem_singleton.1 h).symm

theorem PickedUp.concat (h : PickedUp v actions text s t) (a : Action) : PickedUp v (actions ++ [a]) text s t := by
  obtain ⟨before, between, after, rfl, hrest⟩ := h
  exact ⟨before, between, after ++ [a], by simp, hrest⟩

theorem LastTyped.pickedUp (h : LastTyped v actions text s) (hreply : ((v.run actions).step .poll).reply = .flag true) :
    PickedUp v (actions ++ [.poll]) text s (v.run actions).now := by
  obtain ⟨before, between, rfl, hbetween, hs⟩ := h
  exact ⟨before, between, [], by simp, hbetween, hs, rfl, hreply⟩

/-- **Where the text comes from that is searched for.** In a run without flushing that starts with nothing typed, a text
that waits to be seen to was typed last, and one that is searched for was picked up when it was old enough. -/
theorem exists_pickedUp (hquiet : v.quiet.number? = some quiet) (htyped : v.typed = .str "")
    (hsearched : v.searched = .str "") (htypedAt : v.typedAt = none) (htexts : ∀ a ∈ actions, a.TypesText)
    (hflush : .flush ∉ actions) :
    ∃ typed searched, (v.run actions).typed = .str typed ∧ (v.run actions).searched = .str searched ∧
      (∀ s, (v.run actions).typedAt = some s → LastTyped v actions typed s) ∧
      (searched ≠ "" → ∃ s t, PickedUp v actions searched s t ∧ elapsed quiet s t = true) := by
  induction actions using List.reverseRecOn with
  | nil =>
    refine ⟨"", "", htyped, hsearched, fun s hs => ?_, fun h => absurd rfl h⟩
    rw [run, List.foldl_nil, htypedAt] at hs
    cases hs
  | append_singleton actions a ih =>
    rw [List.forall_mem_append, List.forall_mem_singleton] at htexts
    rw [List.mem_append, List.mem_singleton, not_or] at hflush
    obtain ⟨typed, searched, htyped, hsearched, hwaits, hpicked⟩ := ih htexts.1 hflush.1
    have hquiet' : (v.run actions).quiet.number? = some quiet := by rw [(made_run v actions).2, hquiet]
    have hpicked' : searched ≠ "" → ∃ s t, PickedUp v (actions ++ [a]) searched s t ∧ elapsed quiet s t = true :=
      fun h => by
        obtain ⟨s, t, hup, hlate⟩ := hpicked h
        exact ⟨s, t, hup.concat a, hlate⟩
    rw [run_concat]
    rcases search_step_cases hquiet' a with ⟨j, rfl, htyped', hsearched', htypedAt'⟩ | ⟨hseen, hstep⟩ |
      ⟨ha, htyped', hsearched', htypedAt'⟩
    · obtain ⟨text, rfl⟩ := htexts.2
      refine ⟨text, searched, htyped', hsearched'.trans hsearched, fun s hs => ?_, hpicked'⟩
      rw [htypedAt', Option.some.injEq] at hs
      exact ⟨actions, [], rfl, nofun, hs.symm⟩
    · obtain ⟨rfl, s, hs, hlate⟩ := hseen.resolve_right fun h => hflush.2 h.symm
      obtain ⟨htyped', hsearched', htypedAt', hreply⟩ := flush_of_typed htyped hsearched hs
      rw [hstep]
      refine ⟨typed, typed, htyped', hsearched', fun s' hs' => ?_, fun hne => ?_⟩
      · rw [htypedAt'] at hs'
        cases hs'
      · by_cases hsame : searched = typed
        · exact hsame ▸ hpicked' (hsame ▸ hne)
        · rw [← hstep, decide_eq_true hsame] at hreply
          exact ⟨s, (v.run actions).now, (hwaits s hs).pickedUp hreply, hlate⟩
    · refine ⟨typed, searched, htyped'.trans htyped, hsearched'.trans hsearched, fun s hs => ?_, hpicked'⟩
      exact (hwaits s (htypedAt' ▸ hs)).concat ha

/-- What was typed and what is searched for are texts. -/
def HasTexts (v : TableView) : Prop :=
  (∃ typed, v.typed = .str typed) ∧ ∃ searched, v.searched = .str searched

theorem HasTexts.step {a : Action} (h : v.HasTexts) (hquiet : v.quiet.number? = some quiet) (ha : a.TypesText) :
    (v.step a).state.HasTexts := by
  rcases search_step_cases hquiet a with ⟨j, rfl, htyped, hsearched, -⟩ | ⟨-, hstep⟩ | ⟨-, htyped, hsearched, -⟩
  · exact ⟨htyped ▸ ha, hsearched ▸ h.2⟩
  · rw [hstep]
    rcases state_flush v with hstate | hstate | hstate <;> rw [hstate]
    · exact h
    · exact h
    · exact ⟨h.1, h.1⟩
  · exact ⟨htyped ▸ h.1, hsearched ▸ h.2⟩

theorem HasTexts.run (h : v.HasTexts) (hquiet : v.quiet.number? = some quiet) (htexts : ∀ a ∈ actions, a.TypesText) :
    (v.run actions).HasTexts := by
  have hstep : ∀ (w : TableView) (a : Action), a.TypesText → w.quiet = v.quiet ∧ w.HasTexts →
      (w.step a).state.quiet = v.quiet ∧ (w.step a).state.HasTexts :=
    fun w a ha hw => ⟨(made_step w a).2.trans hw.1, hw.2.step (by rw [hw.1, hquiet]) ha⟩
  exact (run_induct hstep ⟨rfl, h⟩ htexts).2

/-- A text that was typed at the time `s` and not changed since waits or is searched for. -/
def Holds (text : String) (s : Double) (w : TableView) : Prop :=
  w.typed = .str text ∧ ∃ searched, w.searched = .str searched ∧
    (w.typedAt = some s ∨ w.typedAt = none ∧ searched = text)

theorem Holds.step {a : Action} (h : Holds text s w) (hquiet : w.quiet.number? = some quiet)
    (ha : ∀ typed, a ≠ .search typed) : Holds text s (w.step a).state := by
  obtain ⟨htyped, searched, hsearched, hstate⟩ := h
  rcases search_step_cases hquiet a with ⟨j, rfl, -⟩ | ⟨-, hstep⟩ | ⟨-, htyped', hsearched', htypedAt'⟩
  · exact absurd rfl (ha j)
  · rw [hstep]
    rcases hstate with hs | ⟨hnone, hsame⟩
    · obtain ⟨htyped', hsearched', htypedAt', -⟩ := flush_of_typed htyped hsearched hs
      exact ⟨htyped', text, hsearched', Or.inr ⟨htypedAt', rfl⟩⟩
    · rw [flush_of_none hnone]
      exact ⟨htyped, searched, hsearched, Or.inr ⟨hnone, hsame⟩⟩
  · exact ⟨htyped'.trans htyped, searched, hsearched'.trans hsearched, htypedAt' ▸ hstate⟩

theorem LastTyped.holds (h : LastTyped v actions text s) (hv : v.HasTexts) (hquiet : v.quiet.number? = some quiet)
    (htexts : ∀ a ∈ actions, a.TypesText) : Holds text s (v.run actions) := by
  obtain ⟨before, between, rfl, hbetween, rfl⟩ := h
  have hbefore : (v.run before).HasTexts := hv.run hquiet fun a ha => htexts a (List.mem_append_left _ ha)
  have hrun : v.run (before ++ .search (.str text) :: between) =
      ((v.run before).search (.str text)).state.run between := by
    simp [run, TableView.step]
  have hstep : ∀ (w : TableView) (a : Action), (∀ typed, a ≠ .search typed) →
      w.quiet = v.quiet ∧ Holds text (v.run before).now w →
        (w.step a).state.quiet = v.quiet ∧ Holds text (v.run before).now (w.step a).state :=
    fun w a ha hw => ⟨(made_step w a).2.trans hw.1, hw.2.step (by rw [hw.1, hquiet]) ha⟩
  obtain ⟨searched, hsearched⟩ := hbefore.2
  have hstart : ((v.run before).search (.str text)).state.quiet = v.quiet ∧
      Holds text (v.run before).now ((v.run before).search (.str text)).state :=
    ⟨(made_run v before).2, rfl, searched, hsearched, Or.inl rfl⟩
  rw [hrun]
  refine (run_induct hstep hstart fun a ha typed htyped => ?_).2
  exact hbetween typed (htyped ▸ ha)

/-! ## Looking at the clock -/

theorem Holds.poll_early (h : Holds text s v) (hquiet : v.quiet.number? = some quiet)
    (hearly : elapsed quiet s v.now = false) : v.poll = ⟨v, .flag false, []⟩ := by
  obtain ⟨-, -, -, hs | ⟨hnone, -⟩⟩ := h
  · rw [poll_eq hquiet, hs, Option.any_some, hearly, if_neg (by decide)]
  · rw [poll_eq hquiet, hnone, Option.any_none, if_neg (by decide)]

theorem Holds.poll_late (h : Holds text s v) (hquiet : v.quiet.number? = some quiet)
    (hlate : elapsed quiet s v.now = true) : v.poll.state.searched = .str text := by
  obtain ⟨htyped, searched, hsearched, hs | ⟨hnone, rfl⟩⟩ := h
  · rw [poll_eq hquiet, hs, Option.any_some, hlate, if_pos rfl]
    exact (flush_of_typed htyped hsearched hs).2.1
  · rw [poll_eq hquiet, hnone, Option.any_none, if_neg (by decide)]
    exact hsearched

theorem HasTexts.flush_reply (h : v.HasTexts) : ∃ before after, v.searched = .str before ∧
    v.flush.state.searched = .str after ∧ v.flush.reply = .flag (decide (before ≠ after)) := by
  obtain ⟨⟨typed, htyped⟩, searched, hsearched⟩ := h
  cases hs : v.typedAt with
  | none =>
    rw [flush_of_none hs]
    exact ⟨searched, searched, hsearched, hsearched, by simp⟩
  | some s =>
    obtain ⟨-, hsearched', -, hreply⟩ := flush_of_typed htyped hsearched hs
    exact ⟨searched, typed, hsearched, hsearched', hreply⟩

theorem HasTexts.poll_reply (h : v.HasTexts) (hquiet : v.quiet.number? = some quiet) : ∃ before after,
    v.searched = .str before ∧ v.poll.state.searched = .str after ∧ v.poll.reply = .flag (decide (before ≠ after)) := by
  rw [poll_eq hquiet]
  split
  · exact h.flush_reply
  · obtain ⟨-, searched, hsearched⟩ := h
    exact ⟨searched, searched, hsearched, hsearched, by simp⟩

/-- **A text is searched for once it has not changed for a while.** Let only texts be typed into a fresh view. If a
text is searched for after a run without flushing, it was picked up in it when, by the rounded difference of the
times, it was old enough; by the exact times it was then older than every double less than that. Whatever happened
since, looking at the clock has the text searched for that was typed last if by the rounded difference or by the exact
times it is old enough, and changes nothing if by the rounded difference it is not. Looking at the clock and flushing
tell whether the text that is searched for has changed. -/
theorem searches_after_quiet {intrinsicFilter : Option Json} {wait pageSize : Json} {now : Double}
    (hv : v = { intrinsicFilter, quiet := wait, now, pageSize }) (hw : w = v.run actions)
    (hquiet : wait.number? = some quiet) (htexts : ∀ a ∈ actions, a.TypesText) :
    (.flush ∉ actions → ∀ text ≠ "", w.Searches text → ∃ s t, PickedUp v actions text s t ∧
      elapsed quiet s t = true ∧ (s.isFinite = true → t.isFinite = true →
        ∀ least : Numeric, least.IsDouble → least.less quiet = true → t.IsPast s least)) ∧
    (∀ text s, LastTyped v actions text s →
      (elapsed quiet s w.now = false → w.step .poll = ⟨w, .flag false, []⟩) ∧
      (elapsed quiet s w.now = true ∨
          (s.isFinite = true ∧ w.now.isFinite = true ∧ quiet.IsDouble ∧ w.now.IsPast s quiet) →
        ∀ other, (w.step .poll).state.Searches other ↔ other = text)) ∧
    ∀ a, a = .poll ∨ a = .flush → ∃ before after, (∀ other, w.Searches other ↔ other = before) ∧
      (∀ other, (w.step a).state.Searches other ↔ other = after) ∧
      (w.step a).reply = .flag (decide (before ≠ after)) := by
  subst hw
  have hquietv : v.quiet.number? = some quiet := by rw [hv, hquiet]
  have hquietw : (v.run actions).quiet.number? = some quiet := by rw [(made_run v actions).2, hquietv]
  have hfresh : v.HasTexts := hv ▸ ⟨⟨"", rfl⟩, "", rfl⟩
  have hlast : (v.run actions).HasTexts := hfresh.run hquietv htexts
  refine ⟨fun hflush text hne hsearches => ?_, fun text s hs => ⟨fun hearly => ?_, fun hlate => ?_⟩, fun a ha => ?_⟩
  · obtain ⟨-, searched, -, hsearched, -, hpicked⟩ :=
      exists_pickedUp hquietv (by rw [hv]) (by rw [hv]) (by rw [hv]) htexts hflush
    obtain rfl := (searches_iff hsearched).1 hsearches
    obtain ⟨s, t, hup, hlate⟩ := hpicked hne
    have hless : (Numeric.double (t.sub s)).less quiet = false := by simpa [elapsed] using hlate
    exact ⟨s, t, hup, hlate, fun hs ht least hleast hbelow => Double.isPast_of_not_less ht hs hless hleast hbelow⟩
  · exact (hs.holds hfresh hquietv htexts).poll_early hquietw hearly
  · have helapsed : elapsed quiet s (v.run actions).now = true := by
      rcases hlate with hlate | ⟨hs, ht, hdouble, hpast⟩
      · exact hlate
      · rw [elapsed, Double.not_less_of_isPast ht hs hdouble hpast]
        rfl
    exact fun other => searches_iff ((hs.holds hfresh hquietv htexts).poll_late hquietw helapsed)
  · obtain ⟨before, after, hbefore, hafter, hreply⟩ : ∃ before after, (v.run actions).searched = .str before ∧
        ((v.run actions).step a).state.searched = .str after ∧
          ((v.run actions).step a).reply = .flag (decide (before ≠ after)) := by
      rcases ha with rfl | rfl
      · exact hlast.poll_reply hquietw
      · exact hlast.flush_reply
    exact ⟨before, after, fun _ => searches_iff hbefore, fun _ => searches_iff hafter, hreply⟩

/-- Typing, typing again before the first text is old enough, and looking at the clock too early and late enough. -/
def retyping : List Action :=
  [.search (.str "an"), .advance (.num (.double (Double.ofRatio false 1 4))), .search (.str "ann"),
    .advance (.num (.double (Double.ofRatio false 3 8))), .poll, .advance (.num (.int 1)), .poll]

theorem searches_after_quiet_retyping :
    let v : TableView := { pageSize := .int 10 }
    (∃ s t, PickedUp v retyping "ann" s t ∧ elapsed (.double (Double.ofRatio false 1 2)) s t = true) ∧
      (v.run (retyping.take 4)).step .poll = ⟨v.run (retyping.take 4), .flag false, []⟩ := by
  intro v
  have htexts : ∀ a ∈ retyping, a.TypesText := by
    simp [retyping, Action.TypesText]
  have hsearched : (v.run retyping).searched = .str "ann" := Json.isText_iff.1 (by decide +kernel)
  constructor
  · have hquiet : v.quiet.number? = some (.double (Double.ofRatio false 1 2)) := rfl
    obtain ⟨s, t, hup, hlate, -⟩ := (searches_after_quiet rfl rfl hquiet htexts).1 nofun "ann" (by decide)
      ((searches_iff hsearched).2 rfl)
    exact ⟨s, t, hup, hlate⟩
  · have hlast : LastTyped v (retyping.take 4) "ann" (v.run (retyping.take 2)).now :=
      ⟨retyping.take 2, (retyping.take 4).drop 3, rfl, nofun, rfl⟩
    exact ((searches_after_quiet rfl rfl rfl fun a ha => htexts a (List.mem_of_mem_take ha)).2.1 "ann" _ hlast).1
      (by decide +kernel)

def longWait : Double := .finite false (3 * Nat.pow 2 1073)

/-- One and a half times `2 ^ (-52)` of a second. -/
def justAfter : Double := .finite false (3 * Nat.pow 2 1021)

/-- Half a second less `2 ^ (-52)` of a second. -/
def almostHalf : Double := .finite false (Nat.pow 2 1073 - Nat.pow 2 1022)

/-- A text is typed just after the clock has started and looked at `2 ^ (-52)` of a second after it shows a second and
a half. Rounding adds to the difference what is missing. -/
def roundedTimes : List Action :=
  [.setSchema (.obj [
      ("columns", .arr [.obj [("name", .str "name"), ("type", .str "string"), ("nullable", .bool false)]]),
      ("suggestedSort", .arr [])]),
    .advance (.num (.double justAfter)), .search (.str "a"), .advance (.num (.int 1)),
    .advance (.num (.double almostHalf)), .poll]

/-- By the exact times a text may be searched for that is not old enough. -/
theorem not_isPast_roundedTimes :
    let v : TableView := { quiet := .num (.double longWait), pageSize := .int 10 }
    .flush ∉ roundedTimes ∧ (v.run roundedTimes).Searches "a" ∧
      ¬ ∃ s t, PickedUp v roundedTimes "a" s t ∧ t.IsPast s (.double longWait) := by
  intro v
  have hsearched : (v.run roundedTimes).searched = .str "a" := Json.isText_iff.1 (by decide +kernel)
  refine ⟨nofun, (searches_iff hsearched).2 rfl, ?_⟩
  rintro ⟨s, t, ⟨before, between, after, hsplit, -, rfl, rfl, -⟩, m, n, d, hm, hn, hd, hle⟩
  have hparts : before = roundedTimes.take 2 ∧ between = (roundedTimes.take 5).drop 3 := by
    simp [roundedTimes, List.cons_eq_append_iff, List.append_eq_cons_iff] at hsplit ⊢
    exact ⟨hsplit.1, hsplit.2.1⟩
  obtain ⟨rfl, rfl⟩ := hparts
  have hn' : (v.run (roundedTimes.take 2)).now.position? = some (3 * Nat.pow 2 1021 : Nat) := by decide +kernel
  have hm' : (v.run (roundedTimes.take 5)).now.position? = some (3 * Nat.pow 2 1073 + Nat.pow 2 1022 : Nat) := by
    decide +kernel
  cases hn.symm.trans hn'
  cases hm.symm.trans hm'
  cases hd
  exact absurd hle (by decide +kernel)

end TableView

end TableQuery
