import TableQuery.Proofs.Filter.Alike
import TableQuery.Proofs.View.Payloads

/-!
# Back to the first page
Rows stand on other pages when a request asks for other rows or for another order. An action that changes what is
asked for therefore goes back to the first page, and one that changes nothing of it stays on the page
(`TableView.step_page`). The exception is a schema that can be read in part only: it may have changed the filters, and
does not go back to the first page (`TableView.page_follows_request`, `TableView.page_kept_partialSchema`). Observers
are shown a state only when an action is done with it (`TableView.shown_step`). -/

set_option autoImplicit false

namespace TableQuery

/-- The values that come with an action can be written. -/
def Action.WellFormed : Action → Prop
  | .setSchema j | .search j | .setColumnFilter _ j | .setSorting j => j.WellFormed
  | _ => True

instance : DecidablePred Action.WellFormed
  | .setSchema j | .search j | .setColumnFilter _ j | .setSorting j => inferInstanceAs (Decidable j.WellFormed)
  | .advance _ | .setVisibility _ | .poll | .flush | .setPage _ _ | .beginFetch | .acceptResponse _ _ | .failFetch _ _
  | .subscribe | .unsubscribe _ => .isTrue trivial

/-- The parts of an entry of an order can be written. -/
def SortState.WellFormed (s : SortState) : Prop :=
  s.column.WellFormed ∧ s.desc.WellFormed

namespace TableView

variable {v w : TableView}

/-! ## Values that can be written -/

/-- The values that requests of a view are made of can be written. -/
structure WellFormed (v : TableView) : Prop where
  intrinsicFilter : ∀ f ∈ v.intrinsicFilter, f.WellFormed
  typed : v.typed.WellFormed
  searched : v.searched.WellFormed
  columnFilters : ∀ p ∈ v.columnFilters, p.2.WellFormed
  sorting : ∀ s ∈ v.sorting, s.WellFormed

theorem wellFormed_sorting {fields : Fields} {sorting : List SortState} (h : (Json.obj fields).WellFormed)
    (hsorting : ViewSchema.sorting fields = .ok sorting) : ∀ s ∈ sorting, s.WellFormed := by
  unfold ViewSchema.sorting at hsorting
  split at hsorting
  next items hitems =>
    intro s hs
    obtain ⟨j, hj, hs⟩ := exists_of_mem_mapM hsorting hs
    have hentry : j.WellFormed := (hitems ▸ h.value "suggestedSort").elements rfl j hj
    obtain ⟨column, hcolumn, hs⟩ := bind_eq_ok.1 hs
    cases hs
    cases j with
    | obj fields =>
      rw [Json.part] at hcolumn
      cases hlookup : fields.lookup "column" with
      | none =>
        rw [hlookup] at hcolumn
        cases hcolumn
      | some c =>
        rw [hlookup] at hcolumn
        cases hcolumn
        exact ⟨hentry.of_lookup hlookup, .bool _⟩
    | _ => cases hcolumn
  next =>
    split at hsorting
    · cases hsorting
    · cases hsorting
      simp

/-- An order that is given by its entries. -/
theorem wellFormed_of_readSortEntry {entries : Json} (h : entries.WellFormed) {sorting : List SortState}
    (hsorting : (Fault.wrongKind.orElse entries.elements?).bind (·.mapM readSortEntry) = .ok sorting) :
    ∀ s ∈ sorting, s.WellFormed := by
  obtain ⟨items, hitems, hsorting⟩ := bind_eq_ok.1 hsorting
  intro s hs
  obtain ⟨j, hj, hs⟩ := exists_of_mem_mapM hsorting hs
  have hentry : j.WellFormed := by
    cases helements : entries.elements? with
    | none =>
      rw [helements] at hitems
      cases hitems
    | some _ =>
      rw [helements] at hitems
      cases hitems
      exact h.elements helements j hj
  unfold readSortEntry at hs
  split at hs
  next column desc helements =>
    cases hs
    have hparts := hentry.elements helements
    exact ⟨hparts column (by simp), hparts desc (by simp)⟩
  next => cases hs
  next => cases hs

namespace WellFormed

variable (h : v.WellFormed)

include h

theorem flush : v.flush.state.WellFormed := by
  rcases state_flush v with hflush | hflush | hflush <;> rw [hflush]
  · exact h
  · exact { h with }
  · exact { h with searched := h.typed }

/-- **Actions with values that can be written keep it so.** -/
theorem step {a : Action} (ha : a.WellFormed) : (v.step a).state.WellFormed := by
  by_cases hquiet : a.IsQuiet
  · obtain ⟨_, _, _, _, _, _, _, hstate⟩ := state_quiet v hquiet
    rw [hstate]
    exact { h with }
  cases a with
  | setSchema schema =>
    have hnull : ∀ names, ∀ p ∈ NameMap.constant names .null, p.2.WellFormed := by
      intro names p hp
      rw [NameMap.eq_of_mem_constant hp]
      exact .null
    rw [TableView.step]
    rcases setSchema_cases v schema with ⟨_, _, columnFilters, _, hfilters, hset⟩ |
      ⟨fields, _, names, _, sorting, rfl, -, -, -, hsorting, hset⟩
    · rw [hset]
      refine { h with columnFilters := ?_ }
      rcases hfilters with rfl | ⟨names, rfl⟩
      · exact h.columnFilters
      · exact hnull names
    · rw [hset]
      exact { h with
        columnFilters := hnull names
        sorting := wellFormed_sorting ha hsorting }
  | setVisibility shown =>
    obtain ⟨visibility, hstate⟩ := state_setVisibility v shown
    rw [TableView.step, hstate]
    exact { h with }
  | search text => exact { h with typed := ha }
  | poll =>
    rcases state_poll v with hstate | hstate
    · rw [TableView.step, hstate]
      exact h
    · rw [TableView.step, hstate]
      exact h.flush
  | flush => exact h.flush
  | setColumnFilter column filter =>
    rcases state_setColumnFilter v column filter with hstate | ⟨pageIndex, -, hstate⟩
    · rw [TableView.step, hstate]
      exact h
    · rw [TableView.step, hstate]
      refine { h with columnFilters := fun p hp => ?_ }
      rcases NameMap.mem_or_eq_of_mem_set hp with hp | hp
      · exact h.columnFilters p hp
      · rw [hp]
        exact ha
  | setSorting entries =>
    rcases state_setSorting v entries with hstate | ⟨sorting, pageIndex, hread, -, hstate⟩
    · rw [TableView.step, hstate]
      exact h
    · rw [TableView.step, hstate]
      exact { h with sorting := wellFormed_of_readSortEntry ha hread }
  | setPage index size => exact { h with }
  | _ => exact absurd trivial hquiet

theorem run {actions : List Action} (hactions : ∀ a ∈ actions, a.WellFormed) : (v.run actions).WellFormed :=
  run_induct (fun _ _ ha hv => hv.step ha) h hactions

theorem activeFilters : ∀ f ∈ v.activeFilters, f.WellFormed := by
  intro f hf
  obtain ⟨p, hp, rfl⟩ := List.mem_map.1 (List.mem_filter.1 hf).1
  exact h.columnFilters p hp

end WellFormed

/-- A fresh view with a filter of its own that can be written. -/
theorem wellFormed_fresh {intrinsicFilter : Option Json} (h : ∀ f ∈ intrinsicFilter, f.WellFormed)
    (quiet pageSize : Json) : WellFormed { intrinsicFilter, quiet, pageSize } where
  intrinsicFilter := h
  typed := .str ""
  searched := .str ""
  columnFilters := by simp
  sorting := by simp

/-! ## What is asked for -/

/-- Two views ask for the same rows of the same columns in an order that starts with the same entry. -/
structure AsksAlike (v w : TableView) : Prop where
  columnSchemas : w.columnSchemas = v.columnSchemas
  intrinsicFilter : Option.Rel Json.Alike v.intrinsicFilter w.intrinsicFilter
  searched : v.searched.Alike w.searched
  activeFilters : List.Forall₂ Json.Alike v.activeFilters w.activeFilters
  mainSort : Option.Rel (fun s t => s.column.Alike t.column ∧ s.desc.Alike t.desc) v.sorting.head? w.sorting.head?

/-- A view that can be written asks for the same as another one with the same parts. -/
theorem WellFormed.asksAlike (h : v.WellFormed) (hschemas : w.columnSchemas = v.columnSchemas)
    (hintrinsic : w.intrinsicFilter = v.intrinsicFilter) (hsearched : w.searched = v.searched)
    (hactive : List.Forall₂ Json.Alike v.activeFilters w.activeFilters)
    (hsort : Option.Rel (fun s t => s.column.Alike t.column ∧ s.desc.Alike t.desc) v.sorting.head? w.sorting.head?) :
    v.AsksAlike w where
  columnSchemas := hschemas
  intrinsicFilter := by
    rw [hintrinsic]
    cases hfilter : v.intrinsicFilter with
    | none => exact .none
    | some f => exact .some (.refl (h.intrinsicFilter f hfilter))
  searched := by
    rw [hsearched]
    exact .refl h.searched
  activeFilters := hactive
  mainSort := hsort

/-- Orders that start with the same entry do so as they are written. -/
theorem alike_of_sameMainSort {a b : List SortState} (ha : ∀ s ∈ a, s.WellFormed) (hb : ∀ s ∈ b, s.WellFormed)
    (h : sameMainSort a b = true) :
    Option.Rel (fun s t => s.column.Alike t.column ∧ s.desc.Alike t.desc) b.head? a.head? := by
  cases a with
  | nil =>
    cases b with
    | nil => exact .none
    | cons t b => cases h
  | cons s a =>
    cases b with
    | nil => cases h
    | cons t b =>
      obtain ⟨hcolumn, hdesc⟩ : s.column.same t.column = true ∧ s.desc.same t.desc = true := by
        rw [← Bool.and_eq_true]
        exact h
      have hs := ha s List.mem_cons_self
      have ht := hb t List.mem_cons_self
      exact .some ⟨(Json.Alike.mk hs.1 ht.1 hcolumn).symm, (Json.Alike.mk hs.2 ht.2 hdesc).symm⟩

namespace WellFormed

variable (h : v.WellFormed)

include h

theorem alike_activeFilters : List.Forall₂ Json.Alike v.activeFilters v.activeFilters :=
  List.forall₂_same.2 fun f hf => .refl (h.activeFilters f hf)

theorem alike_mainSort :
    Option.Rel (fun s t => s.column.Alike t.column ∧ s.desc.Alike t.desc) v.sorting.head? v.sorting.head? := by
  cases hsort : v.sorting.head? with
  | none => exact .none
  | some s =>
    obtain ⟨hcolumn, hdesc⟩ := h.sorting s (List.mem_of_mem_head? hsort)
    exact .some ⟨.refl hcolumn, .refl hdesc⟩

end WellFormed

/-- **What is asked for alike is the same request**, as far as its filter and the first entry of its order go. -/
theorem AsksAlike.request (h : v.AsksAlike w) {p q : Json} (hp : v.request = .ok (some p))
    (hq : w.request = .ok (some q)) : (requestedFilter p).same (requestedFilter q) = true ∧
      Option.Rel (fun a b => a.same b = true) (requestedOrder p).head? (requestedOrder q).head? := by
  obtain ⟨-, -, -, hfilter, horder, -⟩ := parts_of_request hp
  obtain ⟨-, -, -, hfilter', horder', -⟩ := parts_of_request hq
  have hsearch : ∀ {text text' : Json}, text.Alike text' →
      List.Forall₂ Json.Alike [.obj [("type", .str "global"), ("op", .str "%v%"), ("val", text)]]
        [.obj [("type", .str "global"), ("op", .str "%v%"), ("val", text')]] := fun htext =>
    .cons (.of_forall₂ (by simp [Fields.keys])
      (.cons ⟨rfl, .str _⟩ (.cons ⟨rfl, .str _⟩ (.cons ⟨rfl, htext⟩ .nil)))) .nil
  have hfilters : List.Forall₂ Json.Alike v.filters w.filters := by
    refine List.rel_append (List.rel_append ?_ ?_) h.activeFilters
    · have hintrinsic := h.intrinsicFilter
      revert hintrinsic
      generalize v.intrinsicFilter = f
      generalize w.intrinsicFilter = g
      rintro (hfg | _)
      · exact .cons hfg .nil
      · exact .nil
    · rw [h.searched.truthy]
      split
      · exact hsearch h.searched
      · exact .nil
  have hconjunction : (conjunction v.filters).Alike (conjunction w.filters) :=
    .of_forall₂ (by simp [Fields.keys])
      (.cons ⟨rfl, .str _⟩ (.cons ⟨rfl, .str _⟩ (.cons ⟨rfl, Json.Alike.arr_iff.2 hfilters⟩ .nil)))
  constructor
  · have hreduced := hconjunction.reduceFilter v.columnSchemas
    rw [hfilter, ← h.columnSchemas, hfilter'] at hreduced
    cases hreduced with
    | ok hsame => exact hsame.same
  · have hsort := h.mainSort
    rw [horder, horder', List.head?_map, List.head?_map]
    revert hsort
    generalize v.sorting.head? = s
    generalize w.sorting.head? = t
    rintro (⟨hcolumn, hdesc⟩ | _)
    · refine .some (Json.Alike.of_forall₂ (by simp [Fields.keys]) ?_).same
      rw [hdesc.truthy]
      exact .cons ⟨rfl, .str _⟩ (.cons ⟨rfl, hcolumn⟩ (.cons ⟨rfl, .str _⟩ .nil))
    · exact .none

/-! ## One action -/

section Step

variable {a : Action}

/-- **Observers are shown a state when an action is done with it.** -/
theorem shown_step (v : TableView) (a : Action) : ∀ x ∈ (v.step a).shown, x = (v.step a).state := by
  have hannounced : ∀ (w : TableView) (r : Reply), ∀ x ∈ (announce w r).shown, x = (announce w r).state :=
    fun _ _ _ hx => List.mem_singleton.1 hx
  have hflush : ∀ x ∈ v.flush.shown, x = v.flush.state := by
    rcases flush_cases v with h | h | ⟨-, h⟩ <;> rw [h]
    · simp
    · simp
    · exact hannounced _ _
  cases a with
  | advance seconds =>
    rw [step]
    obtain ⟨_, _, h⟩ := advance_cases v seconds
    rw [h]
    simp
  | setSchema schema =>
    rw [step]
    rcases setSchema_cases v schema with ⟨_, _, _, _, -, h⟩ | ⟨_, _, _, _, _, -, -, -, -, -, h⟩ <;> rw [h]
    · simp [failing]
    · exact hannounced _ _
  | setVisibility shown =>
    rw [step]
    unfold setVisibility
    split
    · dsimp only
      split
      · simp [failing]
      · exact hannounced _ _
    · simp [failing]
  | poll =>
    rw [step]
    unfold poll
    split
    · simp
    split
    · simp [failing]
    split
    · simp
    · exact hflush
  | flush => exact hflush
  | setColumnFilter column filter =>
    rw [step]
    rcases setColumnFilter_cases v column filter with h | ⟨_, -, h⟩ <;> rw [h]
    · simp [failing]
    · exact hannounced _ _
  | setSorting entries =>
    rw [step]
    rcases setSorting_cases v entries with ⟨_, h⟩ | ⟨_, -, h⟩ <;> rw [h]
    · simp [failing]
    · exact hannounced _ _
  | beginFetch =>
    rw [step, beginFetch]
    split <;> simp
  | acceptResponse ticket response =>
    rw [step, acceptResponse]
    split
    · simp
    · exact hannounced _ _
  | failFetch ticket message =>
    rw [step, failFetch]
    split
    · simp
    · exact hannounced _ _
  | search text | setPage index size => exact hannounced _ _
  | subscribe | unsubscribe observer => simp [step]

/-- **An action goes back to the first page, or asks for the same rows in the same order.** Only a schema that cannot be
read to its end does neither. -/
theorem step_page (h : v.WellFormed) (ha : a.WellFormed) (hpage : ∀ index size, a ≠ .setPage index size) :
    (v.step a).state.pageIndex = .int 0 ∨ v.AsksAlike (v.step a).state ∨
      (∃ schema f, a = .setSchema schema ∧ (v.step a).reply = .failed (.fault f)) ∧
        (v.step a).state.pageIndex = v.pageIndex := by
  have hflush : v.flush.state.pageIndex = .int 0 ∨ v.AsksAlike v.flush.state := by
    rcases flush_cases v with hstate | hstate | ⟨-, hstate⟩ <;> rw [hstate]
    · exact Or.inr (h.asksAlike rfl rfl rfl h.alike_activeFilters h.alike_mainSort)
    · exact Or.inr (h.asksAlike rfl rfl rfl h.alike_activeFilters h.alike_mainSort)
    · exact Or.inl rfl
  by_cases hquiet : a.IsQuiet
  · obtain ⟨_, _, _, _, _, _, _, hstate⟩ := state_quiet v hquiet
    rw [hstate]
    exact Or.inr (Or.inl (h.asksAlike rfl rfl rfl h.alike_activeFilters h.alike_mainSort))
  cases a with
  | setSchema schema =>
    rw [step]
    rcases setSchema_cases v schema with ⟨_, _, _, f, -, hset⟩ | ⟨_, _, _, _, _, -, -, -, -, -, hset⟩ <;> rw [hset]
    · exact Or.inr (Or.inr ⟨⟨schema, f, rfl, rfl⟩, rfl⟩)
    · exact Or.inl rfl
  | setVisibility shown =>
    obtain ⟨visibility, hstate⟩ := state_setVisibility v shown
    rw [step, hstate]
    exact Or.inr (Or.inl (h.asksAlike rfl rfl rfl h.alike_activeFilters h.alike_mainSort))
  | search text => exact Or.inr (Or.inl (h.asksAlike rfl rfl rfl h.alike_activeFilters h.alike_mainSort))
  | poll =>
    rcases state_poll v with hstate | hstate <;> rw [step, hstate]
    · exact Or.inr (Or.inl (h.asksAlike rfl rfl rfl h.alike_activeFilters h.alike_mainSort))
    · exact hflush.imp_right Or.inl
  | flush => exact hflush.imp_right Or.inl
  | setColumnFilter column filter =>
    have hnext := h.step ha
    rw [step] at hnext ⊢
    rcases setColumnFilter_cases v column filter with hset | ⟨next, rfl, hset⟩ <;> rw [hset] at hnext ⊢
    · exact Or.inr (Or.inl (h.asksAlike rfl rfl rfl h.alike_activeFilters h.alike_mainSort))
    · rw [announce]
      dsimp only
      split
      next hsame =>
        -- The active filters are compared with those before, item by item.
        exact Or.inr (Or.inl (h.asksAlike rfl rfl rfl
          (Json.Alike.of_sameItems hnext.activeFilters h.activeFilters hsame) h.alike_mainSort))
      next => exact Or.inl rfl
  | setSorting entries =>
    have hnext := h.step ha
    rw [step] at hnext ⊢
    rcases setSorting_cases v entries with ⟨_, hset⟩ | ⟨sorting, -, hset⟩ <;> rw [hset] at hnext ⊢
    · exact Or.inr (Or.inl (h.asksAlike rfl rfl rfl h.alike_activeFilters h.alike_mainSort))
    · rw [announce]
      dsimp only
      split
      next hsame =>
        exact Or.inr (Or.inl (h.asksAlike rfl rfl rfl h.alike_activeFilters
          (alike_of_sameMainSort hnext.sorting h.sorting hsame)))
      next => exact Or.inl rfl
  | setPage index size => exact absurd rfl (hpage index size)
  | _ => exact absurd trivial hquiet

/-- **An action that changes nothing of what is asked for stays on the page.** -/
theorem pageIndex_step (hpage : ∀ index size, a ≠ .setPage index size) (hschema : ∀ schema, a ≠ .setSchema schema)
    (hactive : Json.sameItems (v.step a).state.activeFilters v.activeFilters = true)
    (hsearched : (v.step a).state.searched.same v.searched = true)
    (hsort : sameMainSort (v.step a).state.sorting v.sorting = true) :
    (v.step a).state.pageIndex = v.pageIndex := by
  have hflush : v.flush.state.searched.same v.searched = true → v.flush.state.pageIndex = v.pageIndex := by
    rcases flush_cases v with hstate | hstate | ⟨hother, hstate⟩ <;> rw [hstate] <;> intro hsame
    · rfl
    · rfl
    · exact absurd (hsame.symm.trans hother) (by decide)
  by_cases hquiet : a.IsQuiet
  · obtain ⟨_, _, _, _, _, _, _, hstate⟩ := state_quiet v hquiet
    rw [hstate]
  cases a with
  | setSchema schema => exact absurd rfl (hschema schema)
  | setVisibility shown =>
    obtain ⟨visibility, hstate⟩ := state_setVisibility v shown
    rw [step, hstate]
  | search text => rfl
  | poll =>
    rw [step] at hsearched ⊢
    rcases state_poll v with hstate | hstate
    · rw [hstate]
    · rw [hstate] at hsearched ⊢
      exact hflush hsearched
  | flush => exact hflush hsearched
  | setColumnFilter column filter =>
    rw [step] at hactive ⊢
    rcases setColumnFilter_cases v column filter with hset | ⟨next, rfl, hset⟩ <;> rw [hset] at hactive ⊢
    · rfl
    · exact if_pos hactive
  | setSorting entries =>
    rw [step] at hsort ⊢
    rcases setSorting_cases v entries with ⟨_, hset⟩ | ⟨sorting, -, hset⟩ <;> rw [hset] at hsort ⊢
    · rfl
    · exact if_pos hsort
  | setPage index size => exact absurd rfl (hpage index size)
  | _ => exact absurd trivial hquiet

end Step

/-! ## Runs -/

theorem pageNumber_of_pageIndex (h : v.pageIndex = .int 0) : v.pageNumber = .ok (.int 1) := by
  rw [pageNumber, h]
  rfl

/-- **The page follows the request.** In a view that has come about by any actions with values that can be written, let
there be one more that does not choose a page. If the filter of the request or the first entry of its order is another
one then, the page is the first one, or the action is a schema that was taken over in part only, and the page is the
one that it was. Where the active filters, the text searched for and the first entry of the order are the same, and the
action is no schema, the page is the same. Observers are shown nothing but the state in the end. -/
theorem page_follows_request {intrinsicFilter : Option Json} (hintrinsic : ∀ f ∈ intrinsicFilter, f.WellFormed)
    (quiet pageSize : Json) {actions : List Action} (hactions : ∀ a ∈ actions, a.WellFormed)
    {a : Action} (ha : a.WellFormed) (hpage : ∀ index size, a ≠ .setPage index size)
    (hv : v = run { intrinsicFilter, quiet, pageSize } actions) (hw : w = (v.step a).state) :
    (∀ p q, v.request = .ok (some p) → w.request = .ok (some q) →
      ¬ ((requestedFilter p).same (requestedFilter q) = true ∧
        Option.Rel (fun x y => x.same y = true) (requestedOrder p).head? (requestedOrder q).head?) →
      requestedPage q = .int 1 ∨ (∃ schema f, a = .setSchema schema ∧ (v.step a).reply = .failed (.fault f)) ∧
        requestedPage q = requestedPage p) ∧
    ((∀ schema, a ≠ .setSchema schema) → Json.sameItems w.activeFilters v.activeFilters = true →
      w.searched.same v.searched = true → sameMainSort w.sorting v.sorting = true → w.pageIndex = v.pageIndex) ∧
    ∀ x ∈ (v.step a).shown, x = w := by
  have hwell : v.WellFormed := hv ▸ (wellFormed_fresh hintrinsic quiet pageSize).run hactions
  subst hw
  refine ⟨fun p q hp hq hother => ?_, fun hschema hactive hsearched hsort => ?_, shown_step v a⟩
  · obtain ⟨-, -, -, -, -, hnumber⟩ := parts_of_request hp
    obtain ⟨-, -, -, -, -, hnumber'⟩ := parts_of_request hq
    rcases step_page hwell ha hpage with hfirst | halike | ⟨hfailed, hkept⟩
    · rw [pageNumber_of_pageIndex hfirst] at hnumber'
      exact Or.inl (Except.ok.inj hnumber').symm
    · exact absurd (halike.request hp hq) hother
    · rw [pageNumber, hkept] at hnumber'
      exact Or.inr ⟨hfailed, Except.ok.inj (hnumber'.symm.trans hnumber)⟩
  · exact pageIndex_step hpage hschema hactive hsearched hsort

/-- A schema with one column of texts, and an order that it suggests. -/
def schemaOfNames (suggestedSort : List Json) : Json :=
  .obj [("columns", .arr [.obj [("name", .str "name"), ("type", .str "string"), ("nullable", .bool false)]]),
    ("suggestedSort", .arr suggestedSort)]

def nameFilter (name : String) : Json :=
  .obj [("type", .str "column"), ("column", .str "name"), ("op", .str "%v%"), ("val", .str name)]

/-- The schema, a filter for a name, and then the fourth page. -/
def fourthPage : List Action :=
  [.setSchema (schemaOfNames []), .setColumnFilter (.str "name") (nameFilter "An"), .setPage (.int 3) .null]

/-- With another filter a view is back at the first page. -/
theorem page_follows_request_otherName : ∃ p q, (run { pageSize := .int 25 } fourthPage).request = .ok (some p) ∧
    ((run { pageSize := .int 25 } fourthPage).step
      (.setColumnFilter (.str "name") (nameFilter "Ewa"))).state.request = .ok (some q) ∧
    (requestedPage p).number? = some (.int 4) ∧ requestedPage q = .int 1 := by
  have hintrinsic : ∀ f ∈ (none : Option Json), f.WellFormed := by simp
  have hactions : ∀ a ∈ fourthPage, a.WellFormed := by decide +kernel
  have ha : (Action.setColumnFilter (.str "name") (nameFilter "Ewa")).WellFormed := by decide +kernel
  obtain ⟨p, hp, hpage, hfilter⟩ : ∃ p, (run { pageSize := .int 25 } fourthPage).request = .ok (some p) ∧
      (requestedPage p).number? = some (.int 4) ∧ (nameFilter "An").same (requestedFilter p) = true :=
    exists_request (by decide +kernel)
  obtain ⟨q, hq, hother⟩ : ∃ q, ((run { pageSize := .int 25 } fourthPage).step
      (.setColumnFilter (.str "name") (nameFilter "Ewa"))).state.request = .ok (some q) ∧
        (nameFilter "An").same (requestedFilter q) = false :=
    exists_request (by decide +kernel)
  obtain ⟨hpages, -, -⟩ := page_follows_request hintrinsic _ (.int 25) hactions ha nofun rfl rfl
  have hchanged : (requestedFilter p).same (requestedFilter q) ≠ true := fun hsame =>
    absurd ((Json.same_trans hfilter hsame).symm.trans hother) (by decide)
  rcases hpages p q hp hq fun hsame => hchanged hsame.1 with hfirst | ⟨⟨schema, f, hschema, -⟩, -⟩
  · exact ⟨p, q, hp, hq, hpage, hfirst⟩
  · cases hschema

/-- A schema whose suggested order lacks a column. -/
def partialSchema : Json :=
  schemaOfNames [.obj [("dir", .str "asc")]]

/-- **A schema that is taken over in part changes the filter and not the page.** A view at its fourth page has forgotten
the filter for a name then, and still asks for the fourth page. -/
theorem page_kept_partialSchema : (∀ a ∈ fourthPage, a.WellFormed) ∧ (Action.setSchema partialSchema).WellFormed ∧
    (run { pageSize := .int 25 } fourthPage).initialised = true ∧
    ∃ p q, (run { pageSize := .int 25 } fourthPage).request = .ok (some p) ∧
      ((run { pageSize := .int 25 } fourthPage).step (.setSchema partialSchema)).state.request = .ok (some q) ∧
      (requestedFilter p).same (requestedFilter q) = false ∧ (requestedPage q).number? = some (.int 4) := by
  refine ⟨by decide +kernel, by decide +kernel, by decide +kernel, ?_⟩
  obtain ⟨p, hp, hfilter⟩ : ∃ p, (run { pageSize := .int 25 } fourthPage).request = .ok (some p) ∧
      (requestedFilter p).same (.str "always") = false :=
    exists_request (by decide +kernel)
  obtain ⟨q, hq, halways, hpage⟩ : ∃ q, ((run { pageSize := .int 25 } fourthPage).step
      (.setSchema partialSchema)).state.request = .ok (some q) ∧ (requestedFilter q).isText "always" = true ∧
        (requestedPage q).number? = some (.int 4) :=
    exists_request (by decide +kernel)
  rw [← Json.isText_iff.1 halways] at hfilter
  exact ⟨p, q, hp, hq, hfilter, hpage⟩

end TableView

end TableQuery
