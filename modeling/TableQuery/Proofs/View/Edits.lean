import TableQuery.Proofs.View.Reset
import TableQuery.Proofs.View.Shown

/-!
# The order of edits

An edit gives another filter to a data column, another order to the rows, or another text to search for. What edits make
of a view is what the last one of each kind and column has left (`TableView.run_edits`): a filter has the place of its
column, whenever it was set. Two views that were edited in different ways, with the same outcome for each of these, ask
for the same columns, under the same filter, in the same order (`TableView.requests_of_same_edits`). Only the page may
be another one.
-/

set_option autoImplicit false

namespace TableQuery

/-! ## Edits -/

/-- A change of what is asked for that is seen to at once. -/
inductive Edit where
  | filter (column filter : Json)
  | order (entries : Json)
  | text (text : String)
  deriving Repr

namespace Edit

variable {α : Type} {part : Edit → Option α}

/-- What is done for an edit: a text is typed and then taken into the request. -/
def actions : Edit → List Action
  | .filter column f => [.setColumnFilter column f]
  | .order entries => [.setSorting entries]
  | .text s => [.search (.str s), .flush]

theorem actions_ne_setSchema (e : Edit) : ∀ a ∈ e.actions, ∀ schema, a ≠ .setSchema schema := by
  rintro a ha schema rfl
  cases e <;> simp [actions] at ha

/-- The filter that an edit gives to a column. -/
def filterFor? (name : Json) : Edit → Option Json
  | .filter column f => if name.same column then some f else none
  | _ => none

/-- The order that an edit gives to the rows, if it can be read. -/
def order? : Edit → Option (List SortState)
  | .order entries => ((Fault.wrongKind.orElse entries.elements?).bind (·.mapM TableView.readSortEntry)).toOption
  | _ => none

/-- The text that is searched for after an edit. -/
def text? : Edit → Option Json
  | .text s => some (.str s)
  | _ => none

/-- A filter is for one of some columns. -/
def IsAmong (names : List Json) : Edit → Prop
  | .filter column _ => column.isIn names = true
  | _ => True

instance (names : List Json) : DecidablePred (IsAmong names)
  | .filter column _ => inferInstanceAs (Decidable (column.isIn names = true))
  | .order _ | .text _ => .isTrue trivial

theorem filterFor?_congr {a b : Json} (hb : b.isContainer = false) (h : a.same b = true) :
    filterFor? a = filterFor? b := by
  have hback := Json.same_symm_of_scalar ((Json.isContainer_eq_of_same h).trans hb) h
  funext e
  cases e with
  | filter column f =>
    have hsame : a.same column = b.same column :=
      Bool.eq_iff_iff.2 ⟨fun ha => Json.same_trans hback ha, fun hb => Json.same_trans h hb⟩
    rw [filterFor?, filterFor?, hsame]
  | order entries | text s => rfl

/-- What the last of several edits has left of a part, or what there was of it at first. -/
def last (part : Edit → Option α) (first : α) (edits : List Edit) : α :=
  (edits.reverse.findSome? part).getD first

theorem last_cons (first : α) (e : Edit) (edits : List Edit) :
    last part first (e :: edits) = last part ((part e).getD first) edits := by
  rw [last, last, List.reverse_cons, List.findSome?_append]
  cases edits.reverse.findSome? part with
  | none => cases hpart : part e <;> simp [hpart]
  | some a => rfl

theorem last_of_none {edits : List Edit} (h : ∀ e ∈ edits, part e = none) (first : α) :
    last part first edits = first := by
  have hnone : edits.reverse.findSome? part = none :=
    List.findSome?_eq_none_iff.2 fun e he => h e (List.mem_reverse.1 he)
  rw [last, hnone, Option.getD_none]

end Edit

namespace NameMap

variable {m : NameMap} {name : Json}

/-- Something stands under a name. -/
def Has (m : NameMap) (name : Json) : Prop := ∃ p ∈ m, p.1.same name = true

theorem Has.set (h : m.Has name) (other v : Json) : (m.set other v).Has name := by
  obtain ⟨p, hp, hsame⟩ := h
  have hkey : p.1 ∈ (m.set other v).map (·.1) := by
    rcases keys_set m other v with hkeys | ⟨-, hkeys⟩ <;> rw [hkeys]
    · exact List.mem_map_of_mem hp
    · exact List.mem_append_left _ (List.mem_map_of_mem hp)
  obtain ⟨q, hq, hqp⟩ := List.mem_map.1 hkey
  exact ⟨q, hq, hqp ▸ hsame⟩

theorem has_set_self (hself : name.same name = true) (m : NameMap) (v : Json) : (m.set name v).Has name := by
  unfold set
  split
  next hold =>
    obtain ⟨p, hp, hsame⟩ := List.any_eq_true.1 hold
    exact ⟨_, List.mem_map_of_mem hp, by rw [if_pos hsame]; exact hsame⟩
  next => exact ⟨(name, v), by simp, hself⟩

theorem has_constant {names : List Json} (hname : name ∈ names) (hself : name.same name = true) (v : Json) :
    (constant names v).Has name := by
  induction names using List.reverseRecOn with
  | nil => cases hname
  | append_singleton names other ih =>
    rw [constant, List.foldl_append, List.foldl_cons, List.foldl_nil]
    rcases List.mem_append.1 hname with hold | hnew
    · exact (ih hold).set other v
    · rw [List.mem_singleton.1 hnew] at hself ⊢
      exact has_set_self hself _ v

theorem distinct_constant (names : List Json) (v : Json) : (constant names v).Distinct :=
  List.foldlRecOn names _ .nil fun _ hm name _ => hm.set name v

theorem Distinct.get?_of_same {p : Json × Json} (h : m.Distinct) (hp : p ∈ m) (hname : name.isContainer = false)
    (hsame : p.1.same name = true) : m.get? name = some p.2 := by
  induction m with
  | nil => cases hp
  | cons q m ih =>
    obtain ⟨hfirst, hrest⟩ := List.pairwise_cons.1 h
    rcases List.mem_cons.1 hp with rfl | hp
    · rw [get?, List.find?_cons_of_pos (by exact hsame), Option.map_some]
    · have hother : q.1.same name = false := by
        refine Bool.eq_false_iff.2 fun hq => ?_
        have hback : name.same p.1 = true :=
          Json.same_symm_of_scalar ((Json.isContainer_eq_of_same hsame).trans hname) hsame
        have hboth := Json.same_trans hq hback
        rw [hfirst p.1 (List.mem_map_of_mem hp)] at hboth
        cases hboth
      rw [get?, List.find?_cons_of_neg (by simp [hother])]
      exact ih hrest hp

end NameMap

def Action.NumbersPage : Action → Prop
  | .setPage index _ => index.same .null = true ∨ ∃ n, index.number? = some n
  | _ => True

namespace TableView

variable {v w : TableView}

/-! ## Views that can be edited -/

/-- A view whose schema has been taken over: filters stand under names of which no two are the same, and those of the
data columns are among them. -/
structure Editable (v : TableView) : Prop where
  hasSchema : v.schema.same .null = false
  initialised : v.initialised = true
  columns : ∃ names, v.columnNames = .ok names
  distinct : v.columnFilters.Distinct
  filtered : ∀ name ∈ v.dataColumns, name.same name = true → v.columnFilters.Has name

/-- **A schema that is taken over makes a view that can be edited.** -/
theorem editable_setSchema {schema : Json} (h : (v.setSchema schema).reply.isFailed = false) :
    (v.setSchema schema).state.Editable := by
  rcases setSchema_cases v schema with ⟨_, _, _, _, -, hset⟩ |
    ⟨fields, _, names, _, _, rfl, -, hnames, -, -, hset⟩
  · rw [hset] at h
    cases h
  · have hcolumns : (v.setSchema (.obj fields)).state.columnNames = .ok names := by
      rw [hset]
      exact hnames
    have hfilters : (v.setSchema (.obj fields)).state.columnFilters = NameMap.constant names .null := by rw [hset]; rfl
    refine ⟨by rw [hset]; rfl, by rw [hset]; rfl, ⟨names, hcolumns⟩, ?_, fun name hname hself => ?_⟩
    · rw [hfilters]
      exact NameMap.distinct_constant names .null
    · rw [dataColumns_eq hcolumns] at hname
      rw [hfilters]
      exact NameMap.has_constant hname hself .null

/-- Only a schema changes the filters of columns otherwise than by setting one, and the index of the page otherwise than
by going back to the first page or giving another one. -/
theorem filters_and_page_step {a : Action} (ha : ∀ schema, a ≠ .setSchema schema) :
    ((v.step a).state.columnFilters = v.columnFilters ∨
      ∃ column filter, (v.step a).state.columnFilters = v.columnFilters.set column filter) ∧
    ((v.step a).state.pageIndex = v.pageIndex ∨ (v.step a).state.pageIndex = .int 0 ∨
      ∃ index size, a = .setPage index size ∧ index.same .null = false ∧ (v.step a).state.pageIndex = index) := by
  have hflush : v.flush.state.columnFilters = v.columnFilters ∧
      (v.flush.state.pageIndex = v.pageIndex ∨ v.flush.state.pageIndex = .int 0) := by
    rcases state_flush v with hstate | hstate | hstate <;> rw [hstate]
    · exact ⟨rfl, Or.inl rfl⟩
    · exact ⟨rfl, Or.inl rfl⟩
    · exact ⟨rfl, Or.inr rfl⟩
  by_cases hquiet : a.IsQuiet
  · obtain ⟨_, _, _, _, _, _, _, hstate⟩ := state_quiet v hquiet
    rw [hstate]
    exact ⟨Or.inl rfl, Or.inl rfl⟩
  cases a with
  | setSchema schema => exact absurd rfl (ha schema)
  | setVisibility shown =>
    obtain ⟨visibility, hstate⟩ := state_setVisibility v shown
    rw [step, hstate]
    exact ⟨Or.inl rfl, Or.inl rfl⟩
  | search text => exact ⟨Or.inl rfl, Or.inl rfl⟩
  | setPage index size =>
    refine ⟨Or.inl rfl, ?_⟩
    cases hnull : index.same .null with
    | true => exact Or.inl (if_pos hnull)
    | false => exact Or.inr (Or.inr ⟨index, size, rfl, hnull, if_neg (by simp [hnull])⟩)
  | poll =>
    rw [step]
    rcases state_poll v with hstate | hstate <;> rw [hstate]
    · exact ⟨Or.inl rfl, Or.inl rfl⟩
    · exact ⟨Or.inl hflush.1, hflush.2.imp_right Or.inl⟩
  | flush => exact ⟨Or.inl hflush.1, hflush.2.imp_right Or.inl⟩
  | setColumnFilter column filter =>
    rw [step]
    rcases state_setColumnFilter v column filter with hstate | ⟨pageIndex, hpage, hstate⟩ <;> rw [hstate]
    · exact ⟨Or.inl rfl, Or.inl rfl⟩
    · exact ⟨Or.inr ⟨column, filter, rfl⟩, hpage.imp_right Or.inl⟩
  | setSorting entries =>
    rw [step]
    rcases state_setSorting v entries with hstate | ⟨sorting, pageIndex, -, hpage, hstate⟩ <;> rw [hstate]
    · exact ⟨Or.inl rfl, Or.inl rfl⟩
    · exact ⟨Or.inl rfl, hpage.imp_right Or.inl⟩
  | _ => exact absurd trivial hquiet

theorem schema_step {a : Action} (ha : ∀ schema, a ≠ .setSchema schema) :
    (v.step a).state.schema = v.schema ∧ (v.step a).state.initialised = v.initialised := by
  by_cases hshown : ∃ shown, a = .setVisibility shown
  · obtain ⟨shown, rfl⟩ := hshown
    obtain ⟨visibility, hstate⟩ := state_setVisibility v shown
    rw [step, hstate]
    exact ⟨rfl, rfl⟩
  · obtain ⟨_, _, _, _, _, _, _, _, _, _, _, _, _, _, hstate⟩ := state_kept v ha (not_exists.1 hshown)
    rw [hstate]
    exact ⟨rfl, rfl⟩

/-- **A view that can be edited remains one** until another schema is set. -/
theorem Editable.step {a : Action} (h : v.Editable) (ha : ∀ schema, a ≠ .setSchema schema) :
    (v.step a).state.Editable := by
  obtain ⟨hschema, hinitialised⟩ := schema_step (v := v) ha
  have hcolumns : (v.step a).state.columnNames = v.columnNames := by rw [columnNames, columnNames, hschema]
  have hfilters : (v.step a).state.columnFilters.Distinct ∧
      ∀ name, v.columnFilters.Has name → (v.step a).state.columnFilters.Has name := by
    rcases (filters_and_page_step (v := v) ha).1 with hkept | ⟨column, filter, hset⟩
    · rw [hkept]
      exact ⟨h.distinct, fun _ => id⟩
    · rw [hset]
      exact ⟨h.distinct.set column filter, fun _ hname => hname.set column filter⟩
  refine ⟨hschema ▸ h.hasSchema, hinitialised.trans h.initialised, hcolumns ▸ h.columns, hfilters.1, ?_⟩
  intro name hname hself
  exact hfilters.2 name (h.filtered name (dataColumns_congr hschema ▸ hname) hself)

/-- A filter for a data column stands in the place of its column. -/
theorem Editable.set_eq_map (h : v.Editable) {column : Json} (hcolumn : column.isIn v.dataColumns = true)
    (filter : Json) : v.columnFilters.set column filter =
      v.columnFilters.map fun p => if p.1.same column then (p.1, filter) else p := by
  obtain ⟨name, hname, hsame⟩ := List.any_eq_true.1 hcolumn
  have hback := Json.same_symm_of_scalar (isContainer_of_dataColumns name hname) hsame
  obtain ⟨p, hp, hpname⟩ := h.filtered name hname (Json.same_trans hsame hback)
  exact if_pos (List.any_eq_true.2 ⟨p, hp, Json.same_trans hpname hsame⟩)

/-- **The page of a view has a number** after a schema has been taken over, as long as pages are given by numbers. -/
theorem exists_pageNumber_run {schema : Json} {actions : List Action}
    (hschema : (v.setSchema schema).reply.isFailed = false)
    (hactions : ∀ a ∈ actions, (∀ schema, a ≠ .setSchema schema) ∧ a.NumbersPage) :
    ∃ number, ((v.setSchema schema).state.run actions).pageNumber = .ok number := by
  have hfirst : ∃ n, (v.setSchema schema).state.pageIndex.number? = some n := by
    rcases setSchema_cases v schema with ⟨_, _, _, _, -, hset⟩ | ⟨_, _, _, _, _, rfl, -, -, -, -, hset⟩
    · rw [hset] at hschema
      cases hschema
    · rw [hset]
      exact ⟨_, rfl⟩
  obtain ⟨n, hn⟩ : ∃ n, ((v.setSchema schema).state.run actions).pageIndex.number? = some n := by
    refine run_induct (P := fun w => ∃ n, w.pageIndex.number? = some n) (fun w a ha hw => ?_) hfirst hactions
    rcases (filters_and_page_step (v := w) ha.1).2 with hkept | hzero | ⟨index, size, rfl, hnull, hindex⟩
    · rwa [hkept]
    · exact ⟨_, by rw [hzero]; rfl⟩
    · rw [hindex]
      exact ha.2.resolve_left (by simp [hnull])
  exact ⟨_, by rw [pageNumber, hn]; rfl⟩

/-! ## What edits make of a view -/

def edit (v : TableView) (edits : List Edit) : TableView :=
  v.run (edits.flatMap Edit.actions)

/-- The view after a filter was set for a data column. -/
theorem Editable.run_filter (h : v.Editable) {column : Json} (hcolumn : column.isIn v.dataColumns = true) (f : Json) :
    ∃ pageIndex, (pageIndex = v.pageIndex ∨ pageIndex = .int 0) ∧ v.run (Edit.filter column f).actions =
      { v with
        pageIndex
        columnFilters := v.columnFilters.map fun p => (p.1, ((Edit.filter column f).filterFor? p.1).getD p.2) } := by
  have hmap : v.columnFilters.set column f =
      v.columnFilters.map fun p => (p.1, ((Edit.filter column f).filterFor? p.1).getD p.2) := by
    rw [h.set_eq_map hcolumn]
    refine List.map_congr_left fun p _ => ?_
    rw [Edit.filterFor?]
    split <;> rfl
  have hscalar : column.isContainer = false := by
    obtain ⟨name, hname, hsame⟩ := List.any_eq_true.1 hcolumn
    exact (Json.isContainer_eq_of_same hsame).symm.trans (isContainer_of_dataColumns name hname)
  rw [← hmap]
  show ∃ pageIndex, _ ∧ (v.setColumnFilter column f).state = _
  unfold setColumnFilter
  dsimp only
  rw [if_neg (by rw [hscalar]; decide)]
  split
  · exact ⟨_, Or.inl rfl, rfl⟩
  · exact ⟨_, Or.inr rfl, rfl⟩

/-- The view after another order was given: the one that there was if it cannot be read. -/
theorem run_order (v : TableView) (entries : Json) :
    ∃ pageIndex, (pageIndex = v.pageIndex ∨ pageIndex = .int 0) ∧ v.run (Edit.order entries).actions =
      { v with pageIndex, sorting := (Edit.order entries).order?.getD v.sorting } := by
  show ∃ pageIndex, _ ∧ (v.setSorting entries).state = _
  unfold setSorting
  rw [Edit.order?]
  split
  next f hread =>
    rw [hread]
    exact ⟨_, Or.inl rfl, rfl⟩
  next sorting hread =>
    rw [hread]
    dsimp only
    split
    · exact ⟨_, Or.inl rfl, rfl⟩
    · exact ⟨_, Or.inr rfl, rfl⟩

/-- The view after a text was typed and taken into the request. -/
theorem run_text (v : TableView) (s : String) :
    ∃ pageIndex, (pageIndex = v.pageIndex ∨ pageIndex = .int 0) ∧ v.run (Edit.text s).actions =
      { v with typed := .str s, typedAt := none, searched := .str s, pageIndex } := by
  show ∃ pageIndex, _ ∧ (v.search (.str s)).state.flush.state = _
  unfold flush search announce
  rw [if_neg (by simp)]
  dsimp only
  split
  next hsame =>
    rw [Json.same_str.1 hsame]
    exact ⟨_, Or.inl rfl, rfl⟩
  next => exact ⟨_, Or.inr rfl, rfl⟩

/-- **The view after an edit**: the filter, the order or the text is replaced, and the page may be the first one. -/
theorem Editable.run_actions (h : v.Editable) {e : Edit} (he : e.IsAmong v.dataColumns) :
    ∃ typed typedAt pageIndex, (pageIndex = v.pageIndex ∨ pageIndex = .int 0) ∧ v.run e.actions =
      { v with
        typed, typedAt, pageIndex
        searched := e.text?.getD v.searched
        columnFilters := v.columnFilters.map fun p => (p.1, (e.filterFor? p.1).getD p.2)
        sorting := e.order?.getD v.sorting } := by
  cases e with
  | filter column f =>
    obtain ⟨pageIndex, hpage, hstate⟩ := h.run_filter he f
    exact ⟨v.typed, v.typedAt, pageIndex, hpage, hstate⟩
  | order entries =>
    obtain ⟨pageIndex, hpage, hstate⟩ := run_order v entries
    have hkept : v.columnFilters.map (fun p => (p.1, ((Edit.order entries).filterFor? p.1).getD p.2)) =
        v.columnFilters := List.map_id _
    refine ⟨v.typed, v.typedAt, pageIndex, hpage, ?_⟩
    rw [hkept]
    exact hstate
  | text s =>
    obtain ⟨pageIndex, hpage, hstate⟩ := run_text v s
    have hkept : v.columnFilters.map (fun p => (p.1, ((Edit.text s).filterFor? p.1).getD p.2)) =
        v.columnFilters := List.map_id _
    refine ⟨.str s, none, pageIndex, hpage, ?_⟩
    rw [hkept]
    exact hstate

/-- **The view after edits**: each filter, the order and the text is what the last edit of it has left, and the page may
be the first one. -/
theorem run_edits (h : v.Editable) {edits : List Edit} (hedits : ∀ e ∈ edits, e.IsAmong v.dataColumns) :
    ∃ typed typedAt pageIndex, (pageIndex = v.pageIndex ∨ pageIndex = .int 0) ∧ v.edit edits =
      { v with
        typed, typedAt, pageIndex
        searched := Edit.last Edit.text? v.searched edits
        columnFilters := v.columnFilters.map fun p => (p.1, Edit.last (Edit.filterFor? p.1) p.2 edits)
        sorting := Edit.last Edit.order? v.sorting edits } := by
  induction edits generalizing v with
  | nil =>
    have hkept : v.columnFilters.map (fun p => (p.1, Edit.last (Edit.filterFor? p.1) p.2 [])) = v.columnFilters :=
      List.map_id _
    refine ⟨v.typed, v.typedAt, v.pageIndex, Or.inl rfl, ?_⟩
    rw [hkept]
    rfl
  | cons e edits ih =>
    obtain ⟨he, hedits⟩ := List.forall_mem_cons.1 hedits
    obtain ⟨typed, typedAt, pageIndex, hpage, hfirst⟩ := h.run_actions he
    have hnext : v.edit (e :: edits) = (v.run e.actions).edit edits := by
      rw [TableView.edit, List.flatMap_cons, TableView.run, List.foldl_append]
      rfl
    have hready : (v.run e.actions).Editable :=
      run_induct (fun _ _ ha hv => hv.step ha) h e.actions_ne_setSchema
    have hcolumns : (v.run e.actions).dataColumns = v.dataColumns := dataColumns_congr (by rw [hfirst])
    obtain ⟨typed', typedAt', pageIndex', hpage', hrest⟩ := ih hready (by rwa [hcolumns])
    have hfilters : (v.columnFilters.map fun p => (p.1, (e.filterFor? p.1).getD p.2)).map
        (fun p => (p.1, Edit.last (Edit.filterFor? p.1) p.2 edits)) =
          v.columnFilters.map fun p => (p.1, Edit.last (Edit.filterFor? p.1) p.2 (e :: edits)) := by
      rw [List.map_map]
      exact List.map_congr_left fun p _ => by rw [Function.comp_apply, Edit.last_cons]
    rw [hnext, hrest, hfirst, Edit.last_cons, Edit.last_cons, ← hfilters]
    refine ⟨typed', typedAt', pageIndex', ?_, rfl⟩
    rw [hfirst] at hpage'
    exact hpage'.elim (fun hkept => hkept ▸ hpage) Or.inr

theorem Editable.edit (h : v.Editable) (edits : List Edit) : (v.edit edits).Editable := by
  refine run_induct (fun _ _ ha hv => hv.step ha) h fun a ha => ?_
  obtain ⟨e, -, ha⟩ := List.mem_flatMap.1 ha
  exact e.actions_ne_setSchema a ha

/-- The filter of a column after edits. -/
def filterLeft (v : TableView) (edits : List Edit) (name : Json) : Json :=
  Edit.last (Edit.filterFor? name) ((v.columnFilters.get? name).getD .null) edits

/-- The order of the rows after edits. -/
def orderLeft (v : TableView) (edits : List Edit) : List SortState :=
  Edit.last Edit.order? v.sorting edits

/-- The text that is searched for after edits. -/
def textLeft (v : TableView) (edits : List Edit) : Json :=
  Edit.last Edit.text? v.searched edits

/-- Edits that leave the same filters of data columns leave the same filters of all columns. -/
theorem Editable.last_filter_eq (h : v.Editable) {edits edits' : List Edit}
    (hedits : ∀ e ∈ edits, e.IsAmong v.dataColumns) (hedits' : ∀ e ∈ edits', e.IsAmong v.dataColumns)
    (hfilters : ∀ name ∈ v.dataColumns, v.filterLeft edits name = v.filterLeft edits' name) {p : Json × Json}
    (hp : p ∈ v.columnFilters) :
    Edit.last (Edit.filterFor? p.1) p.2 edits = Edit.last (Edit.filterFor? p.1) p.2 edits' := by
  by_cases hdata : ∃ name ∈ v.dataColumns, p.1.same name = true
  · obtain ⟨name, hname, hsame⟩ := hdata
    have hscalar := isContainer_of_dataColumns name hname
    have hleft := hfilters name hname
    rw [filterLeft, filterLeft, h.distinct.get?_of_same hp hscalar hsame, Option.getD_some] at hleft
    rw [Edit.filterFor?_congr hscalar hsame]
    exact hleft
  · -- No edit is about a column that is no data column.
    have hnone : ∀ e : Edit, e.IsAmong v.dataColumns → e.filterFor? p.1 = none := by
      intro e he
      cases e with
      | filter column f =>
        obtain ⟨name, hname, hsame⟩ := List.any_eq_true.1 he
        rw [Edit.filterFor?, if_neg]
        intro hcolumn
        have hback := Json.same_symm_of_scalar (isContainer_of_dataColumns name hname) hsame
        exact hdata ⟨name, hname, Json.same_trans hcolumn hback⟩
      | order entries | text s => rfl
    rw [Edit.last_of_none fun e he => hnone e (hedits e he), Edit.last_of_none fun e he => hnone e (hedits' e he)]

/-! ## What is asked for after edits -/

theorem request_of_filter_error (h : v.Editable) {e : ReductionError}
    (hfilter : reduceFilter v.columnSchemas (conjunction v.filters) = .error e) : v.request = .error (.filter e) := by
  obtain ⟨names, hnames⟩ := h.columns
  unfold conjunction at hfilter
  simp [request, h.hasSchema, h.initialised, hnames, hfilter, Except.mapError, bind, Except.bind]

/-- Views that are at different pages ask for the same, or both cannot ask for anything. -/
theorem Editable.requests_of_pages (h : v.Editable) (typed : Json) (typedAt : Option Number.Double) (pageIndex : Json)
    (hw : w = { v with typed, typedAt, pageIndex }) (hpage : ∃ number, v.pageNumber = .ok number)
    (hpage' : ∃ number, w.pageNumber = .ok number) :
    (∃ e, v.request = .error e ∧ w.request = .error e) ∨
    ∃ p q, v.request = .ok (some p) ∧ w.request = .ok (some q) ∧ requestedColumns p = requestedColumns q ∧
      requestedFilter p = requestedFilter q ∧ requestedOrder p = requestedOrder q := by
  have hother : w.Editable := by
    rw [hw]
    exact { h with }
  have hcolumns : w.columnNames = v.columnNames := by rw [hw]; rfl
  have hshown : w.isShown = v.isShown := by rw [hw]; rfl
  have hschemas : w.columnSchemas = v.columnSchemas := by rw [hw]
  have hfilters : w.filters = v.filters := by rw [hw]; rfl
  have hsorting : w.sorting = v.sorting := by rw [hw]
  cases hfilter : reduceFilter v.columnSchemas (conjunction v.filters) with
  | error e =>
    refine Or.inl ⟨.filter e, request_of_filter_error h hfilter, request_of_filter_error hother ?_⟩
    rw [hschemas, hfilters, hfilter]
  | ok filter =>
    have hfilter' : reduceFilter w.columnSchemas (conjunction w.filters) = .ok filter := by
      rw [hschemas, hfilters, hfilter]
    obtain ⟨p, hp⟩ := exists_request_iff.2 ⟨h.hasSchema, h.initialised, h.columns, ⟨filter, hfilter⟩, hpage⟩
    obtain ⟨q, hq⟩ :=
      exists_request_iff.2 ⟨hother.hasSchema, hother.initialised, hother.columns, ⟨filter, hfilter'⟩, hpage'⟩
    obtain ⟨names, hnames, hpcolumns, hpfilter, hporder, -⟩ := parts_of_request hp
    obtain ⟨names', hnames', hqcolumns, hqfilter, hqorder, -⟩ := parts_of_request hq
    cases (hnames.symm.trans hcolumns.symm).trans hnames'
    refine Or.inr ⟨p, q, hp, hq, ?_, ?_, ?_⟩
    · rw [hpcolumns, hqcolumns, hshown]
    · exact Except.ok.inj ((hpfilter.symm.trans (hfilter.trans hfilter'.symm)).trans hqfilter)
    · rw [hporder, hqorder, hsorting]

theorem pageNumber_of_edit {pageIndex : Json} (hpage : pageIndex = v.pageIndex ∨ pageIndex = .int 0)
    (h : ∃ number, v.pageNumber = .ok number) (hw : w.pageIndex = pageIndex) : ∃ number, w.pageNumber = .ok number := by
  rcases hpage with hkept | hfirst
  · rw [pageNumber, hw, hkept]
    exact h
  · exact ⟨_, pageNumber_of_pageIndex (hw.trans hfirst)⟩

/-- **The order of edits does not matter.** Let a view take over a schema and go through any actions but other schemas,
and let its page have a number (`exists_pageNumber_run`). Two ways to edit it, in which filters are set for data columns
only, and which leave the same filter of every data column, the same order and the same text, lead to requests for the
same columns, with the same filter and in the same order; or neither view can make a request, for the same reason. -/
theorem requests_of_same_edits {v₀ : TableView} {schema : Json} {actions : List Action} {edits edits' : List Edit}
    (hschema : (v₀.setSchema schema).reply.isFailed = false) (hactions : ∀ a ∈ actions, ∀ schema, a ≠ .setSchema schema)
    (hv : v = (v₀.setSchema schema).state.run actions) (hpage : ∃ number, v.pageNumber = .ok number)
    (hedits : ∀ e ∈ edits, e.IsAmong v.dataColumns) (hedits' : ∀ e ∈ edits', e.IsAmong v.dataColumns)
    (hfilters : ∀ name ∈ v.dataColumns, v.filterLeft edits name = v.filterLeft edits' name)
    (horder : v.orderLeft edits = v.orderLeft edits') (htext : v.textLeft edits = v.textLeft edits') :
    (∃ e, (v.edit edits).request = .error e ∧ (v.edit edits').request = .error e) ∨
    ∃ p q, (v.edit edits).request = .ok (some p) ∧ (v.edit edits').request = .ok (some q) ∧
      requestedColumns p = requestedColumns q ∧ requestedFilter p = requestedFilter q ∧
      requestedOrder p = requestedOrder q := by
  have h : v.Editable := hv ▸ run_induct (fun _ _ ha hx => hx.step ha) (editable_setSchema hschema) hactions
  obtain ⟨typed, typedAt, pageIndex, hindex, hleft⟩ := run_edits h hedits
  obtain ⟨typed', typedAt', pageIndex', hindex', hright⟩ := run_edits h hedits'
  have hcolumnFilters : (v.columnFilters.map fun p => (p.1, Edit.last (Edit.filterFor? p.1) p.2 edits)) =
      v.columnFilters.map fun p => (p.1, Edit.last (Edit.filterFor? p.1) p.2 edits') :=
    List.map_congr_left fun p hp => by rw [h.last_filter_eq hedits hedits' hfilters hp]
  refine (h.edit edits).requests_of_pages typed' typedAt' pageIndex' ?_
    (pageNumber_of_edit hindex hpage (by rw [hleft])) (pageNumber_of_edit hindex' hpage (by rw [hright]))
  unfold orderLeft at horder
  unfold textLeft at htext
  rw [hleft, hright, hcolumnFilters, horder, htext]

/-- A view of identifiers and names, with a filter for a name. -/
def filteredNames : TableView :=
  (setSchema { pageSize := .int 25 } countedNames).state.run [.setColumnFilter (.str "name") (nameFilter "An")]

def orderBy (column : String) (desc : Bool) : Json :=
  .arr [.arr [.str column, .bool desc]]

/-- A filter for identifiers is set, the one for a name taken back and set again, and an order is replaced. -/
def detour : List Edit :=
  [.filter (.str "id") (nameFilter "7"), .filter (.str "name") .null, .text "Ewa", .order (orderBy "id" false),
    .filter (.str "name") (nameFilter "An"), .order (orderBy "name" true)]

/-- The order, two texts, and then the filter for identifiers. -/
def shortcut : List Edit :=
  [.order (orderBy "name" true), .text "Ann", .text "Ewa", .filter (.str "id") (nameFilter "7")]

/-- Both ways lead to the same request, with a text to search for and two filters. -/
theorem requests_of_same_edits_detour : ∃ p q, (filteredNames.edit detour).request = .ok (some p) ∧
    (filteredNames.edit shortcut).request = .ok (some q) ∧ requestedColumns p = requestedColumns q ∧
    requestedFilter p = requestedFilter q ∧ requestedOrder p = requestedOrder q ∧
    (((requestedFilter p).get? "val").bind Json.items?).map List.length = some 3 := by
  have hactions : ∀ a ∈ [Action.setColumnFilter (.str "name") (nameFilter "An")], ∀ schema, a ≠ .setSchema schema := by
    simp
  have hpage : ∃ number, filteredNames.pageNumber = .ok number :=
    exists_pageNumber_run (by decide +kernel) fun a ha => ⟨hactions a ha, by rw [List.mem_singleton.1 ha]; trivial⟩
  have hedits : ∀ e ∈ detour, e.IsAmong filteredNames.dataColumns := by decide +kernel
  have hedits' : ∀ e ∈ shortcut, e.IsAmong filteredNames.dataColumns := by decide +kernel
  have hcolumns : filteredNames.dataColumns = [.str "id", .str "name"] := by with_unfolding_all rfl
  have hfilters : ∀ name ∈ filteredNames.dataColumns,
      filteredNames.filterLeft detour name = filteredNames.filterLeft shortcut name := by
    rw [hcolumns]
    simp only [List.forall_mem_cons]
    exact ⟨by with_unfolding_all rfl, by with_unfolding_all rfl, by simp⟩
  obtain ⟨p, hp, hlength⟩ : ∃ p, (filteredNames.edit detour).request = .ok (some p) ∧
      (((requestedFilter p).get? "val").bind Json.items?).map List.length = some 3 :=
    exists_request (by decide +kernel)
  rcases requests_of_same_edits (by decide +kernel) hactions rfl hpage hedits hedits' hfilters
    (by with_unfolding_all rfl) (by with_unfolding_all rfl) with ⟨e, hfailed, -⟩ | ⟨p', q, hp', hq, hsame⟩
  · cases hp.symm.trans hfailed
  · cases hp.symm.trans hp'
    exact ⟨p, q, hp, hq, hsame.1, hsame.2.1, hsame.2.2, hlength⟩

end TableView

end TableQuery
