import TableQuery.Proofs.Json.Same
import TableQuery.Proofs.View.Payloads

/-!
# Requests list a column
After every action something is marked as shown in a view with data columns, under distinct names
(`TableView.ShowsSome`). A request lists the data columns that are shown, and these are at least one as long as only
data columns are marked (`TableView.ShowsOnlyData`): `TableView.lists_column`. A view that is told to show something
else, such as the count, may have all its data columns hidden (`TableView.lists_nothing_showCount`). -/

set_option autoImplicit false

namespace TableQuery

/-- Whether an action was not possible. -/
def Reply.isFailed : Reply → Bool
  | .failed _ => true
  | _ => false

/-- The names of the data columns, none if they cannot be made out. -/
def TableView.dataColumns (v : TableView) : List Json :=
  match v.columnNames with
  | .ok names => names
  | .error _ => []

namespace Event

/-- A schema that was set has been taken over, and has data columns. -/
def TakesColumns : Event → Prop
  | (.setSchema _, o) => o.reply.isFailed = false ∧ o.state.dataColumns ≠ []
  | _ => True

/-- What was to be shown are data columns. -/
def ShowsData : Event → Prop
  | (.setVisibility (.obj fields), o) =>
    ∀ p ∈ fields, p.2.truthy = true → (Json.str p.1).isIn o.state.dataColumns = true
  | _ => True

instance : DecidablePred TakesColumns
  | (.setSchema _, o) => inferInstanceAs (Decidable (o.reply.isFailed = false ∧ o.state.dataColumns ≠ []))
  | (.setVisibility _, _) | (.advance _, _) | (.search _, _) | (.poll, _) | (.flush, _) | (.setColumnFilter _ _, _)
  | (.setSorting _, _) | (.setPage _ _, _) | (.beginFetch, _) | (.acceptResponse _ _, _) | (.failFetch _ _, _)
  | (.subscribe, _) | (.unsubscribe _, _) => .isTrue trivial

instance : DecidablePred ShowsData
  | (.setVisibility (.obj fields), o) => inferInstanceAs
    (Decidable (∀ p ∈ fields, p.2.truthy = true → (Json.str p.1).isIn o.state.dataColumns = true))
  | (.setVisibility .null, _) | (.setVisibility (.bool _), _) | (.setVisibility (.num _), _)
  | (.setVisibility (.str _), _) | (.setVisibility (.arr _), _) | (.setSchema _, _) | (.advance _, _) | (.search _, _)
  | (.poll, _) | (.flush, _) | (.setColumnFilter _ _, _) | (.setSorting _, _) | (.setPage _ _, _) | (.beginFetch, _)
  | (.acceptResponse _ _, _) | (.failFetch _ _, _) | (.subscribe, _) | (.unsubscribe _, _) => .isTrue trivial

end Event

/-! ## Names of data columns -/

theorem ViewSchema.isContainer_of_columnNames {fields : Fields} {names : List Json}
    (h : ViewSchema.columnNames fields = .ok names) : ∀ name ∈ names, name.isContainer = false := by
  unfold ViewSchema.columnNames at h
  split at h
  next => cases h
  next items _ =>
    obtain ⟨found, hfound, h⟩ := bind_eq_ok.1 h
    cases h
    intro name hname
    obtain ⟨name?, hname?, rfl⟩ := List.mem_filterMap.1 hname
    obtain ⟨item, -, hitem⟩ := exists_of_mem_mapM hfound hname?
    unfold ViewSchema.columnName? at hitem
    split at hitem
    · split at hitem
      · cases hitem
      · obtain ⟨name', -, hitem⟩ := bind_eq_ok.1 hitem
        split at hitem
        · cases hitem
        next hscalar =>
          cases hitem
          exact Bool.eq_false_iff.2 hscalar
    · cases hitem
  next => cases h; simp
  next => cases h; simp
  next => cases h
  next => cases h
  next => cases h

namespace NameMap

variable {m : NameMap} {names : List Json}

theorem mem_names_set (h : ∀ p ∈ m, p.1 ∈ names) {name : Json} (hname : name ∈ names) (v : Json) :
    ∀ p ∈ m.set name v, p.1 ∈ names := by
  intro p hp
  have hkey : p.1 ∈ (m.set name v).map (·.1) := List.mem_map_of_mem hp
  rcases keys_set m name v with hkeys | ⟨-, hkeys⟩ <;> rw [hkeys] at hkey
  · obtain ⟨q, hq, hqp⟩ := List.mem_map.1 hkey
    exact hqp ▸ h q hq
  · rcases List.mem_append.1 hkey with hkey | hkey
    · obtain ⟨q, hq, hqp⟩ := List.mem_map.1 hkey
      exact hqp ▸ h q hq
    · rw [List.mem_singleton.1 hkey]
      exact hname

/-- Values that are set one after the other stand under their names, each once. -/
theorem names_setAll {α : Type} {items : List α} {name value : α → Json} (hitems : ∀ a ∈ items, name a ∈ names) :
    Distinct (items.foldl (fun m a => m.set (name a) (value a)) []) ∧
      ∀ p ∈ items.foldl (fun m a => NameMap.set m (name a) (value a)) [], p.1 ∈ names :=
  List.foldlRecOn (motive := fun m : NameMap => m.Distinct ∧ ∀ p ∈ m, p.1 ∈ names) items _ ⟨.nil, by simp⟩
    fun _ hm a ha => ⟨hm.1.set _ _, mem_names_set hm.2 (hitems a ha) _⟩

end NameMap

/-- **The columns that a schema suggests to show are data columns.** -/
theorem ViewSchema.names_visibility {fields : Fields} {names : List Json} {visibility : NameMap}
    (h : ViewSchema.visibility fields names = .ok visibility) :
    visibility.Distinct ∧ ∀ p ∈ visibility, p.1 ∈ names := by
  unfold ViewSchema.visibility at h
  split at h
  next =>
    cases h
    exact NameMap.names_setAll fun _ hname => hname
  next =>
    obtain ⟨flags, hflags, h⟩ := bind_eq_ok.1 h
    cases h
    refine NameMap.names_setAll fun p hp => ?_
    obtain ⟨name, hname, hflag⟩ := exists_of_mem_mapM hflags hp
    obtain ⟨shown, -, hflag⟩ := bind_eq_ok.1 hflag
    cases hflag
    exact hname

namespace TableView

variable {v w : TableView}

theorem dataColumns_eq {names : List Json} (h : v.columnNames = .ok names) : v.dataColumns = names := by
  rw [dataColumns, h]

theorem dataColumns_congr (h : w.schema = v.schema) : w.dataColumns = v.dataColumns := by
  rw [dataColumns, dataColumns, columnNames, columnNames, h]

theorem isContainer_of_dataColumns : ∀ name ∈ v.dataColumns, name.isContainer = false := by
  unfold dataColumns
  cases hnames : v.columnNames with
  | error f => simp
  | ok names =>
    unfold columnNames at hnames
    split at hnames
    · exact ViewSchema.isContainer_of_columnNames hnames
    · cases hnames

/-! ## What is shown -/

/-- Something is marked as shown, and no name stands among those that are shown or hidden twice. -/
structure ShowsSome (v : TableView) : Prop where
  distinct : v.visibility.Distinct
  shows : showsSome v.visibility = true

def ShowsOnlyData (v : TableView) : Prop :=
  ∀ p ∈ v.visibility, p.2.truthy = true → p.1 ∈ v.dataColumns

/-- **A name that is marked as shown is shown.** -/
theorem isShown_of_mem (h : v.visibility.Distinct) {p : Json × Json} (hp : p ∈ v.visibility)
    (htruthy : p.2.truthy = true) (hscalar : p.1.isContainer = false) : v.isShown p.1 = true := by
  unfold isShown
  by_cases hself : p.1.same p.1 = true
  · rw [h.get?_of_mem hp hself]
    exact htruthy
  · -- A name that differs from itself is never found, so that nothing hides it.
    have hmissing : v.visibility.get? p.1 = none := by
      rw [NameMap.get?, Option.map_eq_none_iff, List.find?_eq_none]
      intro q _ hsame
      have hsymm : p.1.same q.1 = true := by
        refine Json.same_symm_of_scalar ?_ hsame
        rw [Json.isContainer_eq_of_same hsame, hscalar]
      exact hself (Json.same_trans hsymm hsame)
    rw [hmissing]
    rfl

theorem ShowsSome.shown_ne_nil (h : v.ShowsSome) (hdata : v.ShowsOnlyData) : v.dataColumns.filter v.isShown ≠ [] := by
  obtain ⟨p, hp, htruthy⟩ := List.any_eq_true.1 h.shows
  have hname : p.1 ∈ v.dataColumns := hdata p hp htruthy
  have hshown : v.isShown p.1 = true := isShown_of_mem h.distinct hp htruthy (isContainer_of_dataColumns _ hname)
  exact List.ne_nil_of_mem (List.mem_filter.2 ⟨hname, hshown⟩)

/-! ## One action -/

theorem ensureVisible_of_shown {previous : NameMap} (h : showsSome previous = true) : v.ensureVisible previous =
    .ok { v with visibility := if showsSome v.visibility then v.visibility else previous } := by
  unfold ensureVisible
  rw [if_pos h]
  split <;> rfl

/-- Where something is shown before, showing and hiding columns leaves something to be shown, or is undone. -/
theorem setVisibility_cases (h : showsSome v.visibility = true) (shown : Json) :
    v.setVisibility shown = failing v .wrongKind ∨ ∃ fields next, shown = .obj fields ∧
      next = fields.foldl (fun m p => m.set (.str p.1) p.2) v.visibility ∧
      v.setVisibility shown = announce { v with visibility := if showsSome next then next else v.visibility } := by
  unfold setVisibility
  split
  next fields =>
    dsimp only
    rw [ensureVisible_of_shown h]
    exact Or.inr ⟨fields, _, rfl, rfl, rfl⟩
  next => exact Or.inl rfl

/-- Other actions leave the schema and the visibility alone. -/
theorem step_columns {a : Action} (hschema : ∀ schema, a ≠ .setSchema schema)
    (hshown : ∀ shown, a ≠ .setVisibility shown) :
    (v.step a).state.schema = v.schema ∧ (v.step a).state.visibility = v.visibility := by
  obtain ⟨_, _, _, _, _, _, _, _, _, _, _, _, _, _, hstate⟩ := state_kept v hschema hshown
  rw [hstate]
  exact ⟨rfl, rfl⟩

/-- **A schema with data columns that is taken over has some of them shown, and nothing else.** -/
theorem shows_setSchema (v : TableView) {schema : Json}
    (h : Event.TakesColumns (.setSchema schema, v.setSchema schema)) :
    (v.setSchema schema).state.ShowsSome ∧ (v.setSchema schema).state.ShowsOnlyData := by
  obtain ⟨htaken, hdata⟩ := h
  rcases setSchema_cases v schema with ⟨_, _, _, _, -, hset⟩ |
    ⟨fields, _, names, suggested, _, rfl, -, hnames, hsuggested, -, hset⟩
  · rw [hset] at htaken
    cases htaken
  · have hcolumns : (v.setSchema (.obj fields)).state.dataColumns = names := by
      rw [hset]
      exact dataColumns_eq hnames
    rw [hcolumns] at hdata
    rw [ShowsOnlyData, hcolumns, hset, announce]
    obtain ⟨hdistinct, hmem⟩ := ViewSchema.names_visibility hsuggested
    obtain ⟨hdistinct', hmem'⟩ : (NameMap.constant names (.bool true)).Distinct ∧
        ∀ p ∈ NameMap.constant names (.bool true), p.1 ∈ names := NameMap.names_setAll fun _ hname => hname
    refine ⟨⟨?_, ?_⟩, fun p hp _ => ?_⟩
    · dsimp only
      split
      · exact hdistinct
      · exact hdistinct'
    · dsimp only
      split
      next hsome => exact hsome
      next =>
        obtain ⟨p, hp, htrue⟩ := NameMap.exists_mem_constant (v := .bool true) hdata
        exact List.any_eq_true.2 ⟨p, hp, by rw [htrue]; rfl⟩
    · dsimp only at hp
      split at hp
      · exact hmem p hp
      · exact hmem' p hp

/-- **Every action leaves something shown**, if schemas have data columns. -/
theorem ShowsSome.step {a : Action} (h : v.ShowsSome) (ha : Event.TakesColumns (a, v.step a)) :
    (v.step a).state.ShowsSome := by
  by_cases hschema : ∃ schema, a = .setSchema schema
  · obtain ⟨schema, rfl⟩ := hschema
    exact (shows_setSchema v ha).1
  by_cases hshown : ∃ shown, a = .setVisibility shown
  · obtain ⟨shown, rfl⟩ := hshown
    rw [TableView.step]
    rcases setVisibility_cases h.shows shown with hset | ⟨fields, next, rfl, hnext, hset⟩ <;> rw [hset]
    · exact h
    · have hdistinct : next.Distinct := by
        rw [hnext]
        exact List.foldlRecOn fields _ h.distinct fun _ hm p _ => hm.set _ _
      rw [announce]
      constructor
      · dsimp only
        split
        · exact hdistinct
        · exact h.distinct
      · dsimp only
        split
        next hsome => exact hsome
        next => exact h.shows
  · obtain ⟨-, hvisibility⟩ := step_columns (v := v) (not_exists.1 hschema) (not_exists.1 hshown)
    exact ⟨hvisibility ▸ h.distinct, hvisibility ▸ h.shows⟩

/-- **Only data columns are marked as shown**, if nothing else is to be shown. -/
theorem ShowsOnlyData.step {a : Action} (hsome : v.ShowsSome) (h : v.ShowsOnlyData)
    (ha : Event.TakesColumns (a, v.step a)) (hdata : Event.ShowsData (a, v.step a)) :
    (v.step a).state.ShowsOnlyData := by
  by_cases hschema : ∃ schema, a = .setSchema schema
  · obtain ⟨schema, rfl⟩ := hschema
    exact (shows_setSchema v ha).2
  by_cases hshown : ∃ shown, a = .setVisibility shown
  · obtain ⟨shown, rfl⟩ := hshown
    rw [TableView.step] at hdata ⊢
    rcases setVisibility_cases hsome.shows shown with hset | ⟨fields, next, rfl, hnext, hset⟩ <;> rw [hset] at hdata ⊢
    · exact h
    · have hkept : ∀ p ∈ next, p.2.truthy = true → p.1 ∈ v.dataColumns := by
        rw [hnext]
        refine List.foldlRecOn (motive := fun m : NameMap => ∀ p ∈ m, p.2.truthy = true → p.1 ∈ v.dataColumns)
          fields _ h fun m hm field hfield p hp htruthy => ?_
        rcases NameMap.mem_or_set_of_mem_set hp with hp | ⟨hvalue, hname⟩
        · exact hm p hp htruthy
        · obtain ⟨name, hmem, hsame⟩ := List.any_eq_true.1 (hdata field hfield (hvalue ▸ htruthy))
          have hscalar : name.isContainer = false := isContainer_of_dataColumns (v := v) name hmem
          have hfield : name = .str field.1 := Json.same_str.1 (Json.same_symm_of_scalar hscalar hsame)
          have hentry : p.1 = .str field.1 := hname.elim id fun hp =>
            Json.same_str.1 (Json.same_symm_of_scalar (Json.isContainer_eq_of_same hp) hp)
          exact hentry ▸ hfield ▸ hmem
      intro p hp htruthy
      rw [announce] at hp
      dsimp only at hp
      split at hp
      · exact hkept p hp htruthy
      · exact h p hp htruthy
  · obtain ⟨hsame, hvisibility⟩ := step_columns (v := v) (not_exists.1 hschema) (not_exists.1 hshown)
    rw [ShowsOnlyData, hvisibility, dataColumns_congr hsame]
    exact h

/-! ## Runs -/

/-- **A request lists a column.** Let a view get a schema and go through any actions after that, where every schema that
is set is taken over and has data columns. A request lists the data columns that are shown, in the order of the schema.
If there are none, something else is marked as shown; if only data columns are ever to be shown, there is one. -/
theorem lists_column {schema : Json} {actions : List Action} {payload : Json}
    (hschemas : ∀ e ∈ v.events (.setSchema schema :: actions), e.TakesColumns)
    (hw : w = v.run (.setSchema schema :: actions)) (hrequest : w.request = .ok (some payload)) :
    requestedColumns payload = (w.dataColumns.filter w.isShown).map columnEntry ∧
    (requestedColumns payload = [] → ∃ p ∈ w.visibility, p.2.truthy = true ∧ p.1 ∉ w.dataColumns) ∧
    ((∀ e ∈ v.events (.setSchema schema :: actions), e.ShowsData) → requestedColumns payload ≠ []) := by
  obtain ⟨hfirst, hrest⟩ := List.forall_mem_cons.1 hschemas
  obtain ⟨hstart, hdata⟩ := shows_setSchema v hfirst
  have hw : w = (v.setSchema schema).state.run actions := hw
  have hsome : w.ShowsSome := by
    rw [hw]
    exact run_induct_events (fun _ _ ha hv => hv.step ha) hstart hrest
  have hlisted : requestedColumns payload = (w.dataColumns.filter w.isShown).map columnEntry := by
    obtain ⟨names, hnames, hcolumns, -⟩ := parts_of_request hrequest
    rw [hcolumns, dataColumns_eq hnames]
  have hnonempty : w.ShowsOnlyData → requestedColumns payload ≠ [] := by
    intro honly
    rw [hlisted, ne_eq, List.map_eq_nil_iff]
    exact hsome.shown_ne_nil honly
  refine ⟨hlisted, fun hnone => ?_, fun hshown => hnonempty ?_⟩
  · by_contra hother
    push Not at hother
    exact hnonempty hother hnone
  · obtain ⟨-, hshown⟩ := List.forall_mem_cons.1 hshown
    have hboth : w.ShowsSome ∧ w.ShowsOnlyData := by
      have hboth : ∀ e ∈ (v.setSchema schema).state.events actions, e.TakesColumns ∧ e.ShowsData :=
        fun e he => ⟨hrest e he, hshown e he⟩
      rw [hw]
      refine run_induct_events (P := fun x => x.ShowsSome ∧ x.ShowsOnlyData) ?_ ⟨hstart, hdata⟩ hboth
      exact fun _ _ ha hv => ⟨hv.1.step ha.1, hv.2.step hv.1 ha.1 ha.2⟩
    exact hboth.2

/-- A schema with a column of identifiers, one of names and the count. -/
def countedNames : Json :=
  .obj [("columns", .arr [
    .obj [("name", .str "id"), ("type", .str "uuid"), ("nullable", .bool false)],
    .obj [("name", .str "name"), ("type", .str "string"), ("nullable", .bool false)],
    .obj [("name", .str "count"), ("type", .str "count"), ("nullable", .bool false)]])]

/-- The schema, and one column after the other is hidden. -/
def hideNames : List Action :=
  [.setSchema countedNames, .setVisibility (.obj [("id", .bool false)]), .setVisibility (.obj [("name", .bool false)])]

/-- When the last column that is shown was to be hidden, it is still in the request. -/
theorem lists_column_hideNames : ∃ payload, (run { pageSize := .int 25 } hideNames).request = .ok (some payload) ∧
    requestedColumns payload ≠ [] := by
  have hevents : ∀ e ∈ events { pageSize := .int 25 } hideNames, e.TakesColumns ∧ e.ShowsData := by decide +kernel
  obtain ⟨payload, hrequest, -⟩ := exists_request (P := fun _ => True)
    (v := run { pageSize := .int 25 } hideNames) (by decide +kernel)
  obtain ⟨-, -, hlists⟩ := lists_column (fun e he => (hevents e he).1) rfl hrequest
  exact ⟨payload, hrequest, hlists fun e he => (hevents e he).2⟩

/-- The schema, and the count is shown in place of the columns. -/
def showCount : List Action :=
  [.setSchema countedNames,
    .setVisibility (.obj [("id", .bool false), ("name", .bool false), ("count", .bool true)])]

/-- **A view that is told to show nothing but the count** makes a request without columns. -/
theorem lists_nothing_showCount : (∀ e ∈ events { pageSize := .int 25 } showCount, e.TakesColumns) ∧
    ∃ payload, (run { pageSize := .int 25 } showCount).request = .ok (some payload) ∧
      requestedColumns payload = [] :=
  ⟨by decide +kernel, exists_request (by decide +kernel)⟩

end TableView

end TableQuery
