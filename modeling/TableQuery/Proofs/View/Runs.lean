import Mathlib.Logic.Basic
import TableQuery.View.TableView

/-!
# Runs of a view
A view runs through the states that actions lead to, one after the other (`TableView.run`). What every action keeps is
kept by a run (`TableView.run_induct`, `TableView.run_induct_events`). For each action that does more than one thing
there is a statement of what it changes: the other parts of the view stay as they are. -/

set_option autoImplicit false

namespace TableQuery

open Number (Numeric Double)

abbrev Event := Action × Outcome

/-- An action that is about time, answers or observers, and not about what is asked for. -/
def Action.IsQuiet : Action → Prop
  | .advance _ | .beginFetch | .acceptResponse _ _ | .failFetch _ _ | .subscribe | .unsubscribe _ => True
  | _ => False

namespace TableView

variable {v w : TableView} {actions : List Action}

/-! ## Runs -/

/-- The view after several actions. -/
def run (v : TableView) (actions : List Action) : TableView :=
  actions.foldl (fun v a => (v.step a).state) v

def events (v : TableView) : List Action → List Event
  | [] => []
  | a :: actions => (a, v.step a) :: (v.step a).state.events actions

/-- **What every allowed action keeps** is kept by a run of them. -/
theorem run_induct {P : TableView → Prop} {allowed : Action → Prop}
    (step : ∀ v a, allowed a → P v → P (v.step a).state) (h : P v) (hactions : ∀ a ∈ actions, allowed a) :
    P (v.run actions) :=
  List.foldlRecOn actions _ h fun v hv a ha => step v a (hactions a ha) hv

/-- **What is kept whenever an action comes out as it should** is kept by a run in which all of them do. -/
theorem run_induct_events {P : TableView → Prop} {happens : Event → Prop}
    (step : ∀ v a, happens (a, v.step a) → P v → P (v.step a).state) (h : P v)
    (hevents : ∀ e ∈ v.events actions, happens e) : P (v.run actions) := by
  induction actions generalizing v with
  | nil => exact h
  | cons a actions ih =>
    obtain ⟨ha, hactions⟩ := List.forall_mem_cons.1 hevents
    exact ih (step v a ha h) hactions

/-! ## What actions change -/

theorem ensureVisible_eq_ok {previous : NameMap} (h : v.ensureVisible previous = .ok w) :
    ∃ visibility, w = { v with visibility } := by
  unfold ensureVisible at h
  split at h
  · cases h
    exact ⟨_, rfl⟩
  · split at h
    · cases h
      exact ⟨_, rfl⟩
    · cases hnames : v.columnNames with
      | error f => rw [hnames] at h; cases h
      | ok names =>
        rw [hnames] at h
        cases h
        exact ⟨_, rfl⟩

/-- With nothing shown before, all columns are shown if none is. -/
theorem ensureVisible_nil {names : List Json} (hnames : v.columnNames = .ok names) : v.ensureVisible [] =
    .ok { v with
      visibility := if showsSome v.visibility then v.visibility else NameMap.constant names (.bool true) } := by
  unfold ensureVisible
  cases showsSome v.visibility with
  | true => rfl
  | false =>
    rw [hnames]
    rfl

/-- What a view that fails on a schema has taken from it: the schema itself, then the types of its columns, then which
columns are shown, without filters. The first part that cannot be read is the end. -/
inductive TakenInPart (v : TableView) (schema : Json) : TableView → Prop
  | schema {f : Fault} (hread : (Fault.missingPart.orElse schema.fields?).bind ColumnSchemas.ofFields = .error f) :
    TakenInPart v schema { v with schema }
  | types {fields : Fields} {columnSchemas : ColumnSchemas} {f : Fault} (hfields : schema = .obj fields)
    (hcolumns : ColumnSchemas.ofFields fields = .ok columnSchemas)
    (hread : (ViewSchema.columnNames fields).bind (ViewSchema.visibility fields) = .error f) :
    TakenInPart v schema { v with schema, columnSchemas }
  | visibility {fields : Fields} {columnSchemas : ColumnSchemas} {names : List Json} {suggested : NameMap} {f : Fault}
    (hfields : schema = .obj fields) (hcolumns : ColumnSchemas.ofFields fields = .ok columnSchemas)
    (hnames : ViewSchema.columnNames fields = .ok names)
    (hsuggested : ViewSchema.visibility fields names = .ok suggested) (hread : ViewSchema.sorting fields = .error f) :
    TakenInPart v schema { v with
      schema
      columnSchemas
      visibility := if showsSome suggested then suggested else NameMap.constant names (.bool true)
      columnFilters := NameMap.constant names .null }

/-- **A schema is taken over, or it is taken in part.** If it can be read, what is taken from it replaces what there was
and the page is the first one. If not, only what comes before the part that cannot be read is replaced. -/
theorem setSchema_takes (v : TableView) (schema : Json) :
    (∃ left f, v.TakenInPart schema left ∧ v.setSchema schema = failing left f) ∨
    ∃ fields columnSchemas names suggested sorting, schema = .obj fields ∧
      ColumnSchemas.ofFields fields = .ok columnSchemas ∧ ViewSchema.columnNames fields = .ok names ∧
      ViewSchema.visibility fields names = .ok suggested ∧ ViewSchema.sorting fields = .ok sorting ∧
      v.setSchema schema = announce { v with
        schema
        columnSchemas
        visibility := if showsSome suggested then suggested else NameMap.constant names (.bool true)
        columnFilters := NameMap.constant names .null
        sorting
        pageIndex := .int 0
        initialised := true } := by
  unfold setSchema
  dsimp only
  split
  next f hfields => exact Or.inl ⟨_, f, .schema (by rw [hfields]; rfl), rfl⟩
  next f hread _ => exact Or.inl ⟨_, f, .schema hread, rfl⟩
  next fields columnSchemas hfields hschemas =>
    obtain rfl : schema = .obj fields := by
      cases schema <;> cases hfields
      rfl
    rw [hfields] at hschemas
    split
    next f hnames =>
      have hnames : ViewSchema.columnNames fields = .error f := hnames
      exact Or.inl ⟨_, f, .types rfl hschemas (by rw [hnames]; rfl), rfl⟩
    next names hnames =>
      have hnames' : ViewSchema.columnNames fields = .ok names := hnames
      split
      next f hsuggested => exact Or.inl ⟨_, f, .types rfl hschemas (by rw [hnames']; exact hsuggested), rfl⟩
      next suggested hsuggested =>
        rw [@ensureVisible_nil { v with schema := .obj fields, columnSchemas, visibility := suggested } names hnames]
        dsimp only
        split
        next f hsorting => exact Or.inl ⟨_, f, .visibility rfl hschemas hnames' hsuggested hsorting, rfl⟩
        next sorting hsorting =>
          exact Or.inr ⟨fields, columnSchemas, names, suggested, sorting, rfl, hschemas, hnames', hsuggested,
            hsorting, rfl⟩

/-- A schema that is taken in part leaves the order and the page. -/
theorem TakenInPart.parts {schema : Json} (h : v.TakenInPart schema w) : ∃ columnSchemas visibility columnFilters,
    (columnFilters = v.columnFilters ∨ ∃ names, columnFilters = NameMap.constant names .null) ∧
      w = { v with schema, columnSchemas, visibility, columnFilters } := by
  cases h with
  | schema hread => exact ⟨_, _, _, Or.inl rfl, rfl⟩
  | types hfields hcolumns hread => exact ⟨_, _, _, Or.inl rfl, rfl⟩
  | visibility hfields hcolumns hnames hsuggested hread => exact ⟨_, _, _, Or.inr ⟨_, rfl⟩, rfl⟩

/-- **A schema is taken over, or it is not**, and then the order and the page stay, while other parts may have been
replaced. -/
theorem setSchema_cases (v : TableView) (schema : Json) :
    (∃ columnSchemas visibility columnFilters f,
      (columnFilters = v.columnFilters ∨ ∃ names, columnFilters = NameMap.constant names .null) ∧
        v.setSchema schema = failing { v with schema, columnSchemas, visibility, columnFilters } f) ∨
    ∃ fields columnSchemas names suggested sorting, schema = .obj fields ∧
      ColumnSchemas.ofFields fields = .ok columnSchemas ∧ ViewSchema.columnNames fields = .ok names ∧
      ViewSchema.visibility fields names = .ok suggested ∧ ViewSchema.sorting fields = .ok sorting ∧
      v.setSchema schema = announce { v with
        schema
        columnSchemas
        visibility := if showsSome suggested then suggested else NameMap.constant names (.bool true)
        columnFilters := NameMap.constant names .null
        sorting
        pageIndex := .int 0
        initialised := true } := by
  refine (setSchema_takes v schema).imp_left ?_
  rintro ⟨left, f, htaken, hset⟩
  obtain ⟨columnSchemas, visibility, columnFilters, hfilters, rfl⟩ := htaken.parts
  exact ⟨columnSchemas, visibility, columnFilters, f, hfilters, hset⟩

/-- A schema changes what is taken from it, and the page. -/
theorem state_setSchema (v : TableView) (schema : Json) :
    ∃ columnSchemas visibility columnFilters sorting pageIndex initialised, (v.setSchema schema).state =
      { v with schema, columnSchemas, visibility, columnFilters, sorting, pageIndex, initialised } := by
  rcases setSchema_cases v schema with ⟨_, _, _, _, -, hset⟩ | ⟨_, _, _, _, _, -, -, -, -, -, hset⟩
  · rw [hset]
    exact ⟨_, _, _, _, _, _, rfl⟩
  · rw [hset]
    exact ⟨_, _, _, _, _, _, rfl⟩

theorem state_setVisibility (v : TableView) (shown : Json) :
    ∃ visibility, (v.setVisibility shown).state = { v with visibility } := by
  unfold setVisibility
  split
  next =>
    dsimp only
    split
    · exact ⟨_, rfl⟩
    next hvisible =>
      obtain ⟨visibility, rfl⟩ := ensureVisible_eq_ok hvisible
      exact ⟨visibility, rfl⟩
  next => exact ⟨_, rfl⟩

theorem flush_cases (v : TableView) : v.flush = ⟨v, .flag false, []⟩ ∨
    v.flush = ⟨{ v with typedAt := none }, .flag false, []⟩ ∨ v.typed.same v.searched = false ∧
      v.flush = announce { v with typedAt := none, searched := v.typed, pageIndex := .int 0 } (.flag true) := by
  unfold flush
  split
  · exact Or.inl rfl
  dsimp only
  split
  · exact Or.inr (Or.inl rfl)
  next hother => exact Or.inr (Or.inr ⟨Bool.eq_false_iff.2 hother, rfl⟩)

theorem state_flush (v : TableView) : (v.flush).state = v ∨ (v.flush).state = { v with typedAt := none } ∨
    (v.flush).state = { v with typedAt := none, searched := v.typed, pageIndex := .int 0 } := by
  rcases flush_cases v with h | h | ⟨-, h⟩ <;> rw [h]
  · exact Or.inl rfl
  · exact Or.inr (Or.inl rfl)
  · exact Or.inr (Or.inr rfl)

theorem state_poll (v : TableView) : (v.poll).state = v ∨ v.poll = v.flush := by
  unfold poll
  split
  · exact Or.inl rfl
  split
  · exact Or.inl rfl
  split
  · exact Or.inl rfl
  · exact Or.inr rfl

theorem advance_cases (v : TableView) (seconds : Json) :
    ∃ now reply, v.advance seconds = ⟨{ v with now }, reply, []⟩ := by
  cases seconds with
  | num x =>
    cases x with
    | int n =>
      rw [advance]
      by_cases h : (Double.ofInt n).isFinite = true
      · rw [if_pos h]
        exact ⟨_, _, rfl⟩
      · rw [if_neg h]
        exact ⟨v.now, _, rfl⟩
    | double x => exact ⟨v.now.add x, _, rfl⟩
  | bool b => exact ⟨v.now.add (Numeric.int (if b then 1 else 0)).toDouble, _, rfl⟩
  | _ => exact ⟨v.now, _, rfl⟩

theorem state_advance (v : TableView) (seconds : Json) : ∃ now, (v.advance seconds).state = { v with now } := by
  obtain ⟨now, _, h⟩ := advance_cases v seconds
  exact ⟨now, by rw [h]⟩

/-- **A filter for a column is set**, and the page stays if the active filters do. -/
theorem setColumnFilter_cases (v : TableView) (column filter : Json) :
    v.setColumnFilter column filter = failing v .wrongKind ∨
      ∃ next, next = { v with columnFilters := v.columnFilters.set column filter } ∧
        v.setColumnFilter column filter = announce { next with
          pageIndex := if Json.sameItems next.activeFilters v.activeFilters then v.pageIndex else .int 0 } := by
  unfold setColumnFilter
  dsimp only
  split
  · exact Or.inl rfl
  · refine Or.inr ⟨_, rfl, ?_⟩
    split <;> rfl

theorem state_setColumnFilter (v : TableView) (column filter : Json) :
    (v.setColumnFilter column filter).state = v ∨
      ∃ pageIndex, (pageIndex = v.pageIndex ∨ pageIndex = .int 0) ∧ (v.setColumnFilter column filter).state =
        { v with columnFilters := v.columnFilters.set column filter, pageIndex } := by
  rcases setColumnFilter_cases v column filter with h | ⟨next, rfl, h⟩ <;> rw [h]
  · exact Or.inl rfl
  · exact Or.inr ⟨_, ite_eq_or_eq _ _ _, rfl⟩

/-- **An order is set** if it can be read, and the page stays if the first entry does. -/
theorem setSorting_cases (v : TableView) (entries : Json) : (∃ f, v.setSorting entries = failing v f) ∨
    ∃ sorting, (Fault.wrongKind.orElse entries.elements?).bind (·.mapM readSortEntry) = .ok sorting ∧
      v.setSorting entries = announce { v with
        sorting
        pageIndex := if sameMainSort sorting v.sorting then v.pageIndex else .int 0 } := by
  unfold setSorting
  split
  next f _ => exact Or.inl ⟨f, rfl⟩
  next sorting hsorting =>
    refine Or.inr ⟨sorting, hsorting, ?_⟩
    dsimp only
    split <;> rfl

theorem state_setSorting (v : TableView) (entries : Json) :
    (v.setSorting entries).state = v ∨
      ∃ sorting pageIndex, (Fault.wrongKind.orElse entries.elements?).bind (·.mapM readSortEntry) = .ok sorting ∧
        (pageIndex = v.pageIndex ∨ pageIndex = .int 0) ∧
        (v.setSorting entries).state = { v with sorting, pageIndex } := by
  rcases setSorting_cases v entries with ⟨f, h⟩ | ⟨sorting, hsorting, h⟩ <;> rw [h]
  · exact Or.inl rfl
  · exact Or.inr ⟨sorting, _, hsorting, ite_eq_or_eq _ _ _, rfl⟩

/-- Actions that are about time, answers and observers change nothing else. -/
theorem state_quiet (v : TableView) {a : Action} (ha : a.IsQuiet) :
    ∃ now observers nextObserver lastTicket inFlight response lastError, (v.step a).state =
      { v with now, observers, nextObserver, lastTicket, inFlight, response, lastError } := by
  cases a with
  | advance seconds =>
    obtain ⟨now, hstate⟩ := state_advance v seconds
    exact ⟨now, _, _, _, _, _, _, hstate⟩
  | beginFetch =>
    rw [step, beginFetch]
    split <;> exact ⟨_, _, _, _, _, _, _, rfl⟩
  | acceptResponse ticket response =>
    rw [step, acceptResponse]
    split <;> exact ⟨_, _, _, _, _, _, _, rfl⟩
  | failFetch ticket message =>
    rw [step, failFetch]
    split <;> exact ⟨_, _, _, _, _, _, _, rfl⟩
  | subscribe | unsubscribe observer => exact ⟨_, _, _, _, _, _, _, rfl⟩
  | _ => exact ha.elim

/-- Only a schema, or showing and hiding columns, changes what a view knows of columns and which it shows. -/
theorem state_kept (v : TableView) {a : Action} (hschema : ∀ schema, a ≠ .setSchema schema)
    (hshown : ∀ shown, a ≠ .setVisibility shown) :
    ∃ now observers nextObserver typed searched typedAt columnFilters sorting pageIndex pageSize lastTicket inFlight
        response lastError, (v.step a).state =
      { v with
        now, observers, nextObserver, typed, searched, typedAt, columnFilters, sorting, pageIndex, pageSize, lastTicket
        inFlight, response, lastError } := by
  by_cases hquiet : a.IsQuiet
  · obtain ⟨_, _, _, _, _, _, _, hstate⟩ := state_quiet v hquiet
    exact ⟨_, _, _, _, _, _, _, _, _, _, _, _, _, _, hstate⟩
  have hflush : ∃ searched typedAt pageIndex, v.flush.state = { v with searched, typedAt, pageIndex } := by
    rcases state_flush v with hstate | hstate | hstate <;> exact ⟨_, _, _, hstate⟩
  cases a with
  | setSchema schema => exact absurd rfl (hschema schema)
  | setVisibility shown => exact absurd rfl (hshown shown)
  | search text | setPage index size => exact ⟨_, _, _, _, _, _, _, _, _, _, _, _, _, _, rfl⟩
  | poll =>
    rcases state_poll v with hstate | hstate
    · exact ⟨_, _, _, _, _, _, _, _, _, _, _, _, _, _, hstate⟩
    · obtain ⟨_, _, _, hflush⟩ := hflush
      exact ⟨_, _, _, _, _, _, _, _, _, _, _, _, _, _, by rw [step, hstate, hflush]⟩
  | flush =>
    obtain ⟨_, _, _, hflush⟩ := hflush
    exact ⟨_, _, _, _, _, _, _, _, _, _, _, _, _, _, hflush⟩
  | setColumnFilter column filter =>
    rcases state_setColumnFilter v column filter with hstate | ⟨_, -, hstate⟩ <;>
      exact ⟨_, _, _, _, _, _, _, _, _, _, _, _, _, _, hstate⟩
  | setSorting entries =>
    rcases state_setSorting v entries with hstate | ⟨_, _, -, -, hstate⟩ <;>
      exact ⟨_, _, _, _, _, _, _, _, _, _, _, _, _, _, hstate⟩
  | _ => exact absurd trivial hquiet

theorem made_step (v : TableView) (a : Action) :
    (v.step a).state.intrinsicFilter = v.intrinsicFilter ∧ (v.step a).state.quiet = v.quiet := by
  by_cases hschema : ∃ schema, a = .setSchema schema
  · obtain ⟨schema, rfl⟩ := hschema
    obtain ⟨_, _, _, _, _, _, hstate⟩ := state_setSchema v schema
    rw [step, hstate]
    exact ⟨rfl, rfl⟩
  by_cases hshown : ∃ shown, a = .setVisibility shown
  · obtain ⟨shown, rfl⟩ := hshown
    obtain ⟨_, hstate⟩ := state_setVisibility v shown
    rw [step, hstate]
    exact ⟨rfl, rfl⟩
  · obtain ⟨_, _, _, _, _, _, _, _, _, _, _, _, _, _, hstate⟩ :=
      state_kept v (not_exists.1 hschema) (not_exists.1 hshown)
    rw [hstate]
    exact ⟨rfl, rfl⟩

theorem made_run (v : TableView) (actions : List Action) :
    (v.run actions).intrinsicFilter = v.intrinsicFilter ∧ (v.run actions).quiet = v.quiet := by
  have hstep : ∀ (w : TableView) (a : Action), True → w.intrinsicFilter = v.intrinsicFilter ∧ w.quiet = v.quiet →
      (w.step a).state.intrinsicFilter = v.intrinsicFilter ∧ (w.step a).state.quiet = v.quiet :=
    fun w a _ hw => ⟨(made_step w a).1.trans hw.1, (made_step w a).2.trans hw.2⟩
  exact run_induct hstep ⟨rfl, rfl⟩ fun _ _ => trivial

end TableView

end TableQuery
