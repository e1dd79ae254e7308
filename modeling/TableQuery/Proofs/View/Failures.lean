import TableQuery.Proofs.View.Reset
import TableQuery.Proofs.View.Shown

/-!
# What an action that fails leaves behind

Most actions find out whether they are possible before they change anything. Two do not: a schema is written down before
it is read, and each part that is taken from it before the next one is read (`TableView.TakenInPart`); and which columns
are shown is written down before it is found out that none is (`TableView.failed_setVisibility`). A view that has taken
over all its schemas is left as it was by everything but another schema (`TableView.left_by_failure`).
-/

set_option autoImplicit false

namespace TableQuery

open Number (Double)

/-- A schema that was set has been taken over. -/
def Event.TakesSchema : Event → Prop
  | (.setSchema _, o) => o.reply.isFailed = false
  | _ => True

instance : DecidablePred Event.TakesSchema
  | (.setSchema _, o) => inferInstanceAs (Decidable (o.reply.isFailed = false))
  | (.setVisibility _, _) | (.advance _, _) | (.search _, _) | (.poll, _) | (.flush, _) | (.setColumnFilter _ _, _)
  | (.setSorting _, _) | (.setPage _ _, _) | (.beginFetch, _) | (.acceptResponse _ _, _) | (.failFetch _ _, _)
  | (.subscribe, _) | (.unsubscribe _, _) => .isTrue trivial

namespace TableView

variable {v w : TableView} {a : Action}

/-- Which columns are shown or hidden when some more are. -/
def shownWith (v : TableView) (fields : Fields) : NameMap :=
  fields.foldl (fun m p => m.set (.str p.1) p.2) v.visibility

/-! ## One action -/

theorem failed_setSchema {schema : Json} (h : (v.setSchema schema).reply.isFailed = true) :
    v.TakenInPart schema (v.setSchema schema).state := by
  rcases setSchema_takes v schema with ⟨left, f, htaken, hset⟩ | ⟨_, _, _, _, _, -, -, -, -, -, hset⟩
  · rw [hset]
    exact htaken
  · rw [hset] at h
    cases h

/-- **To show and hide columns fails with a change** only where nothing was shown before and nothing would be after it,
so that all columns are to be shown, and these are not known. -/
theorem failed_setVisibility {shown : Json} (h : (v.setVisibility shown).reply.isFailed = true) :
    (v.setVisibility shown).state = v ∨ ∃ fields f, shown = .obj fields ∧ v.columnNames = .error f ∧
      showsSome v.visibility = false ∧ showsSome (v.shownWith fields) = false ∧
      (v.setVisibility shown).state = { v with visibility := v.shownWith fields } := by
  cases shown with
  | obj fields =>
    rw [setVisibility] at h ⊢
    dsimp only at h ⊢
    rw [ensureVisible] at h ⊢
    by_cases hafter : showsSome (v.shownWith fields) = true
    · rw [if_pos (by exact hafter)] at h
      cases h
    by_cases hbefore : showsSome v.visibility = true
    · rw [if_neg (by exact hafter), if_pos hbefore] at h
      cases h
    rw [if_neg (by exact hafter), if_neg hbefore] at h ⊢
    cases hnames : v.columnNames with
    | ok names =>
      have hnames : ({ v with visibility := v.shownWith fields } : TableView).columnNames = .ok names := hnames
      rw [shownWith] at hnames
      rw [hnames] at h
      cases h
    | error f =>
      have hunknown : ({ v with visibility := v.shownWith fields } : TableView).columnNames = .error f := hnames
      rw [shownWith] at hunknown
      rw [hunknown]
      exact Or.inr ⟨fields, f, rfl, rfl, Bool.eq_false_iff.2 hbefore, Bool.eq_false_iff.2 hafter, rfl⟩
  | _ => exact Or.inl rfl

theorem failed_advance {seconds : Json} (h : (v.advance seconds).reply.isFailed = true) :
    (v.advance seconds).state = v := by
  cases seconds with
  | num x =>
    cases x with
    | int n =>
      rw [advance] at h ⊢
      by_cases hfinite : (Double.ofInt n).isFinite = true
      · rw [if_pos hfinite] at h
        cases h
      · rw [if_neg hfinite]
        rfl
    | double x => cases h
  | bool b => cases h
  | _ => rfl

/-- **Every other action that fails leaves the view as it was.** -/
theorem state_of_failed (hschema : ∀ schema, a ≠ .setSchema schema) (hshown : ∀ shown, a ≠ .setVisibility shown)
    (h : (v.step a).reply.isFailed = true) : (v.step a).state = v := by
  have hflush : v.flush.reply.isFailed = true → v.flush.state = v := by
    rcases flush_cases v with hflush | hflush | ⟨-, hflush⟩ <;> rw [hflush] <;> intro hfailed <;> cases hfailed
  cases a with
  | setSchema schema => exact absurd rfl (hschema schema)
  | setVisibility shown => exact absurd rfl (hshown shown)
  | advance seconds => exact failed_advance h
  | poll =>
    rw [step] at h ⊢
    rcases state_poll v with hstate | hpoll
    · exact hstate
    · rw [hpoll] at h ⊢
      exact hflush h
  | flush => exact hflush h
  | setColumnFilter column filter =>
    rw [step] at h ⊢
    rcases setColumnFilter_cases v column filter with hset | ⟨_, -, hset⟩ <;> rw [hset] at h ⊢
    · rfl
    · cases h
  | setSorting entries =>
    rw [step] at h ⊢
    rcases setSorting_cases v entries with ⟨_, hset⟩ | ⟨_, -, hset⟩ <;> rw [hset] at h ⊢
    · rfl
    · cases h
  | beginFetch =>
    rw [step, beginFetch] at h ⊢
    split at h
    · rfl
    · rfl
    · cases h
  | acceptResponse ticket response =>
    rw [step, acceptResponse] at h
    split at h <;> cases h
  | failFetch ticket message =>
    rw [step, failFetch] at h
    split at h <;> cases h
  | search text | setPage index size | subscribe | unsubscribe observer => cases h

theorem columnNames_setSchema {schema : Json} (h : (v.setSchema schema).reply.isFailed = false) :
    ∃ names, (v.setSchema schema).state.columnNames = .ok names := by
  rcases setSchema_takes v schema with ⟨left, f, -, hset⟩ | ⟨_, _, names, _, _, rfl, -, hnames, -, -, hset⟩
  · rw [hset] at h
    cases h
  · rw [hset]
    exact ⟨names, hnames⟩

theorem columnNames_step (h : ∃ names, v.columnNames = .ok names) (ha : Event.TakesSchema (a, v.step a)) :
    ∃ names, (v.step a).state.columnNames = .ok names := by
  by_cases hschema : ∃ schema, a = .setSchema schema
  · obtain ⟨schema, rfl⟩ := hschema
    exact columnNames_setSchema ha
  by_cases hshown : ∃ shown, a = .setVisibility shown
  · obtain ⟨shown, rfl⟩ := hshown
    obtain ⟨visibility, hstate⟩ := state_setVisibility v shown
    rw [step, hstate]
    exact h
  · obtain ⟨hsame, -⟩ := step_columns (v := v) (not_exists.1 hschema) (not_exists.1 hshown)
    rw [columnNames, hsame]
    exact h

/-! ## Runs -/

theorem columnNames_run {actions : List Action} (htaken : ∀ e ∈ v.events actions, e.TakesSchema)
    (hset : ∃ schema, .setSchema schema ∈ actions) : ∃ names, (v.run actions).columnNames = .ok names := by
  obtain ⟨schema, hset⟩ := hset
  induction actions generalizing v with
  | nil => cases hset
  | cons a actions ih =>
    obtain ⟨ha, hactions⟩ := List.forall_mem_cons.1 htaken
    rcases List.mem_cons.1 hset with rfl | hset
    · -- From the schema on, every action leaves the columns known.
      have hstart : ∃ names, (v.step (.setSchema schema)).state.columnNames = .ok names := columnNames_setSchema ha
      have hrun : v.run (.setSchema schema :: actions) = (v.step (.setSchema schema)).state.run actions := rfl
      rw [hrun]
      exact run_induct_events (P := fun w => ∃ names, w.columnNames = .ok names)
        (fun _ _ ha hv => columnNames_step hv ha) hstart hactions
    · exact ih hactions hset

/-- **What an action that fails leaves behind.** In a view that has come about by any actions, let there be one that is
not possible. If it sets a schema, the schema has been taken in part. If it shows and hides columns, nothing is changed,
or nothing is marked as shown, as nothing was before, because the columns are not known. Any other one changes nothing.
In a view that has a schema, and has taken over each one, only a schema leaves a change when it fails. -/
theorem left_by_failure (intrinsicFilter : Option Json) (quiet pageSize : Json) {actions : List Action}
    (hv : v = run { intrinsicFilter, quiet, pageSize } actions) (hfailed : (v.step a).reply.isFailed = true) :
    (∀ schema, a = .setSchema schema → v.TakenInPart schema (v.step a).state) ∧
    (∀ shown, a = .setVisibility shown → (v.step a).state = v ∨ ∃ fields f, shown = .obj fields ∧
      v.columnNames = .error f ∧ showsSome v.visibility = false ∧ showsSome (v.shownWith fields) = false ∧
      (v.step a).state = { v with visibility := v.shownWith fields }) ∧
    ((∀ schema, a ≠ .setSchema schema) → (∀ shown, a ≠ .setVisibility shown) → (v.step a).state = v) ∧
    ((∀ e ∈ events { intrinsicFilter, quiet, pageSize } actions, e.TakesSchema) →
      (∃ schema, .setSchema schema ∈ actions) → (∀ schema, a ≠ .setSchema schema) → (v.step a).state = v) := by
  have hshown : ∀ shown, a = .setVisibility shown → (v.step a).state = v ∨ ∃ fields f, shown = .obj fields ∧
      v.columnNames = .error f ∧ showsSome v.visibility = false ∧ showsSome (v.shownWith fields) = false ∧
      (v.step a).state = { v with visibility := v.shownWith fields } := by
    rintro shown rfl
    exact failed_setVisibility hfailed
  refine ⟨?_, hshown, fun hschema hother => state_of_failed hschema hother hfailed, fun htaken hset hschema => ?_⟩
  · rintro schema rfl
    exact failed_setSchema hfailed
  by_cases hshow : ∃ shown, a = .setVisibility shown
  · obtain ⟨shown, rfl⟩ := hshow
    rcases hshown shown rfl with hstate | ⟨_, f, -, hunknown, -⟩
    · exact hstate
    · obtain ⟨names, hnames⟩ := columnNames_run htaken hset
      rw [← hv, hunknown] at hnames
      cases hnames
  · exact state_of_failed hschema (not_exists.1 hshow) hfailed

def hideName : Action :=
  .setVisibility (.obj [("name", .bool false)])

/-- An order that is no list of pairs leaves a view with a schema as it was. -/
theorem left_by_failure_noPair :
    ((run { pageSize := .int 25 } [.setSchema (schemaOfNames []), hideName]).step
      (.setSorting (.arr [.arr []]))).state =
        run { pageSize := .int 25 } [.setSchema (schemaOfNames []), hideName] := by
  have htaken : ∀ e ∈ events { pageSize := .int 25 } [.setSchema (schemaOfNames []), hideName], e.TakesSchema := by
    decide +kernel
  have hfailed : ((run { pageSize := .int 25 } [.setSchema (schemaOfNames []), hideName]).step
      (.setSorting (.arr [.arr []]))).reply.isFailed = true := by
    decide +kernel
  obtain ⟨-, -, -, hkept⟩ := left_by_failure none _ (.int 25) rfl hfailed
  exact hkept htaken ⟨_, List.mem_cons_self⟩ fun schema h => by cases h

/-- **Failures leave changes.** A new view that is to hide a column does not know its columns, and has the column
hidden all the same. With a schema it makes a request; a schema without columns fails then, and so does the request
after it. -/
theorem changed_by_failures :
    (({ pageSize := .int 25 } : TableView).step hideName).reply.isFailed = true ∧
    (({ pageSize := .int 25 } : TableView).step hideName).state ≠ { pageSize := .int 25 } ∧
    ∃ v, v = run { pageSize := .int 25 } [hideName, .setSchema (schemaOfNames [])] ∧
      (v.step (.setSchema (.obj []))).reply.isFailed = true ∧ (v.step (.setSchema (.obj []))).state ≠ v ∧
      (∃ payload, v.request = .ok (some payload)) ∧
      (v.step (.setSchema (.obj []))).state.request = .error (.fault .missingKey) := by
  refine ⟨by decide +kernel, fun h => ?_, _, rfl, by decide +kernel, fun h => ?_, ?_, rfl⟩
  · have hlength := congrArg (·.visibility.length) h
    cases hlength
  · have hschema := congrArg (·.schema.same (.obj [])) h
    revert hschema
    decide +kernel
  · obtain ⟨payload, hrequest, -⟩ := exists_request (P := fun _ => True)
      (v := run { pageSize := .int 25 } [hideName, .setSchema (schemaOfNames [])]) (by decide +kernel)
    exact ⟨payload, hrequest⟩

end TableView

end TableQuery
