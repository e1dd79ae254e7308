import TableQuery.Proofs.Request.Outcome

/-!
# All that is wrong with a filter

What the reader of requests tells of a filter that stands at a path (`FilterNode.complaints`): the dotted path of each
field that something is wrong with, and what it is. The reader goes on from what has been told before, keeps it, and
adds the same whatever it is (`FilterNode.run_readAt`). The path is put in front of what is told at the empty path
(`FilterNode.complaints_at`). Of an operation its own complaints are told, and then those of each part at the path of
the part, whatever is told of the other parts (`FilterNode.complaints_operation`). Nothing is told iff the filter is
read (`FilterNode.complaints_eq_nil`).
-/

set_option autoImplicit false

namespace TableQuery

/-! ## What is told -/

/-- What is told of an error in a value that stands at a path: the dotted path of the field, and what is wrong. -/
def FieldError.told (path : String) (e : FieldError) : String × Complaint := (dotted (path :: e.path), e.complaint)

theorem FieldError.told_at (path : String) (e : FieldError) :
    e.told path = (dotted [path, (e.told "").1], (e.told "").2) := by
  refine congrArg (·, e.complaint) ?_
  show dotted (path :: e.path) = dotted ([path] ++ dotted ("" :: e.path) :: [])
  rw [dotted_splice, List.append_nil]
  simp [dotted, List.filter_cons]

theorem FieldError.told_placed (path : String) (e : FieldError) : (e.placed path).told "" = e.told path := by
  refine congrArg (·, e.complaint) ?_
  show dotted ([""] ++ dotted (path :: e.path) :: []) = dotted (path :: e.path)
  rw [dotted_splice, List.append_nil]
  rfl

theorem told_errors_placed {α : Type} (path : String) (c : Checked α) :
    (c.errors.map (·.placed path)).map (·.told "") = c.errors.map (·.told path) := by
  rw [List.map_map]
  exact List.map_congr_left fun e _ => e.told_placed path

/-! ## Filters -/

namespace FilterNode

variable {config : EntityConfig} {fields : Fields} {j : Json}

/-- All that is told of a filter that stands at a path, if nothing has been told before. -/
def complaints (config : EntityConfig) (path : String) (j : Json) : List (String × Complaint) :=
  match (readAt config path j).run [] with
  | .ok (_, told) => told.map (·.told "")
  | .error _ => []

/-- What is wrong with an operation itself: with fields that do not belong, its inversion and its symbol. -/
def ownErrors (fields : Fields) : List FieldError :=
  Reader.strangers ["type", "op", "val", "inv"] .unexpectedField fields ++ inversionErrors fields ++
    operationErrors fields

theorem complaints_of_ofJson {c : Checked FilterNode} (h : ofJson config j = .ok c) (path : String) :
    complaints config path j = c.errors.map (·.told path) := by
  have hfinds := finds_readAt config j path
  rw [h] at hfinds
  obtain ⟨found, hrun, -⟩ := hfinds
  rw [complaints, hrun, ← told_errors_placed]
  rfl

theorem exists_ofJson_of_not_misnames (config : EntityConfig) (h : ¬ j.Misnames) : ∃ c, ofJson config j = .ok c := by
  cases hj : ofJson config j with
  | ok c => exact ⟨c, rfl⟩
  | error f => exact absurd (ofJson_eq_error.1 hj).2 h

/-- **What has been told before** is kept and does not matter: it decides neither what is told of a filter nor what is
found. A filter of which nothing is told is found. -/
theorem run_readAt (h : ¬ j.Misnames) (path : String) : ∃ found errors,
    (∀ told, (readAt config path j).run told = .ok (found, told ++ errors)) ∧
      complaints config path j = errors.map (·.told "") ∧
      ∀ f, found = some f ∧ errors = [] ↔ ofJson config j = .ok (.ok f) := by
  obtain ⟨c, hc⟩ := exists_ofJson_of_not_misnames config h
  have hfinds := finds_readAt config j path
  rw [hc] at hfinds
  obtain ⟨found, hrun, hfound⟩ := hfinds
  refine ⟨found, c.errors.map (·.placed path), hrun, ?_, fun f => ?_⟩
  · rw [complaints_of_ofJson hc, told_errors_placed]
  · rw [hc, Except.ok.injEq]
    constructor
    · rintro ⟨rfl, hnone⟩
      obtain ⟨g, rfl⟩ := (explained_ofJson hc).errors_eq_nil.1 (List.map_eq_nil_iff.1 hnone)
      rw [Option.some.inj (hfound g rfl)]
    · rintro rfl
      exact ⟨hfound f rfl, rfl⟩

/-- **The path of a filter** is put in front of what is told of it. -/
theorem complaints_at (h : ¬ j.Misnames) (path : String) :
    complaints config path j = (complaints config "" j).map fun t => (dotted [path, t.1], t.2) := by
  obtain ⟨c, hc⟩ := exists_ofJson_of_not_misnames config h
  rw [complaints_of_ofJson hc, complaints_of_ofJson hc, List.map_map]
  exact List.map_congr_left fun e _ => e.told_at path

/-- **Nothing is told iff the filter is read.** -/
theorem complaints_eq_nil (h : ¬ j.Misnames) (path : String) :
    complaints config path j = [] ↔ ∃ f, ofJson config j = .ok (.ok f) := by
  obtain ⟨c, hc⟩ := exists_ofJson_of_not_misnames config h
  rw [complaints_of_ofJson hc, List.map_eq_nil_iff, (explained_ofJson hc).errors_eq_nil]
  simp [hc]

/-- What is told of the items of a list, each at its position. -/
theorem complaints_items (path : String) (i : Nat) {items : List Json} {cs : List (Checked FilterNode)}
    (h : items.map (ofJson config) = cs.map .ok) :
    ((items.zipIdx i).flatMap fun p => complaints config (dotted [path, "val", toString p.2]) p.1) =
      ((cs.zipIdx i).flatMap fun p =>
        p.1.errors.map (·.placed (dotted [path, "val", toString p.2]))).map (·.told "") := by
  induction items generalizing i cs with
  | nil =>
    rw [List.map_eq_nil_iff.1 h.symm]
    rfl
  | cons j items ih =>
    obtain ⟨c, cs, rfl, hc, hcs⟩ := List.map_eq_cons_iff.1 h.symm
    rw [List.zipIdx_cons, List.flatMap_cons, List.zipIdx_cons, List.flatMap_cons, List.map_append,
      complaints_of_ofJson hc.symm, told_errors_placed, ih (i + 1) hcs.symm]

/-- **An operation and its parts** do not hide each other's complaints. -/
theorem complaints_operation {items : List Json} (htype : fields.value "type" = .str "op")
    (hval : fields.lookup "val" = some (.arr items)) (hne : items ≠ []) (h : ∀ part ∈ items, ¬ part.Misnames)
    (path : String) :
    complaints config path (.obj fields) = (ownErrors fields).map (·.told path) ++
      items.zipIdx.flatMap fun p => complaints config (dotted [path, "val", toString p.2]) p.1 := by
  obtain ⟨cs, hcs⟩ := exists_map_ok.2 fun part hpart => exists_ofJson_of_not_misnames config (h part hpart)
  have hparts : partsOf config fields = .ok (some cs) := partsOf_eq_ok.2 ⟨items, hval, hne, ofItems_eq_ok.2 hcs⟩
  have hread : ofJson config (.obj fields) = .ok ((readOperation fields (some cs)).after
      (Reader.strangers ["type", "op", "val", "inv"] .unexpectedField fields ++ inversionErrors fields)) := by
    rw [ofJson, htype, hparts]
    rfl
  rw [complaints_of_ofJson hread, Checked.errors_after, errors_readOperation, complaints_items path 0 hcs,
    ← Checked.errors_numbered, told_errors_placed, ← List.append_assoc, List.map_append]
  rfl

end FilterNode

end TableQuery
