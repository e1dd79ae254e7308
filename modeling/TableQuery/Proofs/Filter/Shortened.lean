import TableQuery.Proofs.Filter.Cleaned

/-!
# What column filters are reduced to

A column filter is reduced iff its column is known and its operator takes its value (`ColumnFilter.reduce_eq_ok`). It
stays as it is, or becomes a constant, a filter for missing values or its opposite, or a filter for what is kept of its
list of values (`ColumnFilter.reduceOn_cases`, `ColumnFilter.Shortened`).
-/

set_option autoImplicit false

namespace TableQuery

theorem Simple.invertedIf_false (r : Simple) : r.invertedIf false = r := by
  cases r <;> simp [Simple.invertedIf]

namespace ColumnFilter

variable {s : ColumnSchemas} {column fields fields' : Fields} {values : List Json} {r : Simple} {name : Json}

/-- A column filter is reduced iff its column is known and the filter on that column can be. -/
theorem reduce_eq_ok : reduce s fields = .ok r ↔ (fields.value "column").isContainer = false ∧
    ∃ column out, s.find? (fields.value "column") = some column ∧ reduceOn column fields = .ok out ∧
      r = out.elim (.leaf .column fields) (Simple.invertedIf fields.isInverted) := by
  unfold reduce
  dsimp only
  cases hscalar : (fields.value "column").isContainer with
  | true => simp
  | false =>
    cases hfind : s.find? (fields.value "column") with
    | none => simp
    | some column =>
      cases hon : reduceOn column fields with
      | error reason => simp [hon]
      | ok out => cases out <;> simp [hon, eq_comm]

theorem reduceOn_congr (hsame : ∀ k ∈ ["column", "op", "val"], fields'.value k = fields.value k) :
    reduceOn column fields' = reduceOn column fields := by
  have hop : ∀ symbols, hasOp fields' symbols = hasOp fields symbols := fun symbols => by
    rw [hasOp, hasOp, hsame "op" (by simp)]
  unfold reduceOn reduceEmpty reduceList
  simp only [hop, hsame "column" (by simp), hsame "val" (by simp)]

/-- A filter on a column is left as it is if it asks for missing values where there can be some, or for a value that is
no list and neither empty nor, where that matters, untrimmed. -/
theorem reduceOn_eq_none : reduceOn column fields = .ok none ↔
    hasOp fields ["null"] = true ∧ isNullable column = true ∨
      hasOp fields ["null"] = false ∧ (∀ values, fields.value "val" ≠ .arr values) ∧
        ∀ text, fields.value "val" = .str text →
          text ≠ "" ∧ (hasOp fields ["=", "==", "has"] = true → Text.isTrimmed text = true) := by
  unfold reduceOn
  cases hasOp fields ["null"] with
  | true => cases isNullable column <;> simp
  | false =>
    cases hval : fields.value "val" with
    | str text =>
      by_cases hempty : text = ""
      · cases reduceEmpty column fields <;> simp [hempty]
      · cases hasOp fields ["=", "==", "has"] <;> cases Text.isTrimmed text <;> simp [hempty]
    | arr values => cases hr : reduceList column fields values <;> simp [hr]
    | _ => simp

def listSymbols : List String := ["in", "=", "has_all", "has_any", "has_only"]

/-- The least number of values in a list that is kept for an operator. A list of one value says no more than that value,
unless the operator is about the whole list. -/
def leastValues (op : String) : Nat :=
  if op = "=" ∨ op = "has_only" then 1 else 2

/-- What a list of values is reduced to. -/
inductive Shortened (column : Fields) (name : Json) (values : List Json) : Simple → Prop
  | const (value : Bool) : Shortened column name values (.const value)
  | missing : Shortened column name values (nullFilter column name)
  | one {op : String} {v : Json} : op ∈ ["=", "has"] → (cleaned values).1 = [v] →
      Shortened column name values (make name op (some v))
  | many {op : String} : op ∈ listSymbols → leastValues op ≤ (cleaned values).1.length →
      Shortened column name values (make name op (some (.arr (cleaned values).1)))

/-- A list of values is written as one of them if there are no others. -/
theorem Shortened.of_cleaned (value : Bool) {one many : String} (hone : one ∈ ["=", "has"])
    (hmany : many ∈ listSymbols) :
    Shortened column name values (match (cleaned values).1 with
      | [] => .const value
      | [v] => make name one (some v)
      | vs => make name many (some (.arr vs))) := by
  split
  next => exact .const value
  next v hv => exact .one hone hv
  next vs hnil hone' =>
    refine .many hmany ?_
    unfold leastValues
    match hvs : (cleaned values).1 with
    | [] => exact absurd hvs hnil
    | [v] => exact absurd hvs (hone' v)
    | v :: v' :: vs => split <;> simp

theorem Shortened.of_whole {op : String} (h : op = "=" ∨ op = "has_only") :
    Shortened column name values
      (if (cleaned values).1.isEmpty then nullFilter column name
        else make name op (some (.arr (cleaned values).1))) := by
  split
  · exact .missing
  next hne =>
    refine .many (by rcases h with rfl | rfl <;> simp [listSymbols]) ?_
    rw [leastValues, if_pos h]
    exact List.length_pos_iff.2 (mt List.isEmpty_iff.2 hne)

/-- A list that is clean and long enough for its operator is kept. -/
theorem reduceList_of_cleaned {op : String} (hop : fields.value "op" = .str op) (h : op ∈ listSymbols)
    (hclean : cleaned values = (values, false)) (hlength : leastValues op ≤ values.length) :
    reduceList column fields values = some (make (fields.value "column") op (some (.arr values))) := by
  have hsymbols : ∀ symbols, hasOp fields symbols = symbols.any (Json.str op).isText := fun symbols => by
    rw [hasOp, hop]
  unfold leastValues at hlength
  simp only [listSymbols, List.mem_cons, List.not_mem_nil, or_false] at h
  unfold reduceList
  rw [hclean]
  simp only [hsymbols]
  match values with
  | [] => rcases h with rfl | rfl | rfl | rfl | rfl <;> simp at hlength
  | [v] =>
    -- One value is enough where the operator is about the whole list.
    rcases h with rfl | rfl | rfl | rfl | rfl
    case inr.inl | inr.inr.inr.inr => rfl
    all_goals simp at hlength
  | v :: v' :: vs => rcases h with rfl | rfl | rfl | rfl | rfl <;> rfl

theorem reduceOn_of_cleaned {op : String} (hop : fields.value "op" = .str op) (h : op ∈ listSymbols)
    (hval : fields.value "val" = .arr values) (hclean : cleaned values = (values, false))
    (hlength : leastValues op ≤ values.length) :
    reduceOn column fields = .ok (some (make (fields.value "column") op (some (.arr values)))) := by
  have hnull : hasOp fields ["null"] = false := by
    simp only [listSymbols, List.mem_cons, List.not_mem_nil, or_false] at h
    rw [hasOp, hop]
    rcases h with rfl | rfl | rfl | rfl | rfl <;> rfl
  rw [reduceOn, hnull, if_neg (by simp), hval]
  simp only [reduceList_of_cleaned hop h hclean hlength]

theorem shortened_reduceList (h : reduceList column fields values = some r) :
    Shortened column (fields.value "column") values r := by
  unfold reduceList at h
  dsimp only at h
  split at h
  · cases h
    exact .of_cleaned false (by simp) (by simp [listSymbols])
  split at h
  · cases h
    split
    · exact .const _
    · exact .of_whole (Or.inl rfl)
  split at h
  · cases h
    split
    · exact .const _
    · exact .of_cleaned true (by simp) (by simp [listSymbols])
  split at h
  · cases h
    exact .of_cleaned false (by simp) (by simp [listSymbols])
  split at h
  · cases h
    exact .of_whole (Or.inr rfl)
  · cases h

/-- What a filter on a column is turned into: a constant, one for missing values or its opposite, or what its list of
values is reduced to. -/
theorem reduceOn_cases (h : reduceOn column fields = .ok (some r)) : (∃ value, r = .const value) ∨
    (∃ invert, r = (nullFilter column (fields.value "column")).invertedIf invert) ∨
    ∃ values, fields.value "val" = .arr values ∧ Shortened column (fields.value "column") values r := by
  unfold reduceOn at h
  split at h
  · split at h
    · cases h
    · cases h
      exact Or.inl ⟨_, rfl⟩
  split at h
  next text _ =>
    split at h
    · split at h
      next r' hempty =>
        cases h
        unfold reduceEmpty at hempty
        dsimp only at hempty
        split at hempty
        · cases hempty
          exact Or.inr (Or.inl ⟨false, (Simple.invertedIf_false _).symm⟩)
        split at hempty
        · cases hempty
          exact Or.inr (Or.inl ⟨true, rfl⟩)
        split at hempty
        · cases hempty
          exact Or.inl ⟨_, rfl⟩
        split at hempty
        · cases hempty
          exact Or.inl ⟨_, rfl⟩
        · cases hempty
      · cases h
    · split at h
      · cases h
        exact Or.inl ⟨_, rfl⟩
      · cases h
  next values hvalues =>
    split at h
    next r' hlist =>
      cases h
      exact Or.inr (Or.inr ⟨values, hvalues, shortened_reduceList hlist⟩)
    · cases h
  · cases h

end ColumnFilter

end TableQuery
