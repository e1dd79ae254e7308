import TableQuery.Proofs.Column.Shown
import TableQuery.Proofs.Column.Written
import TableQuery.Proofs.Sql.Members
import TableQuery.Proofs.Store.Written

/-!
# Shown values as operands

Where the values of a column can be compared in order, what is shown of a value is an operand for it
(`ColumnType.exists_operand`). It is equal to the value iff nothing of the value is lost. It never is greater if the
value stands in the store as it was written, apart from numbers that are shown without their fraction.
-/

set_option autoImplicit false

namespace TableQuery

open Number (Double)
open Sql (Value)

/-! ## Texts in order -/

theorem not_lt_replicate_zero {ds : List Char} (h : ∀ c ∈ ds, c.isDigit = true) :
    ¬ ds < List.replicate ds.length '0' := by
  induction ds with
  | nil => exact List.lt_irrefl _
  | cons d ds ih =>
    rw [List.forall_mem_cons] at h
    rw [List.length_cons, List.replicate_succ, List.cons_lt_cons_iff]
    rintro (hless | ⟨-, hless⟩)
    · exact absurd (Iso.bounds_of_isDigit h.1).1 (Nat.not_le_of_lt hless)
    · exact ih h.2 hless

theorem not_append_lt_append {front a b : List Char} (h : ¬ a < b) : ¬ front ++ a < front ++ b := by
  have hle : @LE.le (List Char) List.instLE b a := h
  exact List.append_left_le hle

/-- **No moment is stored under a text before that of the start of its second.** -/
theorem Moment.not_toStored_lt (m : Moment) : ¬ m.toStored < m.startOfSecond.toStored := by
  have hzeros : (Text.padded 6 0).toList = List.replicate (Text.padded 6 m.micro).toList.length '0' := by
    rw [String.length_toList, Text.length_padded (by decide) m.valid.2.2.2]
    decide
  have hfraction : ¬ (Text.padded 6 m.micro).toList < (Text.padded 6 0).toList := by
    rw [hzeros]
    exact not_lt_replicate_zero fun c hc => Iso.isDigit_of_mem_padded hc
  have hstored : ∀ n, (m.date.toText ++ " " ++ m.timeText ++ "." ++ Text.padded 6 n).toList =
      (m.date.toText ++ " " ++ m.timeText ++ ".").toList ++ (Text.padded 6 n).toList := fun n => String.toList_append
  have hstart : m.startOfSecond.toStored = m.date.toText ++ " " ++ m.timeText ++ "." ++ Text.padded 6 0 := rfl
  rw [hstart, toStored, String.lt_iff, hstored, hstored]
  exact not_append_lt_append hfraction

theorem Sql.Value.compare_text_ne_lt {s t : String} : (Value.text s).compare (.text t) ≠ .lt ↔ ¬ s < t :=
  not_congr compareOfLessAndEq_eq_lt

/-! ## Numbers without their fraction -/

theorem Number.Double.compare_truncated {x : Double} {n : Int} (h : x.truncate? = some n) :
    (Value.real x).compare (.int n) = .eq ↔ x.toInt?.isSome = true := by
  cases x with
  | infinite s | nan => cases h
  | finite s u =>
    obtain rfl := Option.some.inj h
    have hinjective : ∀ v : Nat, signedUnits s u = signedUnits s v ↔ u = v := by
      cases s <;> simp [signedUnits]
    have hcompare :
        (Value.real (.finite s u)).compare (.int (signedUnits s (u / unit))) = .eq ↔ u = u / unit * unit := by
      rw [Value.compare_of_num rfl rfl rfl rfl, Std.LawfulEqOrd.compare_eq_iff_eq, ← signedUnits_mul, hinjective]
    have hwhole : u % unit = 0 ↔ u = u / unit * unit := by
      have hdivide := Nat.div_add_mod u unit
      rw [Nat.mul_comm] at hdivide
      omega
    rw [hcompare, toInt?, ← hwhole]
    split <;> simpa

/-! ## Columns in order -/

/-- Columns whose values can be compared in order with an operand. -/
def Kind.isOrdered : Kind → Bool
  | date | moment | int | string => true
  | _ => false

theorem Kind.accepts_of_isComparison {k : Kind} (hk : k.isOrdered = true) {o : Operator} (ho : o.isComparison = true) :
    k.accepts o = true := by
  cases k <;> simp_all [isOrdered, accepts]

theorem Kind.isList_of_isOrdered {k : Kind} (hk : k.isOrdered = true) : k.isList = false := by
  cases k <;> first | rfl | cases hk

namespace ColumnType

/-- A stored column of a kind holds the values of a column of a type as these are compared: dates and points in time as
such, texts as texts, and numbers as integers, unless they are shown without their fraction. -/
def isKeptAs (t : ColumnType) (k : StoredKind) : Bool :=
  match t.kind with
  | .date => k = .date
  | .moment => k = .moment
  | .int => k = .int || k = .real && t = .wholeNullable
  | .string => k = .text
  | _ => false

def comparisonRule (t : ColumnType) : Rule :=
  match t.kind with
  | .date => .date
  | .moment => .moment
  | .int => .int
  | _ => .string

variable {t : ColumnType} {k : StoredKind} {v : Value} {j : Json} {o : Operator}

theorem rule?_of_isComparison (ht : t.kind.isOrdered = true) (ho : o.isComparison = true) :
    t.rule? o = some t.comparisonRule := by
  have htextual : o.isTextual = false := by cases o <;> first | rfl | cases ho
  have htrimmed : o.needsTrimmed = false := by cases o <;> first | rfl | cases ho
  rw [rule?, comparisonRule, htextual, htrimmed]
  cases hk : t.kind <;> first | rfl | (rw [hk] at ht; cases ht)

theorem read_comparisonRule_null (t : ColumnType) {w : Operand} : t.comparisonRule.read .null ≠ .ok w := by
  rw [comparisonRule]
  cases t.kind <;> nofun

/-- An operand for a value that is shown: it is read from what is shown, equal to the value iff nothing of that is lost,
and no greater than it if the value stands in the store as it was written and its fraction is not left out. -/
structure Denotes (t : ColumnType) (k : StoredKind) (v : Value) (j : Json) (w : Operand) : Prop where
  read : t.comparisonRule.read j = .ok w
  equal : v.compare (.ofOperand w) = .eq ↔ t.showsAllOf v = true
  notLess : k.writes v = true → t ≠ .wholeNullable → v.compare (.ofOperand w) ≠ .lt

/-- What is shown of a date stands for it. -/
theorem denotes_date (ht : t.kind = .date) {s : String} {d : Date} (hs : Iso.date? s = some d) :
    t.Denotes .date (.text s) (.str d.toText) (.date d) where
  read := by
    rw [comparisonRule, ht]
    exact Rule.read_date d
  equal := by
    rw [Value.ofOperand, Value.compare_text, Value.text.injEq, showsAllOf, ht]
    simp [hs, eq_comm]
  notLess := by
    intro hwrites _
    rw [StoredKind.writes, hs, Option.any_some, decide_eq_true_eq] at hwrites
    rw [Value.ofOperand, hwrites, Value.compare_self]
    decide

/-- What is shown of a point in time stands for the start of its second. -/
theorem denotes_moment (ht : t.kind = .moment) {s : String} {x : Stamp} {m : Moment} (hs : Iso.stamp? s = some x)
    (hm : x.utc? = some m) : t.Denotes .moment (.text s) (.str (m.toSeconds ++ "Z")) (.moment m.startOfSecond) where
  read := by
    rw [comparisonRule, ht]
    exact Rule.read_moment m
  equal := by
    rw [Value.ofOperand, Value.compare_text, Value.text.injEq, showsAllOf, ht]
    simp only [hs, Option.any_some, Bool.and_eq_true, decide_eq_true_eq]
    constructor
    · rintro rfl
      obtain rfl := Option.some.inj (hs.symm.trans (Iso.stamp?_toStored _))
      exact ⟨⟨rfl, rfl⟩, rfl⟩
    · rintro ⟨⟨hoffset, hmicro⟩, rfl⟩
      rw [Stamp.utc?, hoffset] at hm
      obtain rfl := Option.some.inj hm
      rw [Moment.startOfSecond_eq_self.2 hmicro]
  notLess := by
    intro hwrites _
    obtain ⟨m', rfl⟩ := StoredKind.exists_moment_of_writes hwrites
    obtain rfl := Option.some.inj (hs.symm.trans (Iso.stamp?_toStored _))
    obtain rfl : m' = m := Option.some.inj hm
    exact Value.compare_text_ne_lt.2 m'.not_toStored_lt

theorem denotes_int (ht : t.kind = .int) (n : Int) : t.Denotes k (.int n) (.num (.int n)) (.int n) where
  read := by
    rw [comparisonRule, ht]
    rfl
  equal := by
    rw [Value.ofOperand, Value.compare_self, showsAllOf, ht]
    simp
  notLess := by
    intro _ _
    rw [Value.ofOperand, Value.compare_self]
    decide

/-- A number without its fraction stands for what it is itself. -/
theorem denotes_real {x : Double} {n : Int} (hx : x.truncate? = some n) :
    wholeNullable.Denotes k (.real x) (.num (.int n)) (.int n) where
  read := rfl
  equal := Double.compare_truncated hx
  notLess := fun _ hne => absurd rfl hne

theorem denotes_text (ht : t.kind = .string) (s : String) : t.Denotes k (.text s) (.str s) (.text s) where
  read := by
    rw [comparisonRule, ht]
    rfl
  equal := by
    rw [Value.ofOperand, Value.compare_self, showsAllOf, ht]
    simp
  notLess := by
    intro _ _
    rw [Value.ofOperand, Value.compare_self]
    decide

/-- **What is shown of a value is an operand for it.** -/
theorem exists_operand (ht : t.kind.isOrdered = true) (hk : t.isKeptAs k = true) (hv : k.holds v = true)
    (hnull : v ≠ .null) (h : t.render (.ofValue t v) = .ok j) : ∃ w, t.Denotes k v j w := by
  rw [render, Cell.isMissing_ofValue hnull, if_neg Bool.false_ne_true] at h
  unfold isKeptAs at hk
  cases hkind : t.kind with
  | date =>
    rw [hkind] at h hk
    obtain rfl : k = .date := of_decide_eq_true hk
    cases v with
    | null => exact absurd rfl hnull
    | int n | real x => cases hv
    | text s =>
      obtain ⟨d, hd⟩ := Option.isSome_iff_exists.1 hv
      simp only [Kind.render, Cell.ofValue, hkind, hd, Option.map_some, Option.getD_some] at h
      cases h
      exact ⟨_, denotes_date hkind hd⟩
  | moment =>
    rw [hkind] at h hk
    obtain rfl : k = .moment := of_decide_eq_true hk
    cases v with
    | null => exact absurd rfl hnull
    | int n | real x => cases hv
    | text s =>
      obtain ⟨m, hm⟩ := Option.isSome_iff_exists.1 hv
      obtain ⟨x, hx, hm⟩ := Option.bind_eq_some_iff.1 hm
      simp only [Kind.render, Cell.ofValue, hkind, hx, Option.map_some, Option.getD_some, Cell.renderMoment,
        Cell.renderMoment.finish, hm] at h
      cases h
      exact ⟨_, denotes_moment hkind hx hm⟩
  | int =>
    rw [hkind] at h hk
    simp only [Bool.or_eq_true, Bool.and_eq_true, decide_eq_true_eq] at hk
    cases v with
    | null => exact absurd rfl hnull
    | int n =>
      cases h
      exact ⟨_, denotes_int hkind n⟩
    | real x =>
      rcases hk with rfl | ⟨rfl, rfl⟩
      · cases hv
      · cases x with
        | infinite s | nan => cases hv
        | finite s u =>
          cases h
          exact ⟨_, denotes_real rfl⟩
    | text s => rcases hk with rfl | ⟨rfl, -⟩ <;> cases hv
  | string =>
    rw [hkind] at h hk
    obtain rfl : k = .text := of_decide_eq_true hk
    cases v with
    | null => exact absurd rfl hnull
    | int n | real x => cases hv
    | text s =>
      simp only [Kind.render, Cell.ofValue, hkind] at h
      cases h
      exact ⟨_, denotes_text hkind s⟩
  | _ => rw [hkind] at ht; cases ht

end ColumnType

end TableQuery
