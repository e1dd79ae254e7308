import TableQuery.Proofs.Calendar.Written
import TableQuery.Proofs.Sql.Order
import TableQuery.Proofs.Store.Typed

/-!
# What is shown of a value

Different stored values of a column can look the same to a client: points in time are shown to the second, and numbers
without their fraction. A value of which nothing is lost like that (`ColumnType.showsAllOf`) is told from every other
such value: what is shown alike in one column is equal (`ColumnType.compare_of_render`).
-/

set_option autoImplicit false

namespace TableQuery

open Number (Double Numeric)
open Sql (Value)

namespace Number.Double

theorem signedUnits_mul (negative : Bool) (n k : Nat) :
    signedUnits negative (n * k) = signedUnits negative n * k := by
  cases negative with
  | false => exact Int.natCast_mul n k
  | true => exact (congrArg (-·) (Int.natCast_mul n k)).trans (Int.neg_mul _ _).symm

theorem truncate?_of_toInt? {x : Double} {n : Int} (h : x.toInt? = some n) :
    x.truncate? = some n ∧ x.position? = some (n * unit) := by
  cases x with
  | infinite s | nan => cases h
  | finite s u =>
    rw [toInt?] at h
    split at h
    next hwhole =>
      have hunits : u / unit * unit = u := Nat.div_mul_cancel (Nat.dvd_of_mod_eq_zero hwhole)
      refine ⟨h, ?_⟩
      rw [← Option.some.inj h, ← signedUnits_mul, hunits, position?]
    next => cases h

end Number.Double

theorem Cell.renderInt_double {x : Double} {n : Int} (h : x.truncate? = some n) :
    (Cell.json (.num (.double x))).renderInt = .ok n := by
  cases x with
  | infinite s | nan => cases h
  | finite s u =>
    rw [renderInt, h]
    · rfl
    · nofun

namespace ColumnType

variable {t : ColumnType} {v w : Value} {j : Json}

/-- Nothing of a value is lost where a column of a type shows it: truth values are zero or one, numbers are whole,
points in time have no fraction of a second and no offset, and dates and points in time are stored under their own
text. -/
def showsAllOf (t : ColumnType) : Value → Bool
  | .null => true
  | .int n => match t.kind with
    | .bool => n = 0 || n = 1
    | .int | .count => true
    | _ => false
  | .real x => match t.kind with
    | .int | .count => x.toInt?.isSome
    | _ => false
  | .text s => match t.kind with
    | .date => (Iso.date? s).any fun d => d.toText = s
    | .moment => (Iso.stamp? s).any fun x => x.offset = none && x.moment.micro = 0 && x.moment.toStored = s
    | .string | .text | .uuid | .dict => true
    | _ => false

/-- How a column shows the values of which nothing is lost. -/
inductive Full (t : ColumnType) : Value → Json → Prop
  | missing {j : Json} : j = .null ∨ j = .arr [] → Full t .null j
  | truth (b : Bool) : Full t (.ofBool b) (.bool b)
  | number {v : Value} {m : Numeric} {n : Int} : v.num? = some m → m.position? = some (n * Double.unit) →
      Full t v (.num (.int n))
  | text (s : String) : t.kind ≠ .moment → Full t (.text s) (.str s)
  | moment {s : String} (m : Moment) : t.kind = .moment → m.micro = 0 → s = m.toSeconds ++ "Z" →
      Full t (.text m.toStored) (.str s)

/-- **Values that are shown alike without a loss are equal.** -/
theorem Full.compare_eq (hv : t.Full v j) (hw : t.Full w j) : v.compare w = .eq := by
  cases hv with
  | missing hj =>
    cases hw with
    | missing => rfl
    | truth | number | text | moment => rcases hj with hj | hj <;> cases hj
  | truth b =>
    cases hw with
    | missing hj => rcases hj with hj | hj <;> cases hj
    | truth => exact Value.compare_self _
  | number hm hi =>
    cases hw with
    | missing hj => rcases hj with hj | hj <;> cases hj
    | number hn hk => rw [Value.compare_of_num hm hn hi hk, Std.ReflOrd.compare_self]
  | text s hkind =>
    cases hw with
    | missing hj => rcases hj with hj | hj <;> cases hj
    | text => exact Value.compare_self _
    | moment _ hmoment => exact absurd hmoment hkind
  | moment m hkind hmicro hshown =>
    cases hw with
    | missing hj => rcases hj with hj | hj <;> cases hj
    | text _ hother => exact absurd hkind hother
    | moment m' _ hmicro' hshown' =>
      have hseconds : m.toSeconds = m'.toSeconds := (String.append_left_inj "Z").1 (hshown.symm.trans hshown')
      rw [Moment.toStored_of_toSeconds hmicro hmicro' hseconds]
      exact Value.compare_self _

theorem full_of_render (hfull : t.showsAllOf v = true) (h : t.render (.ofValue t v) = .ok j) : t.Full v j := by
  by_cases hnull : v = .null
  · subst hnull
    cases h
    refine .missing ?_
    cases t.isList
    · exact Or.inl rfl
    · exact Or.inr rfl
  rw [render, Cell.isMissing_ofValue hnull, if_neg Bool.false_ne_true] at h
  cases v with
  | null => exact absurd rfl hnull
  | int n =>
    rw [showsAllOf] at hfull
    split at hfull
    case h_1 hkind =>
      rw [hkind] at h
      cases h
      rw [Bool.or_eq_true, decide_eq_true_eq, decide_eq_true_eq] at hfull
      rcases hfull with rfl | rfl
      · exact .truth false
      · exact .truth true
    case h_2 hkind | h_3 hkind =>
      rw [hkind] at h
      cases h
      exact .number rfl rfl
    case h_4 => cases hfull
  | real x =>
    rw [showsAllOf] at hfull
    split at hfull
    case h_1 hkind | h_2 hkind =>
      obtain ⟨n, hn⟩ := Option.isSome_iff_exists.1 hfull
      obtain ⟨htruncated, hposition⟩ := Double.truncate?_of_toInt? hn
      rw [hkind, Kind.render, Cell.ofValue, Cell.renderInt_double htruncated] at h
      cases h
      exact .number rfl hposition
    case h_3 => cases hfull
  | text s =>
    rw [showsAllOf] at hfull
    split at hfull
    case h_1 hkind =>
      obtain ⟨d, hd, htext⟩ := (Option.any_eq_true _ _).1 hfull
      simp only [hkind, Kind.render, Cell.ofValue, hd, Option.map_some, Option.getD_some] at h
      cases h
      rw [← of_decide_eq_true htext]
      exact .text _ (by rw [hkind]; decide)
    case h_2 hkind =>
      obtain ⟨x, hx, hplain⟩ := (Option.any_eq_true _ _).1 hfull
      simp only [Bool.and_eq_true, decide_eq_true_eq] at hplain
      obtain ⟨⟨hoffset, hmicro⟩, rfl⟩ := hplain
      have hutc : x.utc? = some x.moment := by rw [Stamp.utc?, hoffset]
      simp only [hkind, Kind.render, Cell.ofValue, hx, Option.map_some, Option.getD_some, Cell.renderMoment,
        Cell.renderMoment.finish, hutc] at h
      cases h
      exact .moment x.moment hkind hmicro rfl
    case h_3 hkind | h_4 hkind | h_5 hkind | h_6 hkind =>
      simp only [hkind, Kind.render, Cell.ofValue] at h
      cases h
      exact .text s (by rw [hkind]; decide)
    case h_7 => cases hfull

/-- **What is shown alike in a column is equal**, if nothing of it is lost. -/
theorem compare_of_render (hv : t.showsAllOf v = true) (hw : t.showsAllOf w = true)
    (hj : t.render (.ofValue t v) = .ok j) (hj' : t.render (.ofValue t w) = .ok j) : v.compare w = .eq :=
  (full_of_render hv hj).compare_eq (full_of_render hw hj')

end ColumnType

end TableQuery
