import Mathlib.Order.Bounds.Basic
import TableQuery.Proofs.Json.Same
import TableQuery.Proofs.Number.Rounding
import TableQuery.Proofs.View.Runs

/-!
# The number of pages

The number of pages is a quotient that is rounded to a double before it is rounded up. For numbers of rows up to
`2 ^ 53` it is all the same the least number of pages, one at least, on which all rows have a place
(`TableView.pageCount_isLeast`).
-/

set_option autoImplicit false

namespace TableQuery

open Number (Numeric Double)

/-! ## Whole numbers -/

namespace Number

open Double (unit bound)

variable {x y : Numeric} {a b : Nat}

theorem Double.whole_lt_bound (ha : a ≤ 2 ^ 53) : a * unit < bound :=
  Nat.lt_of_le_of_lt (Nat.mul_le_mul_right unit ha) (by decide +kernel)

theorem Numeric.position?_int_eq {n i : Int} : (int n).position? = some (i * unit) ↔ n = i := by
  have hunit : (unit : Int) ≠ 0 := Int.natCast_ne_zero.2 (Nat.pos_iff_ne_zero.1 Double.unit_pos)
  rw [position?, Option.some.injEq]
  exact Int.mul_eq_mul_right_iff hunit

theorem Numeric.less_int {n i : Int} (hx : x.position? = some (i * unit)) : x.less (.int n) = decide (i < n) := by
  have hunit : (0 : Int) < unit := Int.natCast_pos.2 Double.unit_pos
  have hn : (int n).position? = some (n * unit) := Numeric.position?_int_eq.2 rfl
  rw [less, hx, hn]
  exact decide_eq_decide.2 (Int.mul_lt_mul_right hunit)

theorem Numeric.toDouble_of_whole (hx : x.position? = some ((a : Int) * unit)) (hpos : 0 < a) (ha : a ≤ 2 ^ 53) :
    x.toDouble = .finite false (a * unit) := by
  have hlt := Double.whole_lt_bound ha
  have hunits : 0 < a * unit := Nat.mul_pos hpos Double.unit_pos
  cases x with
  | int n =>
    obtain rfl := Numeric.position?_int_eq.1 hx
    have hround : Double.roundUnits (a * unit) 1 = a * unit := by
      have hwhole := Double.roundUnits_whole Nat.one_pos ha
      rwa [Nat.mul_one] at hwhole
    rw [toDouble, Double.ofInt, Double.ofRatio, Int.natAbs_natCast, hround, Double.ofUnits, if_pos hlt]
    rw [decide_eq_false (by omega)]
  | double x =>
    cases x with
    | finite s u =>
      have hsigned : Double.signedUnits s u = ((a * unit : Nat) : Int) := by
        rw [Int.natCast_mul]
        exact Option.some.inj hx
      cases s with
      | false => rw [toDouble, Int.ofNat.inj hsigned]
      | true =>
        rw [Double.signedUnits, if_pos rfl] at hsigned
        omega
    | infinite s =>
      cases s with
      | false =>
        have hplace : (bound : Int) = ((a * unit : Nat) : Int) := by
          rw [Int.natCast_mul]
          exact Option.some.inj hx
        omega
      | true =>
        have hplace : -(bound : Int) = ((a * unit : Nat) : Int) := by
          rw [Int.natCast_mul]
          exact Option.some.inj hx
        omega
    | nan => cases hx

/-- **The quotient of whole numbers** is rounded once, whatever they are written as. -/
theorem Numeric.div?_of_whole (hx : x.position? = some ((a : Int) * unit)) (hy : y.position? = some ((b : Int) * unit))
    (hpos : 0 < a) (ha : a ≤ 2 ^ 53) (hpos' : 0 < b) (hb : b ≤ 2 ^ 53) : x.div? y = some (.ofRatio false a b) := by
  have hdoubles : x.toDouble.div? y.toDouble = some (.ofRatio false a b) := by
    rw [toDouble_of_whole hx hpos ha, toDouble_of_whole hy hpos' hb]
    have hunits : b * unit ≠ 0 := Nat.pos_iff_ne_zero.1 (Nat.mul_pos hpos' Double.unit_pos)
    have hratio : Double.ofRatio false (a * unit) (b * unit) = .ofRatio false a b := by
      rw [Double.ofRatio, Double.roundUnits_mul_right Double.unit_pos, Double.ofRatio]
    rw [← hratio]
    generalize b * unit = u at hunits
    cases u with
    | zero => exact absurd rfl hunits
    | succ u => rfl
  cases x with
  | int n =>
    cases y with
    | int m =>
      obtain rfl := Numeric.position?_int_eq.1 hx
      obtain rfl := Numeric.position?_int_eq.1 hy
      rw [div?, if_neg (by omega), decide_eq_false (by omega), decide_eq_false (by omega)]
      rfl
    | double y => exact hdoubles
  | double x => exact hdoubles

theorem Double.ofRatio_ne_nan {s : Bool} : Double.ofRatio s a b ≠ .nan := by
  rw [Double.ofRatio, Double.ofUnits]
  split
  · exact fun h => Double.noConfusion h
  · exact fun h => Double.noConfusion h

end Number

theorem Json.same_int_iff {j : Json} {n : Int} :
    j.same (.int n) = true ↔ j.position? = some (n * Double.unit) := by
  have hplace : (Json.int n).position? = some (n * Double.unit) := rfl
  have hnumber : ∀ m : Numeric, j.number? = some m →
      (j.same (.int n) = true ↔ j.position? = some (n * Double.unit)) := by
    intro m hm
    rw [same_number hm, hplace]
    constructor
    · rintro ⟨i, hj, hi⟩
      rw [hj, hi]
    · exact fun hj => ⟨_, hj, rfl⟩
  cases j with
  | bool b => exact hnumber _ rfl
  | num m => exact hnumber m rfl
  | null | str _ | arr _ | obj _ => exact ⟨Bool.noConfusion, fun hj => by cases hj⟩

theorem Fault.orElse_eq_ok {α : Type} {f : Fault} {o : Option α} {a : α} : f.orElse o = .ok a ↔ o = some a := by
  cases o <;> simp [orElse]

/-! ## Pages -/

namespace TableView

variable {v : TableView} {rows size : Nat}

/-- The latest answer tells of so many rows. Without an answer there are none. -/
def TellsRows (v : TableView) (rows : Nat) : Prop :=
  v.response = .null ∧ rows = 0 ∨ ∃ j, v.rowsCount = .ok j ∧ j.same (.int rows) = true

/-- The number of rows that pages are counted for. -/
theorem exists_counted (h : v.TellsRows rows) : ∃ (j : Json) (x : Numeric), v.rowsCount = .ok j ∧
    (if j.truthy then Fault.wrongKind.orElse j.number? else .ok (.int 0)) = .ok x ∧
      x.position? = some ((rows : Int) * Double.unit) := by
  rcases h with ⟨hresponse, rfl⟩ | ⟨j, hj, hsame⟩
  · exact ⟨.null, .int 0, by rw [rowsCount, hresponse], rfl, rfl⟩
  · have hplace := Json.same_int_iff.1 hsame
    obtain ⟨x, hx, hposition⟩ := Option.bind_eq_some_iff.1 hplace
    refine ⟨j, ?_⟩
    cases htruthy : j.truthy with
    | true => exact ⟨x, hj, Fault.orElse_eq_ok.2 hx, hposition⟩
    | false =>
      have hzero : (0 : Int) = rows := by
        by_contra hne
        have hplace' : (rows : Int) * Double.unit ≠ 0 :=
          Int.mul_ne_zero (Ne.symm hne) (Int.natCast_ne_zero.2 (Nat.pos_iff_ne_zero.1 Double.unit_pos))
        rw [(Json.truthy_of_position hplace).2 hplace'] at htruthy
        cases htruthy
      exact ⟨.int 0, hj, rfl, Numeric.position?_int_eq.2 hzero⟩

/-- The number of pages is the quotient of what is counted and the size of a page, rounded up. -/
theorem pageCount_eq {j : Json} {x y : Numeric} {quotient : Double} {n : Int} (hj : v.rowsCount = .ok j)
    (hx : (if j.truthy then Fault.wrongKind.orElse j.number? else .ok (.int 0)) = .ok x)
    (hy : v.pageSize.number? = some y) (hdiv : (if x.less (.int 1) then .int 1 else x).div? y = some quotient)
    (hnumber : quotient ≠ .nan) (hceil : quotient.ceil? = some n) : v.pageCount = .ok n := by
  rw [pageCount, hj]
  cases htruthy : j.truthy with
  | true =>
    rw [htruthy, if_pos rfl] at hx
    have hread : j.number? = some x := Fault.orElse_eq_ok.1 hx
    simp [htruthy, hread, hy, hdiv, hnumber, hceil, bind, Except.bind, Fault.orElse]
  | false =>
    rw [htruthy, if_neg Bool.false_ne_true] at hx
    cases hx
    simp [htruthy, hy, hdiv, hnumber, hceil, bind, Except.bind, Fault.orElse]

/-- **The pages have place for all rows, and fewer pages have not.** -/
theorem pageCount_isLeast (hrows : v.TellsRows rows) (hmany : rows ≤ 2 ^ 53)
    (hsize : v.pageSize.same (.int size) = true) (hpos : 1 ≤ size) (hlarge : size ≤ 2 ^ 53) :
    ∃ n : Int, v.pageCount = .ok n ∧ IsLeast {n : Int | 1 ≤ n ∧ (rows : Int) ≤ n * size} n := by
  obtain ⟨j, x, hj, hx, hplace⟩ := exists_counted hrows
  obtain ⟨y, hy, hplace'⟩ := Option.bind_eq_some_iff.1 (Json.same_int_iff.1 hsize)
  have hmax : max rows 1 ≤ 2 ^ 53 := by omega
  -- At least one row is counted.
  have hcounted : (if x.less (.int 1) then .int 1 else x).position? =
      some (((max rows 1 : Nat) : Int) * Double.unit) := by
    have hless : x.less (.int 1) = decide ((rows : Int) < 1) := Numeric.less_int hplace
    rcases Nat.eq_zero_or_pos rows with rfl | hsome
    · rw [hless, if_pos (by decide)]
      exact Numeric.position?_int_eq.2 rfl
    · rw [hless, decide_eq_false (by omega), if_neg Bool.false_ne_true, hplace, Nat.max_eq_left hsome]
  obtain ⟨n, hceil, hleast⟩ := Double.exists_ceil?_ofRatio hmax hpos hlarge
  have hdiv := Numeric.div?_of_whole hcounted hplace' (by omega) hmax hpos hlarge
  have hcount : v.pageCount = .ok (n : Int) := pageCount_eq hj hx hy hdiv Double.ofRatio_ne_nan hceil
  have hcovers : max rows 1 ≤ n * size := (hleast n).1 (Nat.le_refl n)
  refine ⟨n, hcount, ⟨?_, ?_⟩, fun k hk => ?_⟩
  · have hne : n ≠ 0 := by
      rintro rfl
      omega
    omega
  · exact_mod_cast Nat.le_trans (Nat.le_max_left rows 1) hcovers
  · obtain ⟨hone, hrows⟩ := hk
    obtain ⟨m, rfl⟩ := Int.eq_ofNat_of_zero_le (by omega : 0 ≤ k)
    have hm : rows ≤ m * size := by exact_mod_cast hrows
    have hm' : 1 ≤ m * size := Nat.mul_pos (by omega) hpos
    exact Int.ofNat_le.2 ((hleast m).2 (Nat.max_le.2 ⟨hm, hm'⟩))

/-- A quotient so little above three that doubles just tell it from three: there have to be four pages. -/
theorem pageCount_nearThree :
    ∃ v : TableView, v.TellsRows 9007199254740991 ∧ v.pageSize.same (.int (3002399751580330 : Nat)) = true ∧
      v.pageCount = .ok 4 := by
  let response : Json := .obj [("meta", .obj [("totalDataSize", .int 9007199254740991)])]
  let v : TableView := { pageSize := .int 3002399751580330, response }
  have hrows : v.TellsRows 9007199254740991 := .inr ⟨.int 9007199254740991, rfl, Json.same_int_iff.2 rfl⟩
  have hsize : v.pageSize.same (.int (3002399751580330 : Nat)) = true := Json.same_int_iff.2 rfl
  obtain ⟨n, hcount, ⟨hone, hplace⟩, hleast⟩ :=
    pageCount_isLeast hrows (by decide) hsize (by decide) (by decide)
  refine ⟨v, hrows, hsize, ?_⟩
  have hfour : n ≤ 4 := hleast ⟨by decide, by decide⟩
  have hmore : 3 < n := by omega
  rw [hcount, show n = 4 by omega]

end TableView

end TableQuery
