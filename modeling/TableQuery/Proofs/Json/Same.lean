import Mathlib.Data.List.Forall2
import Mathlib.Data.List.Perm.Subperm
import Mathlib.Data.Option.Basic
import TableQuery.Proofs.Json.Fields
import TableQuery.Proofs.Json.Names

/-!
# Equality of values

What it says of two values that they are the same (`Json.same`), by the kind of the first one. On values that can be
written (`Json.WellFormed`) it is an equivalence (`Json.WellFormed.same_self`, `Json.WellFormed.same_symm`,
`Json.same_trans`), and the same objects have the same fields, whatever their order (`Json.Alike.obj_iff`).
-/

set_option autoImplicit false

namespace TableQuery

open Number (Numeric)

namespace Json

/-! ## By the kind of the first value -/

/-- The position of a number on the number line. -/
def position? (j : Json) : Option Int :=
  j.number?.bind Numeric.position?

theorem same_null {j : Json} : Json.null.same j = true ↔ j = .null := by
  cases j <;> simp [same, number?]

theorem sameItems_iff {xs ys : List Json} :
    sameItems xs ys = true ↔ List.Forall₂ (fun x y => x.same y = true) xs ys := by
  induction xs generalizing ys with
  | nil => cases ys <;> simp [sameItems]
  | cons x xs ih => cases ys <;> simp [sameItems, ih]

theorem same_arr {xs : List Json} {j : Json} : (Json.arr xs).same j = true ↔
    ∃ ys, j = .arr ys ∧ List.Forall₂ (fun x y => x.same y = true) xs ys := by
  cases j with
  | arr ys => simp [same, sameItems_iff]
  | _ => simp [same, number?]

theorem sameFields_iff {xs ys : Fields} : sameFields xs ys = true ↔
    ∀ p ∈ xs, ∃ w, ys.lookup p.1 = some w ∧ p.2.same w = true := by
  induction xs with
  | nil => simp [sameFields]
  | cons p xs ih =>
    rw [sameFields, Bool.and_eq_true, ih, List.forall_mem_cons]
    refine and_congr_left fun _ => ?_
    cases ys.lookup p.1 <;> simp

theorem same_obj {xs : Fields} {j : Json} : (Json.obj xs).same j = true ↔
    ∃ ys, j = .obj ys ∧ xs.length = ys.length ∧ ∀ p ∈ xs, ∃ w, ys.lookup p.1 = some w ∧ p.2.same w = true := by
  cases j with
  | obj ys => rw [same, Bool.and_eq_true, beq_iff_eq, sameFields_iff]; simp
  | _ => simp [same, number?]

theorem same_number {j k : Json} {n : Numeric} (hn : j.number? = some n) :
    j.same k = true ↔ ∃ i, j.position? = some i ∧ k.position? = some i := by
  have hsame : ∀ m : Numeric, n.same m = true ↔ ∃ i, n.position? = some i ∧ m.position? = some i := by
    intro m
    rw [Numeric.same]
    cases n.position? with
    | none => simp
    | some i =>
      cases m.position? with
      | none => simp
      | some i' => simp [@eq_comm _ i' i]
  have hposition : j.position? = n.position? := by rw [position?, hn, Option.bind_some]
  rw [hposition, position?]
  cases j with
  | bool b | num b => cases k <;> simp_all [same, number?]
  | _ => cases hn

theorem exists_number_of_position {j : Json} {i : Int} (h : j.position? = some i) : ∃ n, j.number? = some n := by
  obtain ⟨n, hn, -⟩ := Option.bind_eq_some_iff.1 h
  exact ⟨n, hn⟩

theorem isContainer_eq_of_same {a b : Json} (h : a.same b = true) : a.isContainer = b.isContainer := by
  cases a with
  | null => rw [same_null.1 h]
  | str s => rw [same_str.1 h]
  | bool _ | num _ =>
    obtain ⟨i, -, hi⟩ := (same_number rfl).1 h
    obtain ⟨n, hn⟩ := exists_number_of_position hi
    cases b <;> first | rfl | cases hn
  | arr xs =>
    obtain ⟨ys, rfl, -⟩ := same_arr.1 h
    rfl
  | obj xs =>
    obtain ⟨ys, rfl, -⟩ := same_obj.1 h
    rfl

theorem same_symm_of_scalar {a b : Json} (ha : a.isContainer = false) (h : a.same b = true) : b.same a = true := by
  cases a with
  | null =>
    rw [same_null.1 h]
    rfl
  | str s =>
    rw [same_str.1 h]
    exact same_str.2 rfl
  | bool _ | num _ =>
    obtain ⟨i, ha, hb⟩ := (same_number rfl).1 h
    obtain ⟨n, hn⟩ := exists_number_of_position hb
    exact (same_number hn).2 ⟨i, hb, ha⟩
  | arr _ | obj _ => cases ha

theorem truthy_of_position {j : Json} {i : Int} (h : j.position? = some i) : j.truthy = true ↔ i ≠ 0 := by
  have hint : ∀ n : Int, n * (Number.Double.unit : Int) ≠ 0 ↔ n ≠ 0 := by
    intro n
    have hunit : (Number.Double.unit : Int) ≠ 0 := by decide +kernel
    rw [ne_eq, Int.mul_eq_zero, or_iff_left hunit]
  have hbound : (Number.Double.bound : Int) ≠ 0 := by decide +kernel
  obtain ⟨n, hn, hposition⟩ := Option.bind_eq_some_iff.1 h
  have hnonzero : n.isNonzero = true ↔ i ≠ 0 := by
    cases n with
    | int n =>
      cases hposition
      rw [hint, Numeric.isNonzero, bne_iff_ne]
    | double x =>
      cases x with
      | finite negative units =>
        cases hposition
        cases negative <;> simp [Numeric.isNonzero, Number.Double.isNonzero, Number.Double.signedUnits]
      | infinite negative =>
        cases negative with
        | false => exact iff_of_true rfl ((Option.some.inj hposition : _ = i) ▸ hbound)
        | true => exact iff_of_true rfl ((Option.some.inj hposition : _ = i) ▸ Int.neg_ne_zero.2 hbound)
      | nan => cases hposition
  cases j with
  | bool b =>
    cases hn
    rw [← hnonzero]
    cases b <;> decide
  | num m =>
    cases hn
    exact hnonzero
  | _ => cases hn

/-! ## Values that can be written -/

/-- A value that can be written: the names in an object differ, and no number is undefined. -/
inductive WellFormed : Json → Prop
  | null : WellFormed .null
  | bool (b : Bool) : WellFormed (.bool b)
  | num {n : Numeric} : n.position?.isSome → WellFormed (.num n)
  | str (s : String) : WellFormed (.str s)
  | arr {items : List Json} : (∀ j ∈ items, WellFormed j) → WellFormed (.arr items)
  | obj {fields : Fields} : fields.keys.Nodup → (∀ p ∈ fields, WellFormed p.2) → WellFormed (.obj fields)

/-- Induction over values. -/
theorem induct {P : Json → Prop} (scalar : ∀ j, j.isContainer = false → P j)
    (arr : ∀ items, (∀ j ∈ items, P j) → P (.arr items))
    (obj : ∀ fields : Fields, (∀ p ∈ fields, P p.2) → P (.obj fields)) : ∀ j, P j
  | .arr items => arr items fun j hj =>
    have _h := List.sizeOf_lt_of_mem hj
    induct scalar arr obj j
  | .obj fields => obj fields fun p hp =>
    have _h := List.sizeOf_lt_of_mem hp
    induct scalar arr obj p.2
  | .null | .bool _ | .num _ | .str _ => scalar _ rfl
termination_by j => sizeOf j
decreasing_by
  · simp only [Json.arr.sizeOf_spec]
    omega
  · obtain ⟨k, v⟩ := p
    simp only [Prod.mk.sizeOf_spec, Json.obj.sizeOf_spec] at *
    omega

mutual

/-- Whether a value can be written. -/
def isWellFormed : Json → Bool
  | null | bool _ | str _ => true
  | num n => n.position?.isSome
  | arr items => areWellFormed items
  | obj fields => decide (Fields.keys fields).Nodup && haveWellFormed fields

/-- Whether all items can be written. -/
def areWellFormed : List Json → Bool
  | [] => true
  | j :: js => isWellFormed j && areWellFormed js

/-- Whether the values of all fields can be written. -/
def haveWellFormed : List (String × Json) → Bool
  | [] => true
  | (_, v) :: rest => isWellFormed v && haveWellFormed rest

end

theorem areWellFormed_iff {items : List Json} : areWellFormed items = true ↔ ∀ j ∈ items, j.isWellFormed = true := by
  induction items with
  | nil => simp [areWellFormed]
  | cons j items ih => simp [areWellFormed, ih]

theorem haveWellFormed_iff {fields : Fields} :
    haveWellFormed fields = true ↔ ∀ p ∈ fields, p.2.isWellFormed = true := by
  induction fields with
  | nil => simp [haveWellFormed]
  | cons p fields ih => simp [haveWellFormed, ih]

theorem isWellFormed_iff {j : Json} : j.isWellFormed = true ↔ j.WellFormed := by
  constructor
  · induction j using Json.induct with
    | scalar j hj =>
      intro h
      cases j with
      | null => exact .null
      | bool b => exact .bool b
      | num n => exact .num h
      | str s => exact .str s
      | arr _ | obj _ => cases hj
    | arr items ih =>
      intro h
      rw [isWellFormed, areWellFormed_iff] at h
      exact .arr fun j hj => ih j hj (h j hj)
    | obj fields ih =>
      intro h
      rw [isWellFormed, Bool.and_eq_true, decide_eq_true_eq, haveWellFormed_iff] at h
      exact .obj h.1 fun p hp => ih p hp (h.2 p hp)
  · intro h
    induction h with
    | null | bool _ | str _ => rfl
    | num hn => exact hn
    | arr _ ih => exact areWellFormed_iff.2 ih
    | obj hkeys _ ih => exact Bool.and_eq_true_iff.2 ⟨decide_eq_true hkeys, haveWellFormed_iff.2 ih⟩

instance : DecidablePred WellFormed := fun _ => decidable_of_iff _ isWellFormed_iff

theorem WellFormed.of_lookup {fields : Fields} (h : (Json.obj fields).WellFormed) {k : String} {j : Json}
    (hj : fields.lookup k = some j) : j.WellFormed := by
  cases h with
  | obj _ h => exact h (k, j) (mem_of_lookup_eq_some hj)

theorem WellFormed.value {fields : Fields} (h : (Json.obj fields).WellFormed) (k : String) :
    (fields.value k).WellFormed := by
  rw [Fields.value]
  cases hk : fields.lookup k with
  | none => exact .null
  | some j => exact h.of_lookup hk

theorem WellFormed.elements {j : Json} (h : j.WellFormed) {items : List Json} (hitems : j.elements? = some items) :
    ∀ item ∈ items, item.WellFormed := by
  cases h with
  | arr h =>
    cases hitems
    exact h
  | str s =>
    cases hitems
    exact List.forall_mem_map.2 fun c _ => .str _
  | obj _ _ =>
    cases hitems
    exact List.forall_mem_map.2 fun p _ => .str _
  | _ => cases hitems

/-- **A value that can be written is the same as itself.** -/
theorem WellFormed.same_self {j : Json} (h : j.WellFormed) : j.same j = true := by
  induction h with
  | null => rfl
  | bool b => exact (same_number rfl).2 ⟨_, rfl, rfl⟩
  | num hn =>
    obtain ⟨i, hi⟩ := Option.isSome_iff_exists.1 hn
    exact (same_number rfl).2 ⟨i, hi, hi⟩
  | str s => exact same_str.2 rfl
  | arr _ ih => exact same_arr.2 ⟨_, rfl, List.forall₂_same.2 ih⟩
  | obj hkeys _ ih => exact same_obj.2 ⟨_, rfl, rfl, fun p hp => ⟨p.2, lookup_of_mem hkeys p hp, ih p hp⟩⟩

/-- **What is the same as a third value is the same.** -/
theorem same_trans {a : Json} : ∀ {b c : Json}, a.same b = true → b.same c = true → a.same c = true := by
  induction a using Json.induct with
  | scalar a ha =>
    intro b c hab hbc
    cases a with
    | null => rwa [← same_null.1 hab]
    | str s => rwa [← same_str.1 hab]
    | bool _ | num _ =>
      obtain ⟨i, ha, hb⟩ := (same_number rfl).1 hab
      obtain ⟨n, hn⟩ := exists_number_of_position hb
      obtain ⟨i', hb', hc⟩ := (same_number hn).1 hbc
      cases hb.symm.trans hb'
      exact (same_number rfl).2 ⟨i, ha, hc⟩
    | arr _ | obj _ => cases ha
  | arr xs ih =>
    intro b c hab hbc
    obtain ⟨ys, rfl, hxy⟩ := same_arr.1 hab
    obtain ⟨zs, rfl, hyz⟩ := same_arr.1 hbc
    refine same_arr.2 ⟨zs, rfl, ?_⟩
    clear hab hbc
    induction hxy generalizing zs with
    | nil => exact hyz
    | cons hx _ ihxy =>
      cases hyz with
      | cons hy hyz =>
        obtain ⟨ihx, ihxs⟩ := List.forall_mem_cons.1 ih
        exact .cons (ihx hx hy) (ihxy ihxs _ hyz)
  | obj xs ih =>
    intro b c hab hbc
    obtain ⟨ys, rfl, hlen, hxy⟩ := same_obj.1 hab
    obtain ⟨zs, rfl, hlen', hyz⟩ := same_obj.1 hbc
    refine same_obj.2 ⟨zs, rfl, hlen.trans hlen', fun p hp => ?_⟩
    obtain ⟨v, hv, hpv⟩ := hxy p hp
    obtain ⟨w, hw, hvw⟩ := hyz (p.1, v) (mem_of_lookup_eq_some hv)
    exact ⟨w, hw, ih p hp hpv hvw⟩

end Json

/-! ## Fields of the same objects -/

theorem Fields.lookup_isSome_iff_mem_keys {fields : Fields} {k : String} :
    (fields.lookup k).isSome = true ↔ k ∈ fields.keys := by
  rw [lookup_isSome_iff, keys]
  simp

/-- **The same objects have the same fields**, if the names in the first one differ. -/
theorem Json.lookup_of_same {xs ys : Fields} (hx : xs.keys.Nodup) (h : (Json.obj xs).same (.obj ys) = true)
    (k : String) : Option.Rel (fun a b => a.same b = true) (xs.lookup k) (ys.lookup k) := by
  obtain ⟨_, hobj, hlength, hfields⟩ := same_obj.1 h
  cases hobj
  have hsubset : xs.keys ⊆ ys.keys := by
    intro k hk
    obtain ⟨p, hp, rfl⟩ := List.mem_map.1 hk
    obtain ⟨w, hw, -⟩ := hfields p hp
    exact Fields.lookup_isSome_iff_mem_keys.1 (Option.isSome_iff_exists.2 ⟨w, hw⟩)
  -- There are as many names on both sides, so that no name of the second object is missing in the first.
  have hperm : xs.keys.Perm ys.keys := by
    refine (List.subperm_of_subset hx hsubset).perm_of_length_le (Nat.le_of_eq ?_)
    rw [Fields.keys, Fields.keys, List.length_map, List.length_map, hlength]
  cases hk : xs.lookup k with
  | some v =>
    obtain ⟨w, hw, hsame⟩ := hfields (k, v) (mem_of_lookup_eq_some hk)
    rw [hw]
    exact .some hsame
  | none =>
    have hmissing : ys.lookup k = none := by
      rw [← Option.not_isSome_iff_eq_none, Fields.lookup_isSome_iff_mem_keys, ← hperm.mem_iff,
        ← Fields.lookup_isSome_iff_mem_keys, hk]
      simp
    rw [hmissing]
    exact .none

/-- **Of two values that can be written either is the same as the other, or neither.** -/
theorem Json.WellFormed.same_symm {a b : Json} (ha : a.WellFormed) (hb : b.WellFormed) (h : a.same b = true) :
    b.same a = true := by
  induction ha generalizing b with
  | null | str _ | bool _ | num _ => exact same_symm_of_scalar rfl h
  | @arr xs hxs ih =>
    obtain ⟨ys, rfl, hitems⟩ := same_arr.1 h
    refine same_arr.2 ⟨xs, rfl, ?_⟩
    clear hxs
    cases hb with
    | arr hb =>
      clear h
      induction hitems with
      | nil => exact .nil
      | cons hx _ ihxs =>
        obtain ⟨ihx, ihxs'⟩ := List.forall_mem_cons.1 ih
        obtain ⟨hy, hys⟩ := List.forall_mem_cons.1 hb
        exact .cons (ihx hy hx) (ihxs ihxs' hys)
  | @obj xs hx _ ih =>
    obtain ⟨ys, rfl, hlength, -⟩ := same_obj.1 h
    cases hb with
    | obj hy hb =>
      refine same_obj.2 ⟨xs, rfl, hlength.symm, fun p hp => ?_⟩
      have hp' := lookup_of_same hx h p.1
      rw [lookup_of_mem hy p hp] at hp'
      revert hp'
      cases hv : xs.lookup p.1 with
      | none => rintro (_ | _)
      | some v =>
        rintro (hsame | _)
        exact ⟨v, rfl, ih (p.1, v) (mem_of_lookup_eq_some hv) (hb p hp) hsame⟩

/-! ## Values that are alike -/

namespace Json

/-- Two values that can be written and are the same. -/
structure Alike (a b : Json) : Prop where
  left : a.WellFormed
  right : b.WellFormed
  same : a.same b = true

namespace Alike

variable {a b : Json} {xs ys : Fields}

theorem refl (h : a.WellFormed) : a.Alike a := ⟨h, h, h.same_self⟩

theorem symm (h : a.Alike b) : b.Alike a := ⟨h.right, h.left, h.left.same_symm h.right h.same⟩

theorem str (s : String) : (Json.str s).Alike (.str s) := refl (.str s)

theorem arr_iff {xs ys : List Json} : (Json.arr xs).Alike (.arr ys) ↔ List.Forall₂ Alike xs ys := by
  constructor
  · rintro ⟨hx, hy, hsame⟩
    cases hx with
    | arr hx =>
      cases hy with
      | arr hy =>
        obtain ⟨_, harr, hitems⟩ := same_arr.1 hsame
        cases harr
        clear hsame
        induction hitems with
        | nil => exact .nil
        | cons hxy _ ih =>
          obtain ⟨hx, hxs⟩ := List.forall_mem_cons.1 hx
          obtain ⟨hy, hys⟩ := List.forall_mem_cons.1 hy
          exact .cons ⟨hx, hy, hxy⟩ (ih hxs hys)
  · intro h
    refine ⟨.arr fun x hx => ?_, .arr fun y hy => ?_, same_arr.2 ⟨ys, rfl, h.imp fun _ _ hxy => hxy.same⟩⟩
    · induction h with
      | nil => cases hx
      | cons hxy _ ih => exact (List.mem_cons.1 hx).elim (fun heq => heq ▸ hxy.left) ih
    · induction h with
      | nil => cases hy
      | cons hxy _ ih => exact (List.mem_cons.1 hy).elim (fun heq => heq ▸ hxy.right) ih

theorem of_sameItems {xs ys : List Json} (hx : ∀ x ∈ xs, x.WellFormed) (hy : ∀ y ∈ ys, y.WellFormed)
    (h : sameItems xs ys = true) : List.Forall₂ Alike ys xs := by
  have hlists : (Json.arr xs).Alike (.arr ys) := ⟨.arr hx, .arr hy, same_arr.2 ⟨ys, rfl, sameItems_iff.1 h⟩⟩
  exact arr_iff.1 hlists.symm

/-- **Objects are alike iff no name stands twice and what is found under each name is alike.** -/
theorem obj_iff : (Json.obj xs).Alike (.obj ys) ↔
    xs.keys.Nodup ∧ ys.keys.Nodup ∧ ∀ k, Option.Rel Alike (xs.lookup k) (ys.lookup k) := by
  constructor
  · rintro ⟨hx, hy, hsame⟩
    cases hx with
    | obj hx hxs =>
      cases hy with
      | obj hy hys =>
        refine ⟨hx, hy, fun k => ?_⟩
        have hk := lookup_of_same hx hsame k
        revert hk
        cases hv : xs.lookup k <;> cases hw : ys.lookup k <;> rintro (hvw | _)
        · exact .none
        · exact .some ⟨hxs _ (mem_of_lookup_eq_some hv), hys _ (mem_of_lookup_eq_some hw), hvw⟩
  · rintro ⟨hx, hy, hrel⟩
    have hmem : ∀ k, k ∈ xs.keys ↔ k ∈ ys.keys := by
      intro k
      have hk := hrel k
      rw [← Fields.lookup_isSome_iff_mem_keys, ← Fields.lookup_isSome_iff_mem_keys]
      revert hk
      cases xs.lookup k <;> cases ys.lookup k <;> rintro (_ | _) <;> simp
    have hfind : ∀ p ∈ xs, ∃ w, ys.lookup p.1 = some w ∧ p.2.Alike w := by
      intro p hp
      have hk := hrel p.1
      rw [lookup_of_mem hx p hp] at hk
      revert hk
      cases ys.lookup p.1 with
      | none => rintro (_ | _)
      | some w =>
        rintro (hpw | _)
        exact ⟨w, rfl, hpw⟩
    have hlength : xs.keys.length = ys.keys.length := ((List.perm_ext_iff_of_nodup hx hy).2 hmem).length_eq
    refine ⟨.obj hx fun p hp => ?_, .obj hy fun p hp => ?_,
      same_obj.2 ⟨ys, rfl, by simpa [Fields.keys] using hlength, ?_⟩⟩
    · obtain ⟨w, -, hpw⟩ := hfind p hp
      exact hpw.left
    · have hk := hrel p.1
      rw [lookup_of_mem hy p hp] at hk
      revert hk
      cases xs.lookup p.1 with
      | none => rintro (_ | _)
      | some v =>
        rintro (hvp | _)
        exact hvp.right
    · intro p hp
      obtain ⟨w, hw, hpw⟩ := hfind p hp
      exact ⟨w, hw, hpw.same⟩

theorem value (h : (Json.obj xs).Alike (.obj ys)) (k : String) : (xs.value k).Alike (ys.value k) := by
  have hk := (obj_iff.1 h).2.2 k
  rw [Fields.value, Fields.value]
  revert hk
  cases xs.lookup k <;> cases ys.lookup k <;> rintro (hvw | _)
  · exact refl .null
  · exact hvw

/-- Values that are alike are of one kind. -/
theorem kinds (h : a.Alike b) : (∃ s, a = .str s ∧ b = .str s) ∨
    (∃ xs ys, a = .arr xs ∧ b = .arr ys ∧ List.Forall₂ Alike xs ys) ∨ (∃ xs ys, a = .obj xs ∧ b = .obj ys) ∨
    a.isContainer = false ∧ b.isContainer = false ∧ a.str? = none ∧ b.str? = none := by
  cases a with
  | null =>
    obtain rfl := same_null.1 h.same
    simp [isContainer, str?]
  | str s =>
    obtain rfl := same_str.1 h.same
    exact Or.inl ⟨s, rfl, rfl⟩
  | bool _ | num _ =>
    obtain ⟨i, -, hi⟩ := (same_number rfl).1 h.same
    obtain ⟨n, hn⟩ := exists_number_of_position hi
    cases b <;> simp_all [isContainer, str?, number?]
  | arr xs =>
    obtain ⟨ys, rfl, -⟩ := same_arr.1 h.same
    exact Or.inr (Or.inl ⟨xs, ys, rfl, rfl, arr_iff.1 h⟩)
  | obj xs =>
    obtain ⟨ys, rfl, -⟩ := same_obj.1 h.same
    exact Or.inr (Or.inr (Or.inl ⟨xs, ys, rfl, rfl⟩))

theorem str? (h : a.Alike b) : a.str? = b.str? := by
  rcases h.kinds with ⟨s, rfl, rfl⟩ | ⟨xs, ys, rfl, rfl, -⟩ | ⟨xs, ys, rfl, rfl⟩ | ⟨-, -, ha, hb⟩
  · rfl
  · rfl
  · rfl
  · rw [ha, hb]

theorem isContainer (h : a.Alike b) : a.isContainer = b.isContainer :=
  isContainer_eq_of_same h.same

theorem isText (h : a.Alike b) (s : String) : a.isText s = b.isText s := by
  have htext : ∀ j : Json, j.isText s = decide (j.str? = some s) := by
    intro j
    rw [Bool.eq_iff_iff, isText_iff, decide_eq_true_iff, str?_eq_some]
  rw [htext, htext, h.str?]

theorem truthy (h : a.Alike b) : a.truthy = b.truthy := by
  cases a with
  | null => rw [same_null.1 h.same]
  | str s => rw [same_str.1 h.same]
  | bool _ | num _ =>
    obtain ⟨i, ha, hb⟩ := (same_number rfl).1 h.same
    rw [Bool.eq_iff_iff, truthy_of_position ha, truthy_of_position hb]
  | arr xs =>
    obtain ⟨ys, rfl, hitems⟩ := same_arr.1 h.same
    cases hitems <;> rfl
  | obj xs =>
    obtain ⟨ys, rfl, hlength, -⟩ := same_obj.1 h.same
    cases xs <;> cases ys <;> simp_all [Json.truthy]

theorem same_right (h : a.Alike b) (j : Json) : j.same a = j.same b := by
  rw [Bool.eq_iff_iff]
  exact ⟨fun ha => same_trans ha h.same, fun hb => same_trans hb h.symm.same⟩

theorem same_left (h : a.Alike b) (j : Json) : a.same j = b.same j := by
  rw [Bool.eq_iff_iff]
  exact ⟨fun ha => same_trans h.symm.same ha, fun hb => same_trans h.same hb⟩

theorem of_forall₂ (hx : xs.keys.Nodup) (h : List.Forall₂ (fun p q => p.1 = q.1 ∧ p.2.Alike q.2) xs ys) :
    (Json.obj xs).Alike (.obj ys) := by
  have hkeys : xs.keys = ys.keys := by
    clear hx
    induction h with
    | nil => rfl
    | cons hpq _ ih => exact List.cons_eq_cons.2 ⟨hpq.1, ih⟩
  refine obj_iff.2 ⟨hx, hkeys ▸ hx, fun k => ?_⟩
  clear hx hkeys
  induction h with
  | nil => exact .none
  | @cons p q _ _ hpq _ ih =>
    obtain ⟨hname, hvalue⟩ := hpq
    rw [List.lookup_cons, List.lookup_cons, ← hname]
    split
    · exact .some hvalue
    · exact ih

end Alike

end Json

end TableQuery
