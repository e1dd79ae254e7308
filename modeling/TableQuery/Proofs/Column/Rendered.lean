import TableQuery.Proofs.Outcomes
import TableQuery.Proofs.Store.Typed

/-!
# The JSON type of a column

The JSON values that a column of a type shows (`ColumnType.admits`): truth values, integers or texts, lists of texts
for a list, and `null` where values may be missing. Whatever is shown of a stored value is one of them
(`ColumnType.admits_of_render`).
-/

set_option autoImplicit false

namespace TableQuery

open Sql (Value)

/-- The JSON values that a column of a kind shows of what is there. -/
def Kind.admits : Kind → Json → Bool
  | bool, .bool _ | int, .num (.int _) | count, .num (.int _) => true
  | date, .str _ | moment, .str _ | string, .str _ | text, .str _ | uuid, .str _ | dict, .str _ => true
  | uuidList, .arr items | dictList, .arr items => items.all fun j => j.str?.isSome
  | list, .arr _ | object, .obj _ => true
  | _, _ => false

/-- The JSON values that a column of a type shows; what is missing is null, except that a list is empty. -/
def ColumnType.admits (t : ColumnType) : Json → Bool
  | .null => t.isNullable && !t.isList
  | j => t.kind.admits j

namespace Cell

variable {t : ColumnType} {v : Value}

theorem mem_sortValues {items sorted : List Json} (h : sortValues items = .ok sorted) {j : Json} :
    j ∈ sorted ↔ j ∈ items := by
  unfold sortValues at h
  split at h
  · cases h
    rfl
  · split at h
    · cases h
      exact List.mem_mergeSort
    · cases h

theorem texts_of_renderMembers {js : List Json} (h : (ofValue t v).renderMembers = .ok js) :
    (js.all fun j => j.str?.isSome) = true := by
  have htexts (texts : List String) (hsort : sortValues (texts.map .str) = .ok js) :
      (js.all fun j => j.str?.isSome) = true := by
    refine List.all_eq_true.2 fun j hj => ?_
    obtain ⟨s, -, rfl⟩ := List.mem_map.1 ((mem_sortValues hsort).1 hj)
    rfl
  cases v with
  | null | int n | real x => exact htexts _ h
  | text s =>
    rw [ofValue] at h
    split at h
    · cases hdate : Iso.date? s <;> rw [hdate] at h <;> exact htexts _ h
    · cases hstamp : Iso.stamp? s <;> rw [hstamp] at h <;> exact htexts _ h
    · exact htexts _ h

end Cell

theorem Kind.admits_of_render {k : Kind} {t : ColumnType} {v : Value} {j : Json} (hlist : k ≠ .list)
    (hobject : k ≠ .object) (h : k.render (.ofValue t v) = .ok j) : k.admits j = true := by
  cases k with
  | list => exact absurd rfl hlist
  | object => exact absurd rfl hobject
  | bool | date | string | text | uuid | dict =>
    cases h
    rfl
  | moment | int | count =>
    obtain ⟨x, -, rfl⟩ := map_eq_ok.1 h
    rfl
  | uuidList | dictList =>
    obtain ⟨js, hjs, rfl⟩ := map_eq_ok.1 h
    exact Cell.texts_of_renderMembers hjs

namespace ColumnType

variable {t : ColumnType} {k : StoredKind} {v : Value} {j : Json}

theorem unstructured_of_shows (h : t.shows k = true) : t.kind ≠ .list ∧ t.kind ≠ .object := by
  constructor <;> intro hkind <;> simp [shows, hkind] at h

/-- **What a column shows of a stored value is of its JSON type**, if only what may be missing is. -/
theorem admits_of_render (ht : t.shows k = true) (hnull : t.isNullable = false → v ≠ .null)
    (h : t.render (.ofValue t v) = .ok j) : t.admits j = true := by
  have hkind : ∀ {j}, t.kind.admits j = true → t.admits j = true := by
    intro j hj
    cases j with
    | null => cases hk : t.kind <;> rw [hk] at hj <;> cases hj
    | _ => exact hj
  by_cases hmissing : v = .null
  · subst hmissing
    have hnullable : t.isNullable = true := by
      rw [← Bool.not_eq_false]
      exact fun hnot => hnull hnot rfl
    have hshown : (if t.isList then Json.arr [] else .null) = j := Except.ok.inj h
    split at hshown
    next hlist =>
      subst hshown
      refine hkind ?_
      cases hk : t.kind <;> simp_all [isList, Kind.isList, Kind.admits]
    next hlist =>
      subst hshown
      rw [admits, hnullable, Bool.eq_false_iff.2 hlist]
      rfl
  · rw [render, Cell.isMissing_ofValue hmissing, if_neg Bool.false_ne_true] at h
    obtain ⟨hlist, hobject⟩ := unstructured_of_shows ht
    exact hkind (Kind.admits_of_render hlist hobject h)

end ColumnType

end TableQuery
