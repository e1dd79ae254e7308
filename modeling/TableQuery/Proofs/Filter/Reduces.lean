import TableQuery.Filter.Reduction

/-!
# How reduction goes

The equations of `Draft.reduce` and of what it does with the parts of an operation (`Draft.reducedParts`), what
a successful step says (`Draft.reducedParts_cons_eq_ok`), and the induction that follows the work through the
parts, those that are put back included (`Draft.reduce_induct`, `Draft.reducedParts_induct`). Proofs about reduction
use these and never the weights.
-/

set_option autoImplicit false

namespace TableQuery.Draft

variable {s : ColumnSchemas} {all : Bool}

/-- The reduced parts of an operation, none if one of them decides. -/
def reducedParts (s : ColumnSchemas) (all : Bool) (ds : List Draft) : Except ReductionError (Option (List Draft)) :=
  (reduceParts s all ds).map (·.1)

/-! ## Equations -/

theorem reduce_const (value : Bool) : reduce s (const value) = .ok (const value) := by
  rw [reduce, reduceBounded]
  rfl

theorem reduce_bad (b : BadFilter) : reduce s (bad b) = .error (.bad b) := by
  rw [reduce, reduceBounded]
  rfl

theorem reduce_leaf (kind : LeafKind) (fields : Fields) :
    reduce s (leaf kind fields) = (reduceLeaf s kind fields).map Simple.toDraft := by
  rw [reduce, reduceBounded]
  cases reduceLeaf s kind fields <;> rfl

theorem reduce_op (ds : List Draft) (inverse : Bool) :
    reduce s (op all ds inverse) =
      (reducedParts s all ds).map fun parts => (assemble all parts).invertedIf inverse := by
  rw [reduce, reduceBounded, reducedParts]
  cases reduceParts s all ds <;> rfl

theorem reducedParts_nil : reducedParts s all [] = .ok (some []) := by
  rw [reducedParts, reduceParts]
  rfl

/-- What becomes of the parts from `d` on once `d` has been reduced. -/
def partsAfter (s : ColumnSchemas) (all : Bool) (rest : List Draft) (r : Draft) :
    Except ReductionError (Option (List Draft)) :=
  match partOf all r with
  | .deciding => .ok none
  | .neutral => reducedParts s all rest
  | .splits ds => reducedParts s all (ds ++ rest)
  | .stays => (reducedParts s all rest).map (Option.map (r :: ·))

theorem reducedParts_cons (d : Draft) (rest : List Draft) :
    reducedParts s all (d :: rest) = (reduce s d).bind (partsAfter s all rest) := by
  rw [reducedParts, reduceParts, reduce]
  cases reduceBounded s d with
  | error e => rfl
  | ok r =>
    obtain ⟨r, hr⟩ := r
    show _ = partsAfter s all rest r
    unfold partsAfter reducedParts
    dsimp only
    split
    next hp => simp only [hp]; rfl
    next hp =>
      simp only [hp]
      cases reduceParts s all rest <;> rfl
    next ds hp =>
      simp only [hp]
      cases reduceParts s all (ds ++ rest) <;> rfl
    next hp =>
      simp only [hp]
      cases reduceParts s all rest <;> rfl

/-! ## Steps -/

/-- The reduced parts are those of `d`, whatever it stands for, and those of the rest. -/
theorem reducedParts_cons_eq_ok {d : Draft} {rest : List Draft} {parts : Option (List Draft)} :
    reducedParts s all (d :: rest) = .ok parts ↔ ∃ r, reduce s d = .ok r ∧
      (partOf all r = .deciding ∧ parts = none ∨
        partOf all r = .neutral ∧ reducedParts s all rest = .ok parts ∨
        (∃ ds, partOf all r = .splits ds ∧ reducedParts s all (ds ++ rest) = .ok parts) ∨
        partOf all r = .stays ∧ ∃ others, reducedParts s all rest = .ok others ∧ parts = others.map (r :: ·)) := by
  rw [reducedParts_cons]
  cases reduce s d with
  | error e => simp [Except.bind]
  | ok r =>
    simp only [Except.bind, partsAfter, Except.ok.injEq, exists_eq_left']
    cases partOf all r with
    | deciding => simp [eq_comm]
    | neutral => simp
    | splits ds => simp
    | stays =>
      cases reducedParts s all rest with
      | error e => simp [Except.map]
      | ok others => simp [Except.map, eq_comm]

/-- Parts are reduced if the first is, and the rest and what the first stands for, followed by the rest, are. -/
theorem exists_reducedParts_cons {d r : Draft} {rest : List Draft} (hr : reduce s d = .ok r)
    (hrest : ∃ others, reducedParts s all rest = .ok others)
    (hsplits : ∀ ds, partOf all r = .splits ds → ∃ parts, reducedParts s all (ds ++ rest) = .ok parts) :
    ∃ parts, reducedParts s all (d :: rest) = .ok parts := by
  obtain ⟨others, hothers⟩ := hrest
  cases hpart : partOf all r with
  | deciding => exact ⟨none, reducedParts_cons_eq_ok.2 ⟨r, hr, Or.inl ⟨hpart, rfl⟩⟩⟩
  | neutral => exact ⟨others, reducedParts_cons_eq_ok.2 ⟨r, hr, Or.inr (Or.inl ⟨hpart, hothers⟩)⟩⟩
  | splits ds =>
    obtain ⟨parts, hparts⟩ := hsplits ds hpart
    exact ⟨parts, reducedParts_cons_eq_ok.2 ⟨r, hr, Or.inr (Or.inr (Or.inl ⟨ds, hpart, hparts⟩))⟩⟩
  | stays =>
    exact ⟨_, reducedParts_cons_eq_ok.2 ⟨r, hr, Or.inr (Or.inr (Or.inr ⟨hpart, others, hothers, rfl⟩))⟩⟩

theorem partOf_eq_deciding {r : Draft} : partOf all r = .deciding ↔ r = const !all := by
  cases r with
  | const value => cases value <;> cases all <;> simp [partOf]
  | op inner ds inverse => cases inner <;> cases inverse <;> cases all <;> simp [partOf]
  | leaf _ _ | bad _ => simp [partOf]

theorem partOf_eq_neutral {r : Draft} : partOf all r = .neutral ↔ r = const all := by
  cases r with
  | const value => cases value <;> cases all <;> simp [partOf]
  | op inner ds inverse => cases inner <;> cases inverse <;> cases all <;> simp [partOf]
  | leaf _ _ | bad _ => simp [partOf]

theorem partOf_eq_splits {r : Draft} {ds : List Draft} :
    partOf all r = .splits ds ↔ r = op all ds false ∨ ∃ es, r = op (!all) es true ∧ ds = es.map inverted := by
  cases r with
  | const value => cases value <;> cases all <;> simp [partOf]
  | op inner es inverse => cases inner <;> cases inverse <;> cases all <;> simp [partOf, eq_comm]
  | leaf _ _ | bad _ => simp [partOf]

theorem weight_reduce_le {d r : Draft} (h : reduce s d = .ok r) : r.weight ≤ d.weight := by
  rw [reduce] at h
  cases hr : reduceBounded s d with
  | error e => rw [hr] at h; cases h
  | ok r' =>
    rw [hr] at h
    cases h
    exact r'.2

/-! ## Induction -/

/-- **Induction along reduction.** The parts of an operation come one by one, and parts that are put back come
again. -/
theorem reduce_induct (motive : Draft → Prop) (partsMotive : Bool → List Draft → Prop)
    (hconst : ∀ value, motive (const value)) (hbad : ∀ b, motive (bad b))
    (hleaf : ∀ kind fields, motive (leaf kind fields))
    (hop : ∀ all ds inverse, partsMotive all ds → motive (op all ds inverse)) (hnil : ∀ all, partsMotive all [])
    (hcons : ∀ all d rest, motive d → partsMotive all rest →
      (∀ r ds, reduce s d = .ok r → partOf all r = .splits ds → partsMotive all (ds ++ rest)) →
        partsMotive all (d :: rest)) :
    (∀ d, motive d) ∧ ∀ all ds, partsMotive all ds := by
  have hboth : ∀ n, (∀ d, d.weight ≤ n → motive d) ∧ ∀ all ds, weightOfAll ds ≤ n → partsMotive all ds := by
    intro n
    induction n using Nat.strongRecOn with
    | _ n ih =>
      have hparts : ∀ all ds, weightOfAll ds < n → partsMotive all ds :=
        fun all ds hlt => (ih _ hlt).2 all ds (Nat.le_refl _)
      have hdraft : ∀ d, d.weight ≤ n → motive d := by
        intro d hd
        cases d with
        | const value => exact hconst value
        | bad b => exact hbad b
        | leaf kind fields => exact hleaf kind fields
        | op all ds inverse =>
          rw [weight] at hd
          exact hop all ds inverse (hparts all ds (by omega))
      refine ⟨hdraft, fun all ds hds => ?_⟩
      cases ds with
      | nil => exact hnil all
      | cons d rest =>
        have hpos := weight_pos d
        rw [weightOfAll] at hds
        refine hcons all d rest (hdraft d (by omega)) (hparts all rest (by omega)) fun r ds hr hsplit => ?_
        -- A reduced part is no heavier, and what it stands for is lighter still.
        have hle := weight_reduce_le hr
        have hlt := weightOfAll_lt_of_partOf hsplit
        refine hparts all (ds ++ rest) ?_
        rw [weightOfAll_append]
        omega
  exact ⟨fun d => (hboth _).1 d (Nat.le_refl _), fun all ds => (hboth _).2 all ds (Nat.le_refl _)⟩

/-- Induction along the reduction of parts alone. -/
theorem reducedParts_induct (motive : Bool → List Draft → Prop) (hnil : ∀ all, motive all [])
    (hcons : ∀ all d rest, motive all rest →
      (∀ r ds, reduce s d = .ok r → partOf all r = .splits ds → motive all (ds ++ rest)) → motive all (d :: rest)) :
    ∀ all ds, motive all ds :=
  (reduce_induct (fun _ => True) motive (fun _ => trivial) (fun _ => trivial) (fun _ _ => trivial)
    (fun _ _ _ _ => trivial) hnil fun all d rest _ => hcons all d rest).2

end TableQuery.Draft
