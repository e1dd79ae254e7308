import TableQuery.Proofs.Sql.Groups

/-!
# The order of rows

Values that are no undefined numbers are ordered by what kind they are, and then by number or by text
(`Value.compare_eq_order`). Sorting by several of them therefore gives rows in order (`pairwise_mergeSort_keys`): of
two rows the first entry of the sort in which they differ tells which one comes first (`InOrder`). Where nothing is
grouped, the sorted groups of a query are the rows that satisfy its clauses, sorted (`Query.sorted_ungrouped`).
-/

set_option autoImplicit false

namespace TableQuery.Sql

open Number (Numeric Double)

/-! ## Values -/

namespace Value

/-- The place of a numeric value on the number line. -/
def position (v : Value) : Int := (v.num?.bind Numeric.position?).getD 0

/-- The text of a textual value. -/
def content : Value → String
  | text s => s
  | _ => ""

/-- The order of values by kind, then by number, then by text. -/
def order : Value → Value → Ordering :=
  compareLex (compareOn rank) (compareLex (compareOn position) (compareOn content))

instance : Std.TransCmp order :=
  inferInstanceAs (Std.TransCmp (compareLex (compareOn rank) (compareLex (compareOn position) (compareOn content))))

theorem order_swap (a b : Value) : (a.order b).swap = b.order a := Std.OrientedCmp.eq_swap.symm

theorem order_trans {a b c : Value} (hab : (a.order b).isLE) (hbc : (b.order c).isLE) : (a.order c).isLE :=
  Std.TransCmp.isLE_trans hab hbc

theorem compare_of_num {a b : Value} {m n : Numeric} {i j : Int} (ha : a.num? = some m) (hb : b.num? = some n)
    (hi : m.position? = some i) (hj : n.position? = some j) : a.compare b = Ord.compare i j := by
  have hless : a.compare b = if m.less n then .lt else if n.less m then .gt else .eq := by
    cases a <;> cases b <;> simp_all [compare, num?]
  rw [hless, Numeric.less, Numeric.less, hi, hj]
  simp only [decide_eq_true_eq]
  rw [Int.compare_eq_ite_lt]

theorem exists_position {a : Value} {m : Numeric} (ha : a.num? = some m) (hnan : a ≠ real .nan) :
    ∃ i, m.position? = some i := by
  cases a with
  | null | text _ => cases ha
  | int n => cases ha; exact ⟨_, rfl⟩
  | real x =>
    cases ha
    cases x with
    | finite s u => exact ⟨_, rfl⟩
    | infinite s => cases s <;> exact ⟨_, rfl⟩
    | nan => exact absurd rfl hnan

theorem order_of_rank_ne {a b : Value} (h : a.rank ≠ b.rank) : a.order b = Ord.compare a.rank b.rank := by
  cases hrank : Ord.compare a.rank b.rank with
  | eq => exact absurd (Std.LawfulEqOrd.eq_of_compare hrank) h
  | lt | gt => simp only [order, compareLex, compareOn, hrank, Ordering.then]

/-- **Values that are no undefined numbers are ordered.** -/
theorem compare_eq_order {a b : Value} (ha : a ≠ real .nan) (hb : b ≠ real .nan) : a.compare b = a.order b := by
  by_cases hrank : a.rank = b.rank
  · cases hm : a.num? with
    | none => cases a <;> cases b <;> simp_all [compare, num?, order, compareLex, compareOn, rank, position, content]
    | some m =>
      cases hn : b.num? with
      | none => cases a <;> cases b <;> simp_all [num?, rank]
      | some n =>
        obtain ⟨i, hi⟩ := exists_position hm ha
        obtain ⟨j, hj⟩ := exists_position hn hb
        have hplaces : a.position = i ∧ b.position = j := by simp [position, hm, hn, hi, hj]
        rw [compare_of_num hm hn hi hj, ← hplaces.1, ← hplaces.2]
        cases a <;> cases b <;> simp_all [num?, order, compareLex, compareOn, rank, content]
  · rw [order_of_rank_ne hrank]
    cases a <;> cases b <;> first | rfl | exact absurd rfl hrank

end Value

/-! ## Several values -/

section Keys

variable {α : Type}

/-- Something comes no later than something else when sorted by several values: the first of them in which the
two differ is the lesser one, or the greater one if it is marked descending. -/
def InOrder : List ((α → Value) × Bool) → α → α → Prop
  | [], _, _ => True
  | (key, desc) :: keys, a, b =>
    (key a).compare (key b) = (if desc then .gt else .lt) ∨
      (key a).compare (key b) = .eq ∧ InOrder keys a b

def orderOn (key : α → Value) : Bool → α → α → Ordering
  | false => fun a b => (key a).order (key b)
  | true => fun a b => (key b).order (key a)

def orderBy : List ((α → Value) × Bool) → α → α → Ordering
  | [] => fun _ _ => .eq
  | (key, desc) :: keys => compareLex (orderOn key desc) (orderBy keys)

instance (key : α → Value) : (desc : Bool) → Std.TransCmp (orderOn key desc)
  | false =>
    { eq_swap := (Value.order_swap _ _).symm
      isLE_trans := Value.order_trans }
  | true =>
    { eq_swap := (Value.order_swap _ _).symm
      isLE_trans := fun hab hbc => Value.order_trans hbc hab }

theorem orderOn_eq (key : α → Value) (desc : Bool) (a b : α) : orderOn key desc a b =
    if desc then ((key a).order (key b)).swap else (key a).order (key b) := by
  cases desc with
  | false => rfl
  | true => exact (Value.order_swap _ _).symm

instance transCmp_orderBy : (keys : List ((α → Value) × Bool)) → Std.TransCmp (orderBy keys)
  | [] => { eq_swap := rfl, isLE_trans := fun _ _ => rfl }
  | _ :: keys =>
    have := transCmp_orderBy keys
    inferInstanceAs (Std.TransCmp (compareLex _ _))

/-- None of the values is an undefined number. -/
def Defined (keys : List ((α → Value) × Bool)) (a : α) : Prop := ∀ p ∈ keys, p.1 a ≠ .real .nan

variable {keys : List ((α → Value) × Bool)} {a b : α}

theorem compareKeys_eq_orderBy (ha : Defined keys a) (hb : Defined keys b) :
    Query.compareKeys (keys.map (·.2)) (keys.map (·.1 a)) (keys.map (·.1 b)) = orderBy keys a b := by
  induction keys with
  | nil => rfl
  | cons p keys ih =>
    obtain ⟨key, desc⟩ := p
    rw [Defined, List.forall_mem_cons] at ha hb
    rw [List.map_cons, List.map_cons, List.map_cons, Query.compareKeys, ih ha.2 hb.2,
      Value.compare_eq_order ha.1 hb.1, orderBy, compareLex]
    rw [orderOn_eq]
    cases (key a).order (key b) <;> cases desc <;> rfl

theorem inOrder_of_compareKeys
    (h : Query.compareKeys (keys.map (·.2)) (keys.map (·.1 a)) (keys.map (·.1 b)) ≠ .gt) : InOrder keys a b := by
  induction keys with
  | nil => trivial
  | cons p keys ih =>
    obtain ⟨key, desc⟩ := p
    rw [List.map_cons, List.map_cons, List.map_cons, Query.compareKeys] at h
    rw [InOrder]
    cases hcompare : (key a).compare (key b) with
    | eq =>
      simp only [hcompare] at h
      exact Or.inr ⟨rfl, ih h⟩
    | lt | gt => cases desc <;> simp_all

/-- **Sorting by several values puts things in order**, if these are no undefined numbers. -/
theorem pairwise_mergeSort_keys {xs : List α} (h : ∀ a ∈ xs, Defined keys a) :
    (xs.mergeSort fun a b => Query.compareKeys (keys.map (·.2)) (keys.map (·.1 a)) (keys.map (·.1 b)) != .gt).Pairwise
      (InOrder keys) := by
  have hle : ∀ o : Ordering, (o != .gt) = o.isLE := by decide
  have hcongr : (xs.mergeSort fun a b =>
      Query.compareKeys (keys.map (·.2)) (keys.map (·.1 a)) (keys.map (·.1 b)) != .gt) =
      xs.mergeSort fun a b => (orderBy keys a b).isLE := by
    have hmap := @List.map_mergeSort _ _ (fun a b => Query.compareKeys (keys.map (·.2)) (keys.map (·.1 a))
      (keys.map (·.1 b)) != .gt) (fun a b => (orderBy keys a b).isLE) id xs fun a ha b hb => by
        rw [compareKeys_eq_orderBy (h a ha) (h b hb), hle, id, id]
    rwa [List.map_id, List.map_id] at hmap
  rw [hcongr]
  have htotal : ∀ a b, ((orderBy keys a b).isLE || (orderBy keys b a).isLE) = true := by
    intro a b
    have hswap : orderBy keys b a = (orderBy keys a b).swap := Std.OrientedCmp.eq_swap
    rw [hswap]
    cases orderBy keys a b <;> rfl
  have hsorted : (xs.mergeSort fun a b => (orderBy keys a b).isLE).Pairwise fun a b => (orderBy keys a b).isLE = true :=
    List.pairwise_mergeSort (fun _ _ _ => Std.TransCmp.isLE_trans) htotal xs
  refine hsorted.imp_of_mem fun {a b} ha hb hab => inOrder_of_compareKeys ?_
  rw [compareKeys_eq_orderBy (h a (List.mem_mergeSort.1 ha)) (h b (List.mem_mergeSort.1 hb))]
  intro hgt
  rw [hgt] at hab
  cases hab

end Keys

/-! ## Queries -/

namespace Query

variable {store : Store} {q : Query}

theorem sorted_eq_mergeSort (q : Query) : q.sorted store = (q.groups store).mergeSort fun g h =>
    compareKeys (q.orderBy.map (·.2)) (q.sortKey store g) (q.sortKey store h) != .gt := by
  unfold sorted
  dsimp only
  rw [List.map_mergeSort (s := fun g h =>
    compareKeys (q.orderBy.map (·.2)) (q.sortKey store g) (q.sortKey store h) != .gt), List.map_map]
  · exact congrArg (List.mergeSort · _) (List.map_id _)
  · intro p hp p' hp'
    obtain ⟨g, -, rfl⟩ := List.mem_map.1 hp
    obtain ⟨g', -, rfl⟩ := List.mem_map.1 hp'
    rfl

theorem sorted_perm (q : Query) : (q.sorted store).Perm (q.groups store) := by
  rw [sorted_eq_mergeSort]
  exact List.mergeSort_perm _ _

/-- What a query sorts a row by that is a group of its own. -/
def rowKeys (store : Store) (q : Query) : List ((Env → Value) × Bool) :=
  q.orderBy.map fun p => (fun env => p.1.value store env 1, p.2)

/-- The rows that satisfy the clauses of a query, sorted. -/
def sortedRows (store : Store) (q : Query) : List Env :=
  (q.matching store).mergeSort fun a b =>
    compareKeys (q.orderBy.map (·.2)) (q.orderBy.map (·.1.value store a 1)) (q.orderBy.map (·.1.value store b 1)) != .gt

/-- **Where nothing is grouped or counted the sorted groups are the sorted rows.** -/
theorem sorted_ungrouped (hgroup : q.groupBy = []) (hcount : q.columns.any isCount = false) :
    q.sorted store = (q.sortedRows store).map fun env => ⟨1, env⟩ := by
  rw [sorted_eq_mergeSort, groups_ungrouped hgroup hcount, sortedRows, List.map_mergeSort]
  exact fun _ _ _ _ => rfl

theorem sortedRows_perm (q : Query) : (q.sortedRows store).Perm (q.matching store) := List.mergeSort_perm _ _

theorem pairwise_sortedRows (h : ∀ env ∈ q.matching store, Defined (q.rowKeys store) env) :
    (q.sortedRows store).Pairwise (InOrder (q.rowKeys store)) := by
  have hsorted := pairwise_mergeSort_keys h
  simp only [rowKeys, List.map_map] at hsorted
  exact hsorted

end Query

end TableQuery.Sql
