import Mathlib.Algebra.GroupWithZero.Nat
import Mathlib.Data.List.Induction
import Mathlib.Data.List.Perm.Basic
import TableQuery.Sql.Run

/-!
# The groups of a query

A query that groups by something has the groups of its rows, one that only counts has a single group, and every
other one has a group for each row (`Query.groups_grouped`, `Query.groups_counting`, `Query.groups_ungrouped`); the
total counts the groups in the first case only (`Query.total_grouped`). Rows are put into groups one after the other
(`Query.Grouped.add`), so that no two groups have the same key (`Query.pairwise_groups`), each row has the key of a
group (`Query.exists_group`), and all of them together have as many rows as satisfy the clauses
(`Query.sum_size_groups`). The first row of a group satisfies the clauses, unless no rows are counted
(`Query.first_mem_groups`). Queries of the same rows whose keys tell the same rows apart have the same groups
(`Query.exists_pairs_of_groups`).
-/

set_option autoImplicit false

namespace TableQuery.Sql

/-! ## Keys -/

theorem Value.compare_self (v : Value) : v.compare v = .eq := by
  have hnumber : ∀ m : Number.Numeric, (if m.less m then Ordering.lt else if m.less m then .gt else .eq) = .eq := by
    intro m
    have hless : m.less m = false := by
      rw [Number.Numeric.less]
      cases m.position? <;> simp
    rw [hless, if_neg Bool.false_ne_true, if_neg Bool.false_ne_true]
  cases v with
  | null => rfl
  | int n | real x => exact hnumber _
  | text s => exact Std.ReflOrd.compare_self

theorem Value.compare_eq_comm (a b : Value) : a.compare b = .eq ↔ b.compare a = .eq := by
  have hnumbers : ∀ m n : Number.Numeric, (if m.less n then Ordering.lt else if n.less m then .gt else .eq) = .eq ↔
      (if n.less m then Ordering.lt else if m.less n then .gt else .eq) = .eq := by
    intro m n
    cases m.less n <;> cases n.less m <;> simp
  cases a <;> cases b <;> first | exact hnumbers _ _ | simp [compare, num?, rank]
  exact eq_comm

namespace Query

variable {store : Store} {q : Query}

theorem sameKey_cons (x y : Value) (a b : List Value) :
    sameKey (x :: a) (y :: b) = (x.compare y == .eq && sameKey a b) := by
  rw [Bool.eq_iff_iff]
  simp only [sameKey, List.length_cons, List.zip_cons_cons, List.all_cons, Bool.and_eq_true, beq_iff_eq,
    Nat.add_right_cancel_iff]
  exact and_left_comm

theorem sameKey_map {α : Type} (xs : List α) (f g : α → Value) :
    sameKey (xs.map f) (xs.map g) = xs.all fun x => (f x).compare (g x) == .eq := by
  induction xs with
  | nil => rfl
  | cons x xs ih => rw [List.map_cons, List.map_cons, sameKey_cons, ih, List.all_cons]

theorem sameKey_self (a : List Value) : sameKey a a = true := by
  have hkeys := sameKey_map a id id
  rw [List.map_id] at hkeys
  rw [hkeys, List.all_eq_true]
  exact fun v _ => beq_iff_eq.2 (Value.compare_self v)

/-- Whether keys are the same does not depend on their order. -/
theorem sameKey_comm : ∀ a b : List Value, sameKey a b = sameKey b a
  | [], [] | [], _ :: _ | _ :: _, [] => rfl
  | x :: a, y :: b => by
    have hvalues : (x.compare y == .eq) = (y.compare x == .eq) := by
      rw [Bool.eq_iff_iff, beq_iff_eq, beq_iff_eq]
      exact Value.compare_eq_comm x y
    rw [sameKey_cons, sameKey_cons, hvalues, sameKey_comm a b]

/-! ## Grouped, counted and single rows -/

/-- Where the rows are grouped, the groups are in the order of what they are grouped by. -/
theorem groups_grouped (h : q.groupBy ≠ []) : q.groups store =
    (((q.matching store).foldl (fun gs env => addToGroups (q.groupKey store env) env gs) []).mergeSort
      fun a b => compareKeys (q.groupBy.map fun _ => false) a.1 b.1 != .gt).map (·.2) := by
  unfold groups
  dsimp only
  rw [if_pos]
  simpa using h

theorem groups_counting (hgroup : q.groupBy = []) (hcount : q.columns.any isCount = true) :
    q.groups store = [⟨(q.matching store).length, (q.matching store).headD []⟩] := by
  unfold groups
  rw [hgroup, hcount]
  rfl

theorem groups_ungrouped (hgroup : q.groupBy = []) (hcount : q.columns.any isCount = false) :
    q.groups store = (q.matching store).map fun env => ⟨1, env⟩ := by
  unfold groups
  rw [hgroup, hcount]
  rfl

theorem total_grouped (h : q.groupBy ≠ []) : q.total store = (q.groups store).length := by
  have hplain : q.groupBy.isEmpty = false := by simpa using h
  unfold total counting
  rw [hplain]
  rfl

/-! ## Adding rows to groups -/

/-- **What one more row does to groups**: it belongs to the first of them that has its key, or makes a new one. -/
theorem addToGroups_cases (key : List Value) (env : Env) (gs : List (List Value × Group)) :
    (∃ before k g after, gs = before ++ (k, g) :: after ∧ sameKey k key = true ∧
      addToGroups key env gs = before ++ (k, { g with size := g.size + 1 }) :: after) ∨
    (∀ p ∈ gs, sameKey p.1 key = false) ∧ addToGroups key env gs = gs ++ [(key, ⟨1, env⟩)] := by
  induction gs with
  | nil => exact Or.inr ⟨nofun, rfl⟩
  | cons p gs ih =>
    obtain ⟨k, g⟩ := p
    rw [addToGroups]
    by_cases hsame : sameKey k key = true
    · rw [if_pos hsame]
      exact Or.inl ⟨[], k, g, gs, rfl, hsame, rfl⟩
    · rw [if_neg hsame]
      rcases ih with ⟨before, k', g', after, rfl, hsame', hadded⟩ | ⟨hnone, hadded⟩
      · exact Or.inl ⟨(k, g) :: before, k', g', after, rfl, hsame', by rw [hadded]; rfl⟩
      · refine Or.inr ⟨List.forall_mem_cons.2 ⟨Bool.eq_false_iff.2 hsame, hnone⟩, ?_⟩
        rw [hadded]
        rfl

/-- The groups of some rows: their keys are those of their first rows and differ, each row has the key of a group, no
group is empty, and together they have as many rows as there are. -/
structure Grouped (key : Env → List Value) (envs : List Env) (gs : List (List Value × Group)) : Prop where
  first : ∀ p ∈ gs, p.2.first ∈ envs ∧ p.1 = key p.2.first
  different : (gs.map (·.1)).Pairwise fun k l => sameKey k l = false
  complete : ∀ env ∈ envs, ∃ k ∈ gs.map (·.1), sameKey k (key env) = true
  nonempty : ∀ p ∈ gs, 1 ≤ p.2.size
  total : (gs.map (·.2.size)).sum = envs.length

namespace Grouped

variable {key : Env → List Value} {envs : List Env} {gs gs' : List (List Value × Group)}

theorem nil : Grouped key [] [] := ⟨nofun, List.Pairwise.nil, nofun, nofun, rfl⟩

theorem add (h : Grouped key envs gs) (env : Env) : Grouped key (envs ++ [env]) (addToGroups (key env) env gs) := by
  have hmore : ∀ p ∈ gs, p.2.first ∈ envs ++ [env] ∧ p.1 = key p.2.first := fun p hp =>
    ⟨List.mem_append_left _ (h.first p hp).1, (h.first p hp).2⟩
  rcases addToGroups_cases (key env) env gs with ⟨before, k, g, after, rfl, hsame, hadded⟩ | ⟨hnew, hadded⟩
  · rw [hadded]
    -- The group that grows keeps its key and its first row.
    have hold : (k, g) ∈ before ++ (k, g) :: after := by simp
    constructor
    · intro p hp
      rcases List.mem_append.1 hp with hp | hp
      · exact hmore p (List.mem_append_left _ hp)
      · rcases List.mem_cons.1 hp with rfl | hp
        · exact hmore (k, g) hold
        · exact hmore p (by simp [hp])
    · have hkeys := h.different
      simp only [List.map_append, List.map_cons] at hkeys ⊢
      exact hkeys
    · have hkeys := h.complete
      simp only [List.map_append, List.map_cons] at hkeys ⊢
      exact List.forall_mem_append.2 ⟨hkeys, List.forall_mem_singleton.2 ⟨k, by simp, hsame⟩⟩
    · intro p hp
      rcases List.mem_append.1 hp with hp | hp
      · exact h.nonempty p (List.mem_append_left _ hp)
      · rcases List.mem_cons.1 hp with rfl | hp
        · exact Nat.le_add_left 1 g.size
        · exact h.nonempty p (by simp [hp])
    · have htotal := h.total
      simp only [List.map_append, List.map_cons, List.sum_append, List.sum_cons, List.length_append,
        List.length_singleton] at htotal ⊢
      omega
  · rw [hadded]
    constructor
    · refine List.forall_mem_append.2 ⟨hmore, List.forall_mem_singleton.2 ⟨?_, rfl⟩⟩
      exact List.mem_append_right _ (List.mem_singleton_self env)
    · rw [List.map_append, List.pairwise_append]
      refine ⟨h.different, List.pairwise_singleton _ _, fun k hk l hl => ?_⟩
      obtain ⟨p, hp, rfl⟩ := List.mem_map.1 hk
      rw [List.mem_singleton.1 hl]
      exact hnew p hp
    · rw [List.map_append]
      refine List.forall_mem_append.2 ⟨fun old hold => ?_, List.forall_mem_singleton.2 ?_⟩
      · obtain ⟨k, hk, hsame⟩ := h.complete old hold
        exact ⟨k, List.mem_append_left _ hk, hsame⟩
      · exact ⟨key env, List.mem_append_right _ (List.mem_singleton_self _), sameKey_self _⟩
    · exact List.forall_mem_append.2 ⟨h.nonempty, List.forall_mem_singleton.2 (Nat.le_refl 1)⟩
    · rw [List.map_append, List.sum_append, h.total, List.length_append]
      rfl

/-- **Rows that are added one after the other are grouped.** -/
theorem foldl (key : Env → List Value) (envs : List Env) :
    Grouped key envs (envs.foldl (fun gs env => addToGroups (key env) env gs) []) := by
  induction envs using List.reverseRecOn with
  | nil => exact nil
  | append_singleton envs env ih =>
    rw [List.foldl_append]
    exact ih.add env

theorem perm (h : Grouped key envs gs) (hperm : gs'.Perm gs) : Grouped key envs gs' where
  first p hp := h.first p (hperm.mem_iff.1 hp)
  different := ((hperm.map _).pairwise_iff fun hkeys => (sameKey_comm _ _).trans hkeys).2 h.different
  complete env henv := by
    obtain ⟨k, hk, hsame⟩ := h.complete env henv
    exact ⟨k, (hperm.map _).mem_iff.2 hk, hsame⟩
  nonempty p hp := h.nonempty p (hperm.mem_iff.1 hp)
  total := (hperm.map _).sum_nat.trans h.total

end Grouped

/-! ## The groups of a query -/

/-- **The groups of a query that groups by something**: they come with keys in some order. -/
theorem exists_grouped (store : Store) (h : q.groupBy ≠ []) : ∃ gs, q.groups store = gs.map (·.2) ∧
    Grouped (q.groupKey store) (q.matching store) gs :=
  ⟨_, groups_grouped h, (Grouped.foldl (q.groupKey store) (q.matching store)).perm (List.mergeSort_perm _ _)⟩

theorem size_pos_of_mem_groups (h : q.groupBy ≠ []) : ∀ g ∈ q.groups store, 1 ≤ g.size := by
  obtain ⟨gs, hgroups, hgrouped⟩ := exists_grouped store h
  rw [hgroups]
  exact List.forall_mem_map.2 hgrouped.nonempty

/-- **The groups have all rows together.** -/
theorem sum_size_groups (h : q.groupBy ≠ []) :
    ((q.groups store).map (·.size)).sum = (q.matching store).length := by
  obtain ⟨gs, hgroups, hgrouped⟩ := exists_grouped store h
  rw [hgroups, List.map_map]
  exact hgrouped.total

/-- **No two groups have the same key.** -/
theorem pairwise_groups (h : q.groupBy ≠ []) : (q.groups store).Pairwise fun g g' =>
    sameKey (q.groupKey store g.first) (q.groupKey store g'.first) = false := by
  obtain ⟨gs, hgroups, hgrouped⟩ := exists_grouped store h
  rw [hgroups, List.pairwise_map]
  refine (List.pairwise_map.1 hgrouped.different).imp_of_mem fun {p p'} hp hp' hkeys => ?_
  rwa [← (hgrouped.first p hp).2, ← (hgrouped.first p' hp').2]

/-- **Each row that satisfies the clauses has the key of a group.** -/
theorem exists_group (h : q.groupBy ≠ []) : ∀ env ∈ q.matching store, ∃ g ∈ q.groups store,
    sameKey (q.groupKey store g.first) (q.groupKey store env) = true := by
  intro env henv
  obtain ⟨gs, hgroups, hgrouped⟩ := exists_grouped store h
  obtain ⟨k, hk, hsame⟩ := hgrouped.complete env henv
  obtain ⟨p, hp, rfl⟩ := List.mem_map.1 hk
  rw [(hgrouped.first p hp).2] at hsame
  exact ⟨p.2, hgroups ▸ List.mem_map_of_mem hp, hsame⟩

theorem first_mem_matching (h : q.groupBy ≠ [] ∨ q.columns.any isCount = false) :
    ∀ g ∈ q.groups store, g.first ∈ q.matching store := by
  intro g hg
  by_cases hgroup : q.groupBy = []
  · rw [groups_ungrouped hgroup (h.resolve_left (not_not_intro hgroup))] at hg
    obtain ⟨env, henv, rfl⟩ := List.mem_map.1 hg
    exact henv
  · obtain ⟨gs, hgroups, hgrouped⟩ := exists_grouped store hgroup
    rw [hgroups] at hg
    obtain ⟨p, hp, rfl⟩ := List.mem_map.1 hg
    exact (hgrouped.first p hp).1

theorem first_mem_groups : ∀ g ∈ q.groups store, g.first ∈ q.matching store ∨ g.first = [] := by
  intro g hg
  by_cases h : q.groupBy ≠ [] ∨ q.columns.any isCount = false
  · exact Or.inl (first_mem_matching h g hg)
  · rw [not_or, ne_eq, Classical.not_not, Bool.not_eq_false] at h
    rw [groups_counting h.1 h.2, List.mem_singleton] at hg
    rw [hg]
    cases q.matching store with
    | nil => exact Or.inr rfl
    | cons env envs => exact Or.inl List.mem_cons_self

/-! ## Rows that are grouped in two ways -/

section Twice

variable {α : Type} {envs : List α} {f f' : α → Env} {key key' : Env → List Value} {q' : Query}

/-- A group with its key, given by what its first row is made of and by its size. -/
def keyed (key : Env → List Value) (f : α → Env) (p : α × Nat) : List Value × Group := (key (f p.1), ⟨p.2, f p.1⟩)

/-- Keys tell the same rows apart in either way. -/
def TellAlike (envs : List α) (key key' : α → List Value) : Prop :=
  ∀ a ∈ envs, ∀ b ∈ envs, sameKey (key a) (key b) = sameKey (key' a) (key' b)

/-- One more row goes to the same group in either way. -/
theorem exists_addToGroups (hkeys : TellAlike envs (key ∘ f) (key' ∘ f')) {a : α} (ha : a ∈ envs) :
    ∀ {parts : List (α × Nat)}, (∀ p ∈ parts, p.1 ∈ envs) → ∃ parts' : List (α × Nat), (∀ p ∈ parts', p.1 ∈ envs) ∧
      addToGroups (key (f a)) (f a) (parts.map (keyed key f)) = parts'.map (keyed key f) ∧
      addToGroups (key' (f' a)) (f' a) (parts.map (keyed key' f')) = parts'.map (keyed key' f')
  | [], _ => ⟨[(a, 1)], List.forall_mem_singleton.2 ha, rfl, rfl⟩
  | p :: parts, hparts => by
    obtain ⟨hp, hparts⟩ := List.forall_mem_cons.1 hparts
    have hsame : sameKey (key (f p.1)) (key (f a)) = sameKey (key' (f' p.1)) (key' (f' a)) := hkeys p.1 hp a ha
    simp only [List.map_cons, keyed, addToGroups]
    rw [← hsame]
    cases sameKey (key (f p.1)) (key (f a)) with
    | true => exact ⟨(p.1, p.2 + 1) :: parts, List.forall_mem_cons.2 ⟨hp, hparts⟩, rfl, rfl⟩
    | false =>
      obtain ⟨parts', hparts', hadded, hadded'⟩ := exists_addToGroups hkeys ha hparts
      exact ⟨p :: parts', List.forall_mem_cons.2 ⟨hp, hparts'⟩, congrArg (_ :: ·) hadded, congrArg (_ :: ·) hadded'⟩

/-- **Rows are grouped alike by keys that tell the same rows apart.** -/
theorem exists_parts (hkeys : TellAlike envs (key ∘ f) (key' ∘ f')) : ∃ parts : List (α × Nat),
    (∀ p ∈ parts, p.1 ∈ envs) ∧
      (envs.map f).foldl (fun gs env => addToGroups (key env) env gs) [] = parts.map (keyed key f) ∧
      (envs.map f').foldl (fun gs env => addToGroups (key' env) env gs) [] = parts.map (keyed key' f') := by
  -- The rows are added one after the other, each of them one of all rows.
  have hadd : ∀ rows ⊆ envs, ∃ parts : List (α × Nat), (∀ p ∈ parts, p.1 ∈ envs) ∧
      (rows.map f).foldl (fun gs env => addToGroups (key env) env gs) [] = parts.map (keyed key f) ∧
      (rows.map f').foldl (fun gs env => addToGroups (key' env) env gs) [] = parts.map (keyed key' f') := by
    intro rows hrows
    induction rows using List.reverseRecOn with
    | nil => exact ⟨[], nofun, rfl, rfl⟩
    | append_singleton rows a ih =>
      obtain ⟨hrows, ha⟩ := List.append_subset.1 hrows
      obtain ⟨parts, hparts, hfold, hfold'⟩ := ih hrows
      obtain ⟨parts', hparts', hadded, hadded'⟩ := exists_addToGroups hkeys (ha (List.mem_singleton_self a)) hparts
      refine ⟨parts', hparts', ?_, ?_⟩
      · rw [List.map_append, List.foldl_append, hfold, ← hadded]
        rfl
      · rw [List.map_append, List.foldl_append, hfold', ← hadded']
        rfl
  exact hadd envs (List.Subset.refl envs)

/-- The groups of a query are those that its rows are put into, in some order. -/
theorem groups_perm_of_parts {parts : List (α × Nat)} (h : q.groupBy ≠ []) (hmatching : q.matching store = envs.map f)
    (hparts : (envs.map f).foldl (fun gs env => addToGroups (q.groupKey store env) env gs) [] =
      parts.map (keyed (q.groupKey store) f)) :
    (q.groups store).Perm (parts.map fun p => ⟨p.2, f p.1⟩) := by
  rw [groups_grouped h, hmatching, hparts]
  refine ((List.mergeSort_perm _ _).map _).trans ?_
  rw [List.map_map]
  exact List.Perm.refl _

/-- Queries neither group nor count, or group by values that tell the same rows apart. -/
def GroupAlike (store : Store) (q q' : Query) (envs : List α) (f f' : α → Env) : Prop :=
  (q.groupBy = [] ∧ q.columns.any isCount = false ∧ q'.groupBy = [] ∧ q'.columns.any isCount = false) ∨
    (q.groupBy ≠ [] ∧ q'.groupBy ≠ [] ∧
      TellAlike envs (q.groupKey store ∘ f) (q'.groupKey store ∘ f'))

/-- **Queries of the same rows that group them alike have the same groups**: they come in pairs of one size whose first
rows are made of the same. -/
theorem exists_pairs_of_groups (hmatching : q.matching store = envs.map f)
    (hmatching' : q'.matching store = envs.map f') (halike : GroupAlike store q q' envs f f') :
    ∃ pairs : List (Group × Group), (q.groups store).Perm (pairs.map (·.1)) ∧ (q'.groups store).Perm (pairs.map (·.2)) ∧
      ∀ p ∈ pairs, p.1.size = p.2.size ∧ ∃ a ∈ envs, p.1.first = f a ∧ p.2.first = f' a := by
  rcases halike with ⟨hgroup, hcount, hgroup', hcount'⟩ | ⟨hgroup, hgroup', hkeys⟩
  · refine ⟨envs.map fun a => (⟨1, f a⟩, ⟨1, f' a⟩), ?_, ?_, List.forall_mem_map.2 fun a ha => ⟨rfl, a, ha, rfl, rfl⟩⟩
    · rw [groups_ungrouped hgroup hcount, hmatching, List.map_map, List.map_map]
      exact List.Perm.refl _
    · rw [groups_ungrouped hgroup' hcount', hmatching', List.map_map, List.map_map]
      exact List.Perm.refl _
  · obtain ⟨parts, hparts, hfold, hfold'⟩ := exists_parts hkeys
    refine ⟨parts.map fun p => (⟨p.2, f p.1⟩, ⟨p.2, f' p.1⟩), ?_, ?_,
      List.forall_mem_map.2 fun p hp => ⟨rfl, p.1, hparts p hp, rfl, rfl⟩⟩
    · rw [List.map_map]
      exact groups_perm_of_parts hgroup hmatching hfold
    · rw [List.map_map]
      exact groups_perm_of_parts hgroup' hmatching' hfold'

end Twice

end Query

end TableQuery.Sql
