import TableQuery.Proofs.Sql.Groups
import TableQuery.Proofs.Sql.Parts
import TableQuery.Proofs.Sql.Rows

/-!
# What a query takes from lists

Once a row is there, values and clauses look at the store for nothing but the lists of members in them
(`Clause.truth_congr`). Two stores with the same rows that satisfy the clauses, and with the same lists in these
rows, therefore give a query the same result and the same total (`Query.Alike`, `Query.rows_eq`,
`Query.total_eq`).
-/

set_option autoImplicit false

namespace TableQuery.Sql

/-! ## Lists -/

/-- The list that a value is made of, if any. -/
def Scalar.lists : Scalar → List Members
  | .joined m => [m]
  | _ => []

def Term.lists : Term → List Members
  | .plain s | .lower s | .asText s | .orEmpty s => s.lists

namespace Clause

mutual

/-- The lists that a clause looks at. -/
def lists : Clause → List Members
  | nullTest s _ => s.lists
  | compare _ t _ | among t _ _ | like t _ _ _ | regexp t _ _ => t.lists
  | anyMember m | memberCount m _ _ => [m]
  | not c => lists c
  | and cs | or cs => listsOfAll cs
  | const _ | decided _ => []

/-- The lists that clauses look at. -/
def listsOfAll : List Clause → List Members
  | [] => []
  | c :: cs => lists c ++ listsOfAll cs

end

theorem mem_listsOfAll {cs : List Clause} {m : Members} : m ∈ listsOfAll cs ↔ ∃ c ∈ cs, m ∈ c.lists := by
  induction cs with
  | nil => simp [listsOfAll]
  | cons c cs ih => simp [listsOfAll, ih]

theorem lists_negate (c : Clause) : c.negate.lists = c.lists := by
  cases c <;> rfl

theorem mem_lists_simplified {neutral : Bool} {cs : List Clause} {m : Members}
    (h : m ∈ listsOfAll (simplified neutral cs)) : ∃ c ∈ cs, m ∈ c.lists := by
  obtain ⟨c, hc, hm⟩ := mem_listsOfAll.1 h
  rcases mem_simplified hc with hc | ⟨b, rfl⟩
  · exact ⟨c, hc, hm⟩
  · cases hm

theorem mem_lists_conj {cs : List Clause} {m : Members} (h : m ∈ (conj cs).lists) : ∃ c ∈ cs, m ∈ c.lists := by
  refine @mem_lists_simplified true cs m ?_
  unfold conj at h
  split at h
  next hsingle =>
    rw [hsingle, mem_listsOfAll]
    exact ⟨_, List.mem_singleton_self _, h⟩
  next => exact h

theorem mem_lists_disj {cs : List Clause} {m : Members} (h : m ∈ (disj cs).lists) : ∃ c ∈ cs, m ∈ c.lists := by
  refine @mem_lists_simplified false cs m ?_
  unfold disj at h
  split at h
  next hsingle =>
    rw [hsingle, mem_listsOfAll]
    exact ⟨_, List.mem_singleton_self _, h⟩
  next => exact h

end Clause

/-! ## Rows with the same lists -/

section Rows

variable {store store' : Store} {env : Env}

/-- Some lists have the same members in a row of either store. -/
def SameLists (store store' : Store) (env : Env) (ms : List Members) : Prop :=
  ∀ m ∈ ms, m.values store env = m.values store' env

theorem Scalar.value_congr {s : Scalar} (h : SameLists store store' env s.lists) (size : Nat) :
    s.value store env size = s.value store' env size := by
  cases s with
  | joined m => rw [value, value, Members.joinedValue, Members.joinedValue, h m (List.mem_singleton_self m)]
  | column r | nullTest r n | rowCount => rfl

theorem Term.value_congr {t : Term} (h : SameLists store store' env t.lists) :
    t.value store env = t.value store' env := by
  cases t with
  | plain s | lower s | asText s | orEmpty s =>
    have hs := Scalar.value_congr (s := s) h 1
    simp only [value, hs]

namespace Clause

mutual

/-- **The truth of a clause depends on the row and on its lists only.** -/
theorem truth_congr : (c : Clause) → SameLists store store' env c.lists → c.truth store env = c.truth store' env
  | const _, _ | decided _, _ => rfl
  | nullTest s _, h => by rw [truth, truth, Scalar.value_congr h]
  | compare _ t _, h | among t _ _, h | like t _ _ _, h | regexp t _ _, h => by
    simp only [truth, Term.value_congr (t := t) h]
  | anyMember m, h => by rw [truth, truth, h m (List.mem_singleton_self m)]
  | memberCount m _ _, h => by
    rw [truth, truth, Members.different, Members.different, h m (List.mem_singleton_self m)]
  | not c, h => by rw [truth, truth, truth_congr c h]
  | and cs, h => by
    rw [truth, truth]
    exact (truthAll_truthAny_congr cs h).1
  | or cs, h => by
    rw [truth, truth]
    exact (truthAll_truthAny_congr cs h).2

theorem truthAll_truthAny_congr : (cs : List Clause) → SameLists store store' env (listsOfAll cs) →
    truthAll store env cs = truthAll store' env cs ∧ truthAny store env cs = truthAny store' env cs
  | [], _ => ⟨rfl, rfl⟩
  | c :: cs, h => by
    have hc := truth_congr c fun m hm => h m (List.mem_append_left _ hm)
    obtain ⟨hall, hany⟩ := truthAll_truthAny_congr cs fun m hm => h m (List.mem_append_right _ hm)
    constructor
    · rw [truthAll, truthAll, hc, hall]
    · rw [truthAny, truthAny, hc, hany]

end

theorem holds_congr {c : Clause} (h : SameLists store store' env c.lists) :
    c.holds store env = c.holds store' env := by
  rw [holds, holds, truth_congr c h]

end Clause

end Rows

/-! ## Queries -/

namespace Query

/-- The lists that a query selects, groups or sorts by. -/
def valueLists (q : Query) : List Members :=
  (q.columns.map (·.1) ++ q.groupBy ++ q.orderBy.map (·.1)).flatMap Scalar.lists

/-- Two stores look alike to a query: the same rows satisfy its clauses, and in these rows the lists that it
shows have the same members. The empty row is that of a count of no rows. -/
structure Alike (store store' : Store) (q : Query) : Prop where
  matching : q.matching store = q.matching store'
  lists : ∀ env, env ∈ q.matching store ∨ env = [] → SameLists store store' env q.valueLists

section Groups

variable {store store' : Store} {q : Query}

theorem mem_sorted {g : Group} (h : g ∈ q.sorted store) : g ∈ q.groups store := by
  obtain ⟨p, hp, rfl⟩ := List.mem_map.1 h
  obtain ⟨g, hg, rfl⟩ := List.mem_map.1 (List.mem_mergeSort.1 hp)
  exact hg

theorem page_subset {α : Type} (q : Query) (xs : List α) : q.page xs ⊆ xs := by
  unfold page
  split
  · split
    · exact List.drop_subset _ _
    · exact List.Subset.trans (List.take_subset _ _) (List.drop_subset _ _)
  · exact List.drop_subset _ _

namespace Alike

/-- A value that the query shows is the same in either store. -/
theorem value_eq (h : Alike store store' q) {s : Scalar}
    (hs : s ∈ q.columns.map (·.1) ++ q.groupBy ++ q.orderBy.map (·.1)) {env : Env}
    (henv : env ∈ q.matching store ∨ env = []) (size : Nat) : s.value store env size = s.value store' env size :=
  Scalar.value_congr (fun m hm => h.lists env henv m (List.mem_flatMap.2 ⟨s, hs, hm⟩)) size

theorem groups_eq (h : Alike store store' q) : q.groups store = q.groups store' := by
  have hkey : ∀ env ∈ q.matching store, q.groupKey store env = q.groupKey store' env := fun env henv =>
    List.map_congr_left fun s hs => h.value_eq (by simp [hs]) (Or.inl henv) 1
  have hfold : (q.matching store).foldl (fun gs env => addToGroups (q.groupKey store env) env gs) [] =
      (q.matching store).foldl (fun gs env => addToGroups (q.groupKey store' env) env gs) [] :=
    List.foldl_ext _ _ _ fun gs env henv => by rw [hkey env henv]
  unfold groups
  dsimp only
  rw [← h.matching, hfold]

theorem sorted_eq (h : Alike store store' q) : q.sorted store = q.sorted store' := by
  have hkey : ∀ g ∈ q.groups store, (q.sortKey store g, g) = (q.sortKey store' g, g) := by
    intro g hg
    refine congrArg (·, g) (List.map_congr_left fun p hp => ?_)
    exact h.value_eq (by simp [List.mem_map_of_mem hp]) (first_mem_groups g hg) g.size
  unfold sorted
  rw [← h.groups_eq, List.map_congr_left hkey]

/-- **Stores that look alike to a query give it the same rows.** -/
theorem rows_eq (h : Alike store store' q) : q.rows store = q.rows store' := by
  unfold rows
  rw [← h.sorted_eq]
  refine List.map_congr_left fun g hg => List.map_congr_left fun p hp => ?_
  have hfirst := first_mem_groups g (mem_sorted (page_subset q _ hg))
  exact h.value_eq (by simp [List.mem_map_of_mem hp]) hfirst g.size

/-- **Stores that look alike to a query give it the same total.** -/
theorem total_eq (h : Alike store store' q) (hloose : q.loose = []) : q.total store = q.total store' := by
  have hmatching : ∀ (s : Store) (columns : List (Scalar × String)),
      Query.matching s { q with columns, orderBy := [], limit := none, offset := none } = q.matching s :=
    fun s columns => matching_congr rfl rfl hloose hloose rfl
  unfold total counting
  dsimp only
  split
  next plain hplain =>
    split at hplain
    · cases hplain
      rw [hmatching, hmatching, h.matching]
    · cases hplain
  next plain hplain =>
    split at hplain
    · cases hplain
    · cases hplain
      refine congrArg List.length (groups_eq ⟨?_, fun env henv m hm => ?_⟩)
      · exact h.matching
      · refine h.lists env henv m ?_
        simp only [valueLists, List.map_nil, List.append_nil, List.mem_flatMap, List.mem_append] at hm ⊢
        obtain ⟨s, hs, hm⟩ := hm
        exact ⟨s, Or.inl hs, hm⟩

end Alike

end Groups

end Query

end TableQuery.Sql
