import Mathlib.Data.List.Nodup
import TableQuery.Entity.Joins

/-!
# What joining does

Asking for joins keeps what was joined before, adds known names only, and, if nothing goes wrong, has the names
that were asked for (`JoinDefs.reachAll_spec`). No name is joined twice (`JoinDefs.reachAll_nodup`), and what each join
keeps that comes after those that it depends on is kept by all of them (`JoinDefs.reachAll_induct`). Nothing goes wrong
where dependencies are known and no join leads back to itself, which a rank of the names shows that falls along
dependencies (`JoinDefs.Ranked`, `JoinDefs.reachAll_succeeds`).
-/

set_option autoImplicit false

namespace TableQuery

namespace JoinDefs

variable {defs : JoinDefs}

/-! ## What has been joined -/

/-- What has been joined later has all that was joined before, and known names besides. -/
structure Extends (defs : JoinDefs) (joined names : List String) : Prop where
  keeps : joined ⊆ names
  known : ∀ n ∈ names, n ∈ joined ∨ (defs.named? n).isSome

theorem Extends.refl (joined : List String) : Extends defs joined joined :=
  ⟨List.Subset.refl _, fun _ => Or.inl⟩

theorem Extends.trans {a b c : List String} (hab : Extends defs a b) (hbc : Extends defs b c) :
    Extends defs a c where
  keeps := List.Subset.trans hab.keeps hbc.keeps
  known n hn := (hbc.known n hn).elim (hab.known n) Or.inr

theorem Extends.add {a b : List String} {name : String} (h : Extends defs a b) (hn : (defs.named? name).isSome) :
    Extends defs a (b ++ [name]) where
  keeps := List.subset_append_of_subset_left _ h.keeps
  known n hmem := by
    rcases List.mem_append.1 hmem with hb | hname
    · exact h.known n hb
    · rw [List.mem_singleton.1 hname]
      exact Or.inr hn

mutual

/-- What is joined once a join has been asked for: it is there unless something went wrong. -/
theorem reach_spec (path joined : List String) (name : String) :
    Extends defs joined (defs.reach path joined name).1 ∧
      ((defs.reach path joined name).2 = none → name ∈ (defs.reach path joined name).1) := by
  rw [reach]
  split
  next hin => exact ⟨.refl _, fun _ => by simpa using hin⟩
  next =>
    split
    next => exact ⟨.refl _, fun h => by cases h⟩
    next hp =>
      split
      next => exact ⟨.refl _, fun h => by cases h⟩
      next j hj =>
        obtain ⟨hext, -⟩ := reachAll_spec (path ++ [name]) joined j.dependsOn
        split
        next names hok =>
          rw [hok] at hext
          exact ⟨hext.add (by rw [hj]; rfl), fun _ => by simp⟩
        next hfail => exact ⟨hext, fun h => (hfail _ (Prod.ext rfl h)).elim⟩
termination_by (defs.away path, 0)
decreasing_by exact Prod.Lex.left _ _ (away_append_lt ‹_› ‹_›)

/-- What is joined once several joins have been asked for: all of them are there unless something went wrong. -/
theorem reachAll_spec (path joined names : List String) :
    Extends defs joined (defs.reachAll path joined names).1 ∧
      ((defs.reachAll path joined names).2 = none → names ⊆ (defs.reachAll path joined names).1) := by
  match names with
  | [] =>
    rw [reachAll]
    exact ⟨.refl _, fun _ => List.nil_subset _⟩
  | name :: names =>
    obtain ⟨hext, hmem⟩ := reach_spec path joined name
    rw [reachAll]
    split
    next joined' hok =>
      rw [hok] at hext hmem
      obtain ⟨hext', hsub⟩ := reachAll_spec path joined' names
      refine ⟨hext.trans hext', fun h => List.cons_subset.2 ⟨hext'.keeps (hmem rfl), hsub h⟩⟩
    next hfail => exact ⟨hext, fun h => (hfail _ (Prod.ext rfl h)).elim⟩
termination_by (defs.away path, names.length + 1)

end

mutual

theorem reach_nodup (path joined : List String) (name : String) (h : joined.Nodup) :
    (defs.reach path joined name).1.Nodup ∧ ∀ p ∈ path, p ∈ (defs.reach path joined name).1 → p ∈ joined := by
  rw [reach]
  split
  next => exact ⟨h, fun _ _ => id⟩
  next hnew =>
    split
    next => exact ⟨h, fun _ _ => id⟩
    next hp =>
      split
      next => exact ⟨h, fun _ _ => id⟩
      next j hj =>
        obtain ⟨hnodup, hpath⟩ := reachAll_nodup (path ++ [name]) joined j.dependsOn h
        have hbefore : ∀ p ∈ path, p ∈ (defs.reachAll (path ++ [name]) joined j.dependsOn).1 → p ∈ joined :=
          fun p hmem => hpath p (List.mem_append_left _ hmem)
        split
        next names hok =>
          rw [hok] at hnodup hpath hbefore
          -- The name is on the path of its dependencies, which therefore did not add it.
          have hname : name ∉ names := fun hmem => hnew (by simpa using hpath name (by simp) hmem)
          refine ⟨List.nodup_append.2 ⟨hnodup, List.nodup_singleton name, ?_⟩, fun p hmem hadded => ?_⟩
          · intro a ha b hb heq
            rw [List.mem_singleton.1 hb] at heq
            exact hname (heq ▸ ha)
          · rcases List.mem_append.1 hadded with hadded | hadded
            · exact hbefore p hmem hadded
            · rw [List.mem_singleton.1 hadded] at hmem
              exact absurd (by simpa using hmem) hp
        next => exact ⟨hnodup, hbefore⟩
termination_by (defs.away path, 0)
decreasing_by exact Prod.Lex.left _ _ (away_append_lt ‹_› ‹_›)

/-- Joins are made once each. -/
theorem reachAll_nodup (path joined names : List String) (h : joined.Nodup) :
    (defs.reachAll path joined names).1.Nodup ∧
      ∀ p ∈ path, p ∈ (defs.reachAll path joined names).1 → p ∈ joined := by
  match names with
  | [] =>
    rw [reachAll]
    exact ⟨h, fun _ _ => id⟩
  | name :: names =>
    obtain ⟨hnodup, hpath⟩ := reach_nodup path joined name h
    rw [reachAll]
    split
    next joined' hok =>
      rw [hok] at hnodup hpath
      obtain ⟨hnodup', hpath'⟩ := reachAll_nodup path joined' names hnodup
      exact ⟨hnodup', fun p hp hmem => hpath p hp (hpath' p hp hmem)⟩
    next => exact ⟨hnodup, hpath⟩
termination_by (defs.away path, names.length + 1)

end

/-- Joins that are made one after the other, each after those that it depends on. -/
inductive Founded (defs : JoinDefs) : List String → Prop
  | nil : Founded defs []
  | snoc {names : List String} {name : String} {j : JoinDef} : Founded defs names → defs.named? name = some j →
      j.dependsOn ⊆ names → Founded defs (names ++ [name])

mutual

/-- **What each join keeps that is made after those that it depends on** is kept when a join is asked for. -/
theorem reach_induct {P : List String → Prop}
    (join : ∀ names name j, P names → defs.named? name = some j → j.dependsOn ⊆ names → P (names ++ [name]))
    (path joined : List String) (name : String) (h : P joined) : P (defs.reach path joined name).1 := by
  rw [reach]
  split
  next => exact h
  next =>
    split
    next => exact h
    next hp =>
      split
      next => exact h
      next j hj =>
        have hdeps := reachAll_induct join (path ++ [name]) joined j.dependsOn h
        split
        next names hok =>
          obtain ⟨-, hthere⟩ := reachAll_spec (path ++ [name]) joined j.dependsOn
          rw [hok] at hdeps hthere
          exact join names name j hdeps hj (hthere rfl)
        next => exact hdeps
termination_by (defs.away path, 0)
decreasing_by exact Prod.Lex.left _ _ (away_append_lt ‹_› ‹_›)

/-- What each join keeps is kept when several joins are asked for. -/
theorem reachAll_induct {P : List String → Prop}
    (join : ∀ names name j, P names → defs.named? name = some j → j.dependsOn ⊆ names → P (names ++ [name]))
    (path joined names : List String) (h : P joined) : P (defs.reachAll path joined names).1 := by
  match names with
  | [] =>
    rw [reachAll]
    exact h
  | name :: names =>
    have hfirst := reach_induct join path joined name h
    rw [reachAll]
    split
    next joined' hok =>
      rw [hok] at hfirst
      exact reachAll_induct join path joined' names hfirst
    next => exact hfirst
termination_by (defs.away path, names.length + 1)

end

theorem reachAll_founded (path joined names : List String) (h : Founded defs joined) :
    Founded defs (defs.reachAll path joined names).1 :=
  reachAll_induct (fun _ _ _ hnames hj hdeps => .snoc hnames hj hdeps) path joined names h

theorem prefix_reachAll (path joined names : List String) : joined <+: (defs.reachAll path joined names).1 :=
  reachAll_induct (P := (joined <+: ·)) (fun _ name _ hnames _ _ => hnames.trans (List.prefix_append _ [name]))
    path joined names (List.prefix_refl joined)

theorem reachAll_append {path joined names more : List String} (h : (defs.reachAll path joined names).2 = none) :
    defs.reachAll path joined (names ++ more) = defs.reachAll path (defs.reachAll path joined names).1 more := by
  induction names generalizing joined with
  | nil => rw [List.nil_append, reachAll]
  | cons name names ih =>
    rw [reachAll] at h
    rw [List.cons_append, reachAll, reachAll]
    split at h
    next joined' _ => exact ih h
    next hfail => exact (hfail _ (Prod.ext rfl h)).elim

/-- Joins that are there are not made again. -/
theorem reachAll_of_subset {path joined : List String} : ∀ {names : List String}, names ⊆ joined →
    defs.reachAll path joined names = (joined, none)
  | [], _ => by rw [reachAll]
  | name :: names, h => by
    have hin : joined.contains name = true := List.contains_iff_mem.2 (h List.mem_cons_self)
    rw [reachAll, reach, if_pos hin]
    exact reachAll_of_subset (List.cons_subset.1 h).2

/-- A join that is not there yet is made once those that it depends on have been asked for. -/
theorem reach_of_named? {path joined : List String} {name : String} {j : JoinDef} (hj : defs.named? name = some j)
    (hnew : name ∉ joined) (hpath : name ∉ path) :
    defs.reach path joined name = match defs.reachAll (path ++ [name]) joined j.dependsOn with
      | (joined, none) => (joined ++ [name], none)
      | failed => failed := by
  rw [reach, if_neg (by simpa using hnew), dif_neg (by simpa using hpath)]
  split
  next hnone =>
    rw [hj] at hnone
    cases hnone
  next j' hj' => obtain rfl : j = j' := Option.some.inj (hj.symm.trans hj'); rfl

/-- A join whose dependencies are there is made at once. -/
theorem reach_of_subset {path joined : List String} {name : String} {j : JoinDef} (hj : defs.named? name = some j)
    (hnew : name ∉ joined) (hpath : name ∉ path) (hdeps : j.dependsOn ⊆ joined) :
    defs.reach path joined name = (joined ++ [name], none) := by
  rw [reach_of_named? hj hnew hpath, reachAll_of_subset hdeps]

theorem reach_of_mem_path {path joined : List String} {name : String} (hnew : name ∉ joined) (hpath : name ∈ path) :
    defs.reach path joined name = (joined, some (.circularJoin (path ++ [name]))) := by
  rw [reach, if_neg (by simpa using hnew), dif_pos (by simpa using hpath)]

/-! ## Nothing goes wrong -/

/-- Dependencies are known, and their ranks are lower than that of what depends on them. -/
def Ranked (defs : JoinDefs) (rank : String → Nat) : Prop :=
  ∀ j ∈ defs, ∀ d ∈ j.dependsOn, (defs.named? d).isSome ∧ rank d < rank j.name

/-- The position of a name among the joins. -/
def position (defs : JoinDefs) (name : String) : Nat :=
  defs.findIdx (·.name == name)

theorem named?_mem {name : String} {j : JoinDef} (h : defs.named? name = some j) : j ∈ defs :=
  List.mem_reverse.1 (List.mem_of_find?_eq_some h)

theorem named?_name {name : String} {j : JoinDef} (h : defs.named? name = some j) : j.name = name := by
  simpa using List.find?_some h

theorem isSome_named? {name : String} : (defs.named? name).isSome ↔ ∃ j ∈ defs, j.name = name := by
  rw [named?, List.find?_isSome]
  simp

variable {rank : String → Nat}

mutual

/-- A known name of a rank below all names on the path can be joined. -/
theorem reach_succeeds (h : Ranked defs rank) (path joined : List String) (name : String)
    (hk : (defs.named? name).isSome) (hp : ∀ p ∈ path, rank name < rank p) :
    (defs.reach path joined name).2 = none := by
  rw [reach]
  split
  next => rfl
  next =>
    split
    next hin => exact absurd (hp name (by simpa using hin)) (Nat.lt_irrefl _)
    next hnin =>
      split
      next hnone => rw [hnone] at hk; cases hk
      next j hj =>
        have hdeps : ∀ d ∈ j.dependsOn, (defs.named? d).isSome ∧ ∀ p ∈ path ++ [name], rank d < rank p := by
          intro d hd
          obtain ⟨hdk, hlt⟩ := h j (named?_mem hj) d hd
          rw [named?_name hj] at hlt
          refine ⟨hdk, fun p hpath => ?_⟩
          rcases List.mem_append.1 hpath with hpath | hpath
          · exact Nat.lt_trans hlt (hp p hpath)
          · rwa [List.mem_singleton.1 hpath]
        have hnone := reachAll_succeeds h (path ++ [name]) joined j.dependsOn hdeps
        split
        next => rfl
        next hfail => exact (hfail _ (Prod.ext rfl hnone)).elim
termination_by (defs.away path, 0)
decreasing_by exact Prod.Lex.left _ _ (away_append_lt ‹_› ‹_›)

/-- **Known names can be joined** if none of them leads back to a name on the path. -/
theorem reachAll_succeeds (h : Ranked defs rank) (path joined names : List String)
    (hnames : ∀ n ∈ names, (defs.named? n).isSome ∧ ∀ p ∈ path, rank n < rank p) :
    (defs.reachAll path joined names).2 = none := by
  match names, hnames with
  | [], _ => rw [reachAll]
  | name :: names, hnames =>
    obtain ⟨hk, hp⟩ := hnames name List.mem_cons_self
    have hnone := reach_succeeds h path joined name hk hp
    rw [reachAll]
    split
    next joined' _ => exact reachAll_succeeds h path joined' names fun n hn => hnames n (List.mem_cons_of_mem _ hn)
    next hfail => exact (hfail _ (Prod.ext rfl hnone)).elim
termination_by (defs.away path, names.length + 1)

end

theorem reachAll_known (h : Ranked defs rank) {names : List String} (hk : ∀ n ∈ names, (defs.named? n).isSome) :
    names ⊆ (defs.reachAll [] [] names).1 ∧ ∀ n ∈ (defs.reachAll [] [] names).1, (defs.named? n).isSome := by
  have hnone := reachAll_succeeds h [] [] names fun n hn => ⟨hk n hn, fun _ hp => by cases hp⟩
  obtain ⟨hext, hsub⟩ := @reachAll_spec defs [] [] names
  exact ⟨hsub hnone, fun n hn => (hext.known n hn).resolve_left List.not_mem_nil⟩

end JoinDefs

namespace Sql.Query

variable {defs : JoinDefs} {rank : String → Nat}

theorem mem_joins_withJoined {q : Query} {names : List String} {j : Sql.Join} :
    j ∈ (q.withJoined defs names).joins ↔ ∃ n ∈ names, ∃ d, defs.named? n = some d ∧ j = d.toJoin := by
  simp only [withJoined, List.mem_filterMap, Option.map_eq_some_iff, eq_comm (a := j)]

/-- **Known joins can be made**, and the query is the same but for its joins. -/
theorem joinAll_succeeds (h : defs.Ranked rank) (q : Query) (hq : q.joins = []) {names : List String}
    (hk : ∀ n ∈ names, (defs.named? n).isSome) :
    q.joinAll defs names = (q.withJoined defs (defs.reachAll [] [] names).1, none) := by
  have hjoined : q.joined = [] := by rw [joined, hq, List.map_nil]
  have hnone := JoinDefs.reachAll_succeeds h [] [] names fun n hn => ⟨hk n hn, fun _ hp => by cases hp⟩
  rw [joinAll, hjoined]
  exact Prod.ext rfl hnone

end Sql.Query

end TableQuery
