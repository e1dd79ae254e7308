import Mathlib.Data.List.Basic
import Mathlib.Data.List.Induction
import TableQuery.Proofs.Json.Fields
import TableQuery.Proofs.Outcomes
import TableQuery.Proofs.Sql.Truth
import TableQuery.Sql.Run

/-!
# The rows of a query

What each step of joining keeps holds of all joined rows (`Query.joinedRows_induct`), if all joins are inner and
nothing is read beside them. A joined row has, under the alias of each table, a row of that table
(`Query.drawn_joinedRows`), and in columns that rows are joined on it has the same values (`Query.joined_same`).
The joined rows of a part of the store are those that are made of rows of the part (`Query.joinedRows_filter`).
The clauses of a query all have to hold (`Query.keeps_eq_all`), and where nothing is grouped the total is the
number of joined rows in which they do (`Query.total_ungrouped`).

A join that finds exactly one partner for each row, whatever other tables are joined before it, neither adds rows nor
loses any (`Join.LooksUp`). After several such joins the rows are the same as before, each with the rows that were
looked up for it (`Query.foldl_joinRows`).

A limit and an offset leave a slice of the rows (`Query.page_eq_slice`). Slices of one size, one after the other,
make up the list from its start (`flatMap_slices`); so what a function makes of the slices is, put together, what it
makes of the whole list (`mapM_of_slices`).
-/

set_option autoImplicit false

namespace TableQuery.Sql

/-! ## Where the rows come from -/

/-- Each part of a joined row is a row of a table under its alias, and no table is missing. -/
structure Env.Drawn (store : Store) (tables : List Table) (env : Env) : Prop where
  rows : ∀ p ∈ env, ∃ t ∈ tables, p.1 = t.name ∧ p.2 ∈ store.rows t.table
  complete : ∀ t ∈ tables, (env.lookup t.name).isSome

/-- One more row of one more table. -/
theorem Env.Drawn.snoc {store : Store} {tables : List Table} {env : Env} {t : Table} {row : Row}
    (h : env.Drawn store tables) (hrow : row ∈ store.rows t.table) :
    Env.Drawn store (tables ++ [t]) (env ++ [(t.name, row)]) where
  rows p hp := by
    rcases List.mem_append.1 hp with hp | hp
    · obtain ⟨t', ht', hname, hmem⟩ := h.rows p hp
      exact ⟨t', List.mem_append_left _ ht', hname, hmem⟩
    · rw [List.mem_singleton.1 hp]
      exact ⟨t, by simp, rfl, hrow⟩
  complete t' ht' := by
    rw [List.lookup_append, Option.isSome_or, Bool.or_eq_true]
    rcases List.mem_append.1 ht' with ht' | ht'
    · exact Or.inl (h.complete t' ht')
    · rw [List.mem_singleton.1 ht', List.lookup_cons_self]
      exact Or.inr rfl

/-- Under the alias of a table stands a row of it, if no other table has the alias. -/
theorem Env.Drawn.lookup {store : Store} {tables : List Table} {env : Env} (h : env.Drawn store tables)
    {t : Table} (ht : t ∈ tables) (hname : ∀ t' ∈ tables, t'.name = t.name → t' = t) :
    ∃ row ∈ store.rows t.table, env.lookup t.name = some row := by
  obtain ⟨row, hrow⟩ := Option.isSome_iff_exists.1 (h.complete t ht)
  obtain ⟨before, after, rfl, -⟩ := List.lookup_eq_some_iff.1 hrow
  obtain ⟨t', ht', heq, hmem⟩ := h.rows (t.name, row) (by simp)
  rw [hname t' ht' heq.symm] at hmem
  exact ⟨row, hmem, hrow⟩

theorem Env.read_append {env : Env} {r : Ref} (more : Env) (h : env.read r ≠ .null) :
    Env.read (env ++ more) r = env.read r := by
  unfold Env.read at h ⊢
  cases hrow : env.lookup r.source with
  | none => simp [hrow] at h
  | some row => rw [List.lookup_append, hrow, Option.some_or]

theorem ne_null_of_compareTruth {c : Comparison} {a b : Value} (h : compareTruth c a b = some true) :
    a ≠ .null ∧ b ≠ .null := by
  cases a <;> cases b <;> simp_all [compareTruth, Value.compare?]

theorem Value.compare?_of_ne_null {a b : Value} (ha : a ≠ .null) (hb : b ≠ .null) :
    a.compare? b = some (a.compare b) := by
  cases a with
  | null => exact absurd rfl ha
  | _ =>
    cases b with
    | null => exact absurd rfl hb
    | _ => rfl

theorem Condition.truth_sameAs_append {env : Env} {l r : Ref} (more : Env)
    (h : (Condition.sameAs l r).truth env = some true) :
    (Condition.sameAs l r).truth (env ++ more) = some true := by
  obtain ⟨hl, hr⟩ := ne_null_of_compareTruth h
  rw [truth, Env.read_append more hl, Env.read_append more hr]
  exact h

namespace Query

variable {store : Store} {q : Query}

/-- A row of an inner join is a row so far with a partner. -/
theorem mem_joinRows {envs : List Env} {j : Join} {env : Env} (hj : j.left = false) :
    env ∈ joinRows store envs j ↔ ∃ env₀ ∈ envs, ∃ row ∈ store.rows j.table.table,
      Condition.allHold (env₀ ++ [(j.table.name, row)]) j.on = true ∧ env = env₀ ++ [(j.table.name, row)] := by
  simp only [joinRows, hj, Bool.and_false, Bool.false_eq_true, ↓reduceIte, List.mem_flatMap, List.mem_filterMap,
    Option.ite_none_right_eq_some, Option.some.injEq, eq_comm (a := env)]

theorem crossed_eq_nil (h : q.loose = []) : q.crossed = [] := by
  rw [crossed, h, List.filterMap_eq_nil_iff]
  intro name _
  split
  · rfl
  · rw [List.find?_nil]

/-- **What holds of joined rows.** It holds of a row of the base table, and a row of one more table whose
conditions are satisfied keeps it. -/
theorem joinedRows_induct {P : List Join → Env → Prop} (hloose : q.loose = [])
    (hleft : ∀ j ∈ q.joins, j.left = false)
    (base : ∀ row ∈ store.rows q.base.table, P [] [(q.base.name, row)])
    (join : ∀ (js : List Join) (env : Env), P js env → ∀ j ∈ q.joins, ∀ row ∈ store.rows j.table.table,
      Condition.allHold (env ++ [(j.table.name, row)]) j.on = true → P (js ++ [j]) (env ++ [(j.table.name, row)])) :
    ∀ env ∈ q.joinedRows store, P q.joins env := by
  have hfold : ∀ (rest done : List Join) (envs : List Env), rest ⊆ q.joins → (∀ env ∈ envs, P done env) →
      ∀ env ∈ rest.foldl (joinRows store) envs, P (done ++ rest) env := by
    intro rest
    induction rest with
    | nil => simp
    | cons j rest ih =>
      intro done envs hrest henvs
      rw [List.append_cons]
      refine ih (done ++ [j]) _ (List.cons_subset.1 hrest).2 fun env henv => ?_
      have hj := (List.cons_subset.1 hrest).1
      obtain ⟨env₀, henv₀, row, hrow, hon, rfl⟩ := (mem_joinRows (hleft j hj)).1 henv
      exact join done env₀ (henvs env₀ henv₀) j hj row hrow hon
  rw [joinedRows, crossed_eq_nil hloose, List.foldl_nil]
  refine hfold q.joins [] _ (List.Subset.refl _) fun env henv => ?_
  obtain ⟨row, hrow, rfl⟩ := List.mem_map.1 henv
  exact base row hrow

/-- **A joined row has a row of every joined table under its alias.** -/
theorem drawn_joinedRows (hloose : q.loose = []) (hleft : ∀ j ∈ q.joins, j.left = false) :
    ∀ env ∈ q.joinedRows store, env.Drawn store (q.base :: q.joins.map (·.table)) := by
  have hnil : Env.Drawn store [] [] := ⟨by simp, by simp⟩
  refine joinedRows_induct (P := fun js env => env.Drawn store (q.base :: js.map (·.table))) hloose hleft
    (fun row hrow => hnil.snoc hrow) fun js env henv j _ row hrow _ => ?_
  rw [List.map_append, ← List.cons_append]
  exact henv.snoc hrow

theorem aliases_joinedRows (hloose : q.loose = []) (hleft : ∀ j ∈ q.joins, j.left = false) :
    ∀ env ∈ q.joinedRows store, env.map (·.1) = q.base.name :: q.joins.map (·.table.name) := by
  refine joinedRows_induct (P := fun js env => env.map (·.1) = q.base.name :: js.map (·.table.name)) hloose hleft
    (fun row _ => rfl) fun js env henv j _ row _ _ => ?_
  rw [List.map_append, henv, List.map_append, List.cons_append]
  rfl

/-- **Columns that rows are joined on are equal in every joined row.** -/
theorem joined_same (hloose : q.loose = []) (hleft : ∀ j ∈ q.joins, j.left = false) :
    ∀ env ∈ q.joinedRows store, ∀ j ∈ q.joins, ∀ l r, .sameAs l r ∈ j.on →
      (Condition.sameAs l r).truth env = some true := by
  refine joinedRows_induct (P := fun js env => ∀ j ∈ js, ∀ l r, .sameAs l r ∈ j.on →
    (Condition.sameAs l r).truth env = some true) hloose hleft nofun fun js env henv j _ row _ hon k hk l r hmem => ?_
  rcases List.mem_append.1 hk with hk | hk
  · exact Condition.truth_sameAs_append _ (henv k hk l r hmem)
  · rw [List.mem_singleton.1 hk] at hmem
    exact beq_iff_eq.1 (List.all_eq_true.1 hon _ hmem)

/-! ## Rows of a part of the store -/

section Parts

variable {store' : Store} {part : String → Row → Bool}

/-- All parts of a joined row are wanted. -/
def isWithin (part : String → Row → Bool) (env : Env) : Bool := env.all fun p => part p.1 p.2

theorem isWithin_append {env : Env} {name : String} {row : Row} :
    isWithin part (env ++ [(name, row)]) = (isWithin part env && part name row) := by
  simp [isWithin]

/-- An inner join of wanted rows with the wanted rows of a table. -/
theorem joinRows_filter {j : Join} (hj : j.left = false)
    (hrows : store'.rows j.table.table = (store.rows j.table.table).filter (part j.table.name)) (envs : List Env) :
    joinRows store' (envs.filter (isWithin part)) j = (joinRows store envs j).filter (isWithin part) := by
  simp only [joinRows, hj, Bool.and_false, Bool.false_eq_true, ↓reduceIte, hrows]
  induction envs with
  | nil => rfl
  | cons env envs ih =>
    rw [List.flatMap_cons, List.filter_append, ← ih, List.filter_filterMap]
    by_cases henv : isWithin part env = true
    · rw [List.filter_cons_of_pos henv, List.flatMap_cons, List.filterMap_filter]
      refine congrArg (· ++ _) (List.filterMap_congr fun row _ => ?_)
      by_cases hpart : part j.table.name row = true <;>
        by_cases hon : Condition.allHold (env ++ [(j.table.name, row)]) j.on = true <;>
        simp [hpart, hon, henv, isWithin_append, Option.filter_some]
    · rw [List.filter_cons_of_neg henv]
      refine (List.nil_append _).symm.trans (congrArg (· ++ _) (List.filterMap_eq_nil_iff.2 fun row _ => ?_).symm)
      split <;> simp_all [isWithin_append]

/-- **In a part of the store the joined rows are those that are made of rows of the part.** -/
theorem joinedRows_filter (hloose : q.loose = []) (hleft : ∀ j ∈ q.joins, j.left = false)
    (hrows : ∀ t ∈ q.base :: q.joins.map (·.table),
      store'.rows t.table = (store.rows t.table).filter (part t.name)) :
    q.joinedRows store' = (q.joinedRows store).filter (isWithin part) := by
  have hfold : ∀ (js : List Join) (envs : List Env), js ⊆ q.joins →
      js.foldl (joinRows store') (envs.filter (isWithin part)) =
        (js.foldl (joinRows store) envs).filter (isWithin part) := by
    intro js
    induction js with
    | nil => exact fun _ _ => rfl
    | cons j js ih =>
      intro envs hjs
      obtain ⟨hj, hjs⟩ := List.cons_subset.1 hjs
      have hpart := hrows j.table (List.mem_cons_of_mem _ (List.mem_map_of_mem hj))
      rw [List.foldl_cons, List.foldl_cons, joinRows_filter (hleft j hj) hpart, ih _ hjs]
  have hbase : (store'.rows q.base.table).map (fun row => [(q.base.name, row)]) =
      ((store.rows q.base.table).map fun row => [(q.base.name, row)]).filter (isWithin part) := by
    rw [hrows q.base List.mem_cons_self, List.filter_map]
    refine congrArg _ (List.filter_congr fun row _ => ?_)
    simp [isWithin]
  rw [joinedRows, joinedRows, crossed_eq_nil hloose, List.foldl_nil, List.foldl_nil, hbase]
  exact hfold q.joins _ (List.Subset.refl _)

end Parts

/-! ## Clauses and totals -/

/-- **A row is kept iff all clauses hold in it.** -/
theorem keeps_eq_all (env : Env) : q.keeps store env = q.clauses.all (·.holds store env) := by
  unfold keeps filter?
  split
  next h =>
    split at h
    next hnil => rw [List.isEmpty_iff.1 hnil, List.all_nil]
    next => cases h
  next h =>
    split at h
    next => cases h
    next => rw [← Option.some.inj h, Clause.holds_conj]

/-- The joined rows do not depend on what is selected from them, nor on clauses and order. -/
theorem joinedRows_congr {q' : Query} (hbase : q'.base = q.base) (hjoins : q'.joins = q.joins)
    (hloose : q.loose = [])
    (hloose' : q'.loose = []) : q'.joinedRows store = q.joinedRows store := by
  rw [joinedRows, joinedRows, crossed_eq_nil hloose, crossed_eq_nil hloose', hbase, hjoins]

theorem matching_congr {q' : Query} (hbase : q'.base = q.base) (hjoins : q'.joins = q.joins) (hloose : q.loose = [])
    (hloose' : q'.loose = []) (hclauses : q'.clauses = q.clauses) : q'.matching store = q.matching store := by
  rw [matching, matching, joinedRows_congr hbase hjoins hloose hloose']
  exact List.filter_congr fun env _ => by rw [keeps_eq_all, keeps_eq_all, hclauses]

/-- **Where nothing is grouped the total is the number of rows that are kept.** -/
theorem total_ungrouped (hgroup : q.groupBy = []) (hloose : q.loose = []) :
    q.total store = (q.matching store).length := by
  unfold total counting
  rw [hgroup, List.isEmpty_nil, if_pos rfl]
  exact congrArg List.length (matching_congr rfl rfl hloose hloose rfl)

end Query

/-! ## Joins that look up a row -/

variable {store : Store}

namespace Join

/-- The rows of its table that a join puts beside a row. -/
def partners (store : Store) (j : Join) (env : Env) : List Row :=
  (store.rows j.table.table).filter fun row => Condition.allHold (env ++ [(j.table.name, row)]) j.on

/-- The row that a join looks up. -/
def partner (store : Store) (j : Join) (env : Env) : Row := (j.partners store env).headD []

/-- There is one partner for a row, the same whatever other tables are joined before. -/
def LooksUp (store : Store) (j : Join) (env : Env) : Prop :=
  ∀ more : Env, j.table.name ∉ more.map (·.1) → j.partners store (env ++ more) = [j.partner store env]

/-- What joins look up for a row, under their aliases. -/
def lookedUp (store : Store) (js : List Join) (env : Env) : Env :=
  js.map fun j => (j.table.name, j.partner store env)

theorem aliases_lookedUp (js : List Join) (env : Env) : (lookedUp store js env).map (·.1) = js.map (·.table.name) := by
  rw [lookedUp, List.map_map]
  rfl

theorem lookup_lookedUp {js : List Join} (hnames : (js.map (·.table.name)).Nodup) {j : Join} (hj : j ∈ js) (env : Env) :
    (lookedUp store js env).lookup j.table.name = some (j.partner store env) := by
  refine lookup_of_mem ?_ (j.table.name, j.partner store env) (List.mem_map.2 ⟨j, hj, rfl⟩)
  rwa [aliases_lookedUp]

end Join

namespace Query

/-- An inner join puts each row beside its partners. -/
theorem joinRows_eq_flatMap {j : Join} (hj : j.left = false) (envs : List Env) :
    joinRows store envs j = envs.flatMap fun env =>
      (j.partners store env).map fun row => env ++ [(j.table.name, row)] := by
  simp only [joinRows, hj, Bool.and_false, Bool.false_eq_true, ↓reduceIte, Join.partners]
  refine congrArg (List.flatMap · envs) (funext fun env => ?_)
  rw [← List.filterMap_eq_map, List.filterMap_filter]
  rfl

/-- **Joins that look up rows neither add rows nor lose any.** -/
theorem foldl_joinRows {js : List Join} {envs : List Env} (hnames : (js.map (·.table.name)).Nodup)
    (hleft : ∀ j ∈ js, j.left = false) (h : ∀ env ∈ envs, ∀ j ∈ js, j.LooksUp store env) :
    js.foldl (joinRows store) envs = envs.map fun env => env ++ Join.lookedUp store js env := by
  induction js using List.reverseRecOn with
  | nil => simp [Join.lookedUp]
  | append_singleton js j ih =>
    rw [List.map_append, List.nodup_append] at hnames
    obtain ⟨hbefore, -, hnew⟩ := hnames
    have hjs := ih hbefore (fun k hk => hleft k (List.mem_append_left _ hk))
      fun env henv k hk => h env henv k (List.mem_append_left _ hk)
    have hj : j ∈ js ++ [j] := by simp
    -- The alias of the last join is new, so that it looks up its row beside those of the others.
    have halias : ∀ env, j.table.name ∉ (Join.lookedUp store js env).map (·.1) := by
      intro env hmem
      rw [Join.aliases_lookedUp] at hmem
      exact hnew _ hmem _ (List.mem_singleton_self _) rfl
    rw [List.foldl_append, hjs, List.foldl_cons, List.foldl_nil, joinRows_eq_flatMap (hleft j hj), List.flatMap_map,
      ← List.flatMap_singleton' (envs.map _), List.flatMap_map]
    refine List.flatMap_congr fun env henv => ?_
    rw [h env henv j hj _ (halias env), List.map_singleton, Join.lookedUp, Join.lookedUp, List.map_append,
      List.append_assoc]
    rfl

end Query

/-! ## Pages -/

section Lists

variable {ε α β : Type} {f : α → Except ε β}

/-- The part of a list that has some size and starts after some items. -/
def slice (start size : Nat) (xs : List α) : List α := (xs.drop start).take size

theorem length_slice (start size : Nat) (xs : List α) :
    (slice start size xs).length = min size (xs.length - start) := by
  rw [slice, List.length_take, List.length_drop]

theorem slice_eq_nil {start size : Nat} {xs : List α} (h : xs.length ≤ start) : slice start size xs = [] := by
  rw [slice, List.drop_eq_nil_of_le h, List.take_nil]

theorem slice_map (g : α → β) (start size : Nat) (xs : List α) :
    slice start size (xs.map g) = (slice start size xs).map g := by
  rw [slice, slice, List.map_take, List.map_drop]

theorem slice_subset (start size : Nat) (xs : List α) : slice start size xs ⊆ xs :=
  List.Subset.trans (List.take_subset _ _) (List.drop_subset _ _)

/-- **Slices of one size, one after the other, are the list from its start.** -/
theorem flatMap_slices (xs : List α) (size count : Nat) :
    (List.range count).flatMap (fun n => slice (n * size) size xs) = xs.take (count * size) := by
  induction count with
  | zero => simp
  | succ count ih =>
    rw [List.range_succ, List.flatMap_append, ih, List.flatMap_singleton, slice, Nat.succ_mul, List.take_add]

/-- **What is made of the slices, put together, is what is made of the list.** -/
theorem mapM_of_slices {xs : List α} {size count : Nat} {parts : Nat → List β} (hall : xs.length ≤ count * size)
    (h : ∀ n < count, (slice (n * size) size xs).mapM f = .ok (parts n)) :
    xs.mapM f = .ok ((List.range count).flatMap parts) := by
  have hstart : ∀ k ≤ count, (xs.take (k * size)).mapM f = .ok ((List.range k).flatMap parts) := by
    intro k hk
    induction k with
    | zero => simp [List.mapM_nil, pure, Except.pure]
    | succ k ih =>
      have hbefore := ih (Nat.le_of_succ_le hk)
      rw [← flatMap_slices, List.range_succ, List.flatMap_append, List.flatMap_append, flatMap_slices,
        List.flatMap_singleton, List.flatMap_singleton, List.mapM_append, hbefore, h k hk]
      rfl
  rw [← hstart count (Nat.le_refl _), List.take_of_length_le hall]

theorem mapM_slice {xs : List α} {ys : List β} (h : xs.mapM f = .ok ys) (start size : Nat) :
    (slice start size xs).mapM f = .ok (slice start size ys) :=
  mapM_of_forall₂ (List.forall₂_take _ (List.forall₂_drop _ (forall₂_of_mapM h)))

end Lists

namespace Query

/-- A limit and an offset that are no negative numbers leave a slice. -/
theorem page_eq_slice {α : Type} {q : Query} {limit offset : Int} (hlimit : q.limit = some limit)
    (hoffset : q.offset = some offset) (h : 0 ≤ limit) (xs : List α) :
    q.page xs = slice offset.toNat limit.toNat xs := by
  rw [page, hlimit, hoffset]
  dsimp only
  rw [if_neg (Int.not_lt.2 h)]
  rfl

end Query

end TableQuery.Sql
