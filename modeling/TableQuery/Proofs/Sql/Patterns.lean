import TableQuery.Proofs.Sql.Lists
import TableQuery.Sql.Run

/-!
# Patterns that can be used

A query in whose clauses every regular expression can be read and no like pattern is overlong never reaches a
pattern that cannot be used, whatever the order of its steps and whatever is stored
(`Query.reachesBad_eq_false`). So it depends on the query alone whether it can run
(`Query.canRun_of_clauses`).
-/

set_option autoImplicit false

namespace TableQuery.Sql

/-! ## Clauses -/

namespace Clause

mutual

/-- Every pattern of a clause can be used. -/
def isUsable : Clause → Bool
  | like _ p _ _ => !isOverlong p
  | regexp _ p _ => (regexOf? p).isSome
  | not c => isUsable c
  | and cs | or cs => areUsable cs
  | _ => true

/-- Every pattern of clauses can be used. -/
def areUsable : List Clause → Bool
  | [] => true
  | c :: cs => isUsable c && areUsable cs

end

theorem areUsable_iff {cs : List Clause} : areUsable cs = true ↔ ∀ c ∈ cs, c.isUsable = true := by
  induction cs with
  | nil => simp [areUsable]
  | cons c cs ih => simp [areUsable, ih]

theorem isUsable_conj {cs : List Clause} (h : ∀ c ∈ cs, c.isUsable = true) : (conj cs).isUsable = true :=
  conj_induct (fun _ => rfl) (fun _ => areUsable_iff.2) h

theorem isUsable_of_mem_conjuncts (c : Clause) (h : c.isUsable = true) : ∀ d ∈ c.conjuncts, d.isUsable = true :=
  conjuncts_induct (fun _ => areUsable_iff.1) c h

theorem fitStore_iff {cs : List Clause} : fitStore cs = true ↔ ∀ c ∈ cs, c.fitsStore = true := by
  induction cs with
  | nil => simp [fitStore]
  | cons c cs ih => simp [fitStore, ih]

theorem fitsStore_conj {cs : List Clause} (h : ∀ c ∈ cs, c.fitsStore = true) : (conj cs).fitsStore = true :=
  conj_induct (fun _ => rfl) (fun _ => fitStore_iff.2) h

theorem fitsStore_of_mem_conjuncts (c : Clause) (h : c.fitsStore = true) : ∀ d ∈ c.conjuncts, d.fitsStore = true :=
  conjuncts_induct (fun _ => fitStore_iff.1) c h

mutual

/-- No row reaches a pattern that cannot be used if there is none. -/
theorem trips_eq_false (store : Store) (env : Env) : (c : Clause) → c.isUsable = true → c.trips store env = false
  | like _ p _ _, h => by rwa [trips, ← Bool.not_eq_true']
  | regexp t p _, h => by
    rw [isUsable, Option.isSome_iff_ne_none] at h
    rw [trips, Bool.and_eq_false_iff, Option.isNone_eq_false_iff, Option.isSome_iff_ne_none]
    exact Or.inr h
  | not c, h => trips_eq_false store env c h
  | and cs, h => (tripsAll_tripsAny_eq_false store env cs h).1
  | or cs, h => (tripsAll_tripsAny_eq_false store env cs h).2
  | const _, _ | decided _, _ | nullTest _ _, _ | compare _ _ _, _ | among _ _ _, _ | anyMember _, _
  | memberCount _ _ _, _ => rfl

theorem tripsAll_tripsAny_eq_false (store : Store) (env : Env) : (cs : List Clause) → areUsable cs = true →
    tripsAll store env cs = false ∧ tripsAny store env cs = false
  | [], _ => ⟨rfl, rfl⟩
  | c :: cs, h => by
    rw [areUsable, Bool.and_eq_true] at h
    have hc := trips_eq_false store env c h.1
    obtain ⟨hall, hany⟩ := tripsAll_tripsAny_eq_false store env cs h.2
    rw [tripsAll, tripsAny, hc, hall, hany]
    simp

end

end Clause

/-! ## Steps -/

/-- The patterns in a test can be used. -/
def Test.IsUsable (t : Test) : Prop := ∀ store env, t.trips store env = false

namespace Query

variable {indexes : Indexes}

theorem mem_tests_of {known : List String} {pending : List Test} {t : Table} {test : Test}
    (h : test ∈ (Candidate.of indexes known pending t).tests) : test ∈ pending := by
  have hfold : ∀ better : Candidate → String × Nat → Candidate, (∀ best s, (better best s).tests = best.tests) →
      ∀ (found : List (String × Nat)) (start : Candidate), (found.foldl better start).tests = start.tests := by
    intro better hbetter found
    induction found with
    | nil => exact fun _ => rfl
    | cons s found ih =>
      intro start
      rw [List.foldl_cons, ih, hbetter]
  rw [Candidate.of, hfold _ fun best s => by dsimp only; split <;> rfl] at h
  exact (List.mem_filter.1 h).1

theorem mem_tests_step {c : Candidate} {known : List String} {test : Test}
    (h : test ∈ (c.step indexes known).tests) : test ∈ c.tests := by
  simp only [Candidate.step, List.partition_eq_filter_filter, List.mem_append, List.mem_filter] at h
  rcases h with ((⟨h, -⟩ | ⟨⟨⟨h, -⟩, -⟩, -⟩) | ⟨⟨⟨h, -⟩, -⟩, -⟩) | ⟨⟨h, -⟩, -⟩ <;> exact h

theorem mem_tests_stepsThrough {test : Test} : ∀ (count : Nat) (known : List String) (tables : List Table)
    (pending : List Test), ∀ s ∈ stepsThrough indexes count known tables pending, test ∈ s.tests → test ∈ pending
  | 0, _, _, _ => nofun
  | count + 1, known, tables, pending => by
    intro s hs htest
    rw [stepsThrough] at hs
    split at hs
    next => cases hs
    next first others hcandidates =>
      have hbest : others.foldl (fun best c => if c.isBetter best then c else best) first ∈
          tables.map (Candidate.of indexes known pending) := by
        rw [hcandidates]
        refine List.foldlRecOn (motive := (· ∈ first :: others)) others _ List.mem_cons_self fun best hbest c hc => ?_
        split
        · exact List.mem_cons_of_mem _ hc
        · exact hbest
      obtain ⟨t, -, ht⟩ := List.mem_map.1 hbest
      rcases List.mem_cons.1 hs with rfl | hs
      · rw [← ht] at htest
        exact mem_tests_of (mem_tests_step htest)
      · exact (List.mem_filter.1 (mem_tests_stepsThrough count _ _ _ s hs htest)).1

theorem mem_tests_leftSteps {test : Test} : ∀ (known : List String) (joins : List Join) (pending : List Test),
    ∀ s ∈ leftSteps known joins pending, test ∈ s.tests → test ∈ pending
  | _, [], _ => nofun
  | known, j :: js, pending => by
    intro s hs htest
    rcases List.mem_cons.1 hs with rfl | hs
    · exact (List.mem_filter.1 htest).1
    · exact (List.mem_filter.1 (mem_tests_leftSteps _ js _ s hs htest)).1

theorem testsTrip_eq_false (store : Store) (env : Env) {tests : List Test} (h : ∀ t ∈ tests, t.IsUsable) :
    testsTrip store env tests = false := by
  induction tests with
  | nil => rfl
  | cons t ts ih =>
    rw [testsTrip, h t List.mem_cons_self store env, ih fun t ht => h t (List.mem_cons_of_mem _ ht)]
    simp

theorem stepsTrip_eq_false (store : Store) : ∀ {steps : List Step} (env : Env),
    (∀ s ∈ steps, ∀ t ∈ s.tests, t.IsUsable) → stepsTrip store steps env = false
  | [], _, _ => rfl
  | s :: steps, env, h => by
    rw [stepsTrip, List.any_eq_false]
    intro env' _
    rw [testsTrip_eq_false store env' (h s List.mem_cons_self),
      stepsTrip_eq_false store env' fun s hs => h s (List.mem_cons_of_mem _ hs)]
    simp

/-- **A query reaches no pattern that cannot be used if there is none.** -/
theorem reachesBad_eq_false (store : Store) {q : Query} (h : ∀ c ∈ q.clauses, c.isUsable = true) :
    q.reachesBad indexes store = false := by
  have hconjuncts : ∀ c ∈ q.conjuncts, (Test.clause c).IsUsable := by
    intro c hc store env
    unfold conjuncts filter? at hc
    split at hc
    · cases hc
    · exact Clause.trips_eq_false store env c (Clause.isUsable_of_mem_conjuncts _ (Clause.isUsable_conj h) c hc)
  have htests : ∀ (cs : List Clause) (on : List Condition), cs ⊆ q.conjuncts →
      ∀ t ∈ cs.map Test.clause ++ on.map Test.condition, t.IsUsable := by
    intro cs on hcs t ht
    rcases List.mem_append.1 ht with ht | ht
    · obtain ⟨c, hc, rfl⟩ := List.mem_map.1 ht
      exact hconjuncts c (hcs hc)
    · obtain ⟨c, -, rfl⟩ := List.mem_map.1 ht
      exact fun _ _ => rfl
  have hsteps : ∀ cs ⊆ q.conjuncts, ∀ s ∈ q.steps indexes cs, ∀ t ∈ s.tests, t.IsUsable := by
    intro cs hcs s hs t ht
    rcases List.mem_append.1 hs with hs | hs
    · exact htests cs _ hcs t (mem_tests_stepsThrough _ _ _ _ s hs ht)
    · exact htests cs _ hcs t (List.mem_filter.1 (mem_tests_leftSteps _ _ _ s hs ht)).1
  unfold reachesBad
  simp only [List.partition_eq_filter_filter]
  rw [testsTrip_eq_false, stepsTrip_eq_false, Bool.and_false, Bool.or_false]
  · exact hsteps _ fun c hc => (List.mem_filter.1 hc).1
  · intro t ht
    obtain ⟨c, hc, rfl⟩ := List.mem_map.1 ht
    exact hconjuncts c (List.mem_filter.1 hc).1

theorem fitStore_conjuncts {q : Query} (h : ∀ c ∈ q.clauses, c.fitsStore = true) :
    Clause.fitStore q.conjuncts = true := by
  unfold conjuncts filter?
  split
  · rfl
  · exact Clause.fitStore_iff.2 (Clause.fitsStore_of_mem_conjuncts _ (Clause.fitsStore_conj h))

/-- **A query runs** if its numbers and its operands fit the store, it does not bind too many of them, its patterns can
be used, and its clauses are not nested too deeply. -/
theorem canRun_of_clauses (store : Store) {q : Query} (hlimit : ∀ n ∈ q.limit, Value.fitsStore n = true)
    (hoffset : ∀ n ∈ q.offset, Value.fitsStore n = true) (hfew : q.bindsFew = true)
    (husable : ∀ c ∈ q.clauses, c.isUsable = true) (hfit : ∀ c ∈ q.clauses, c.fitsStore = true)
    (hshallow : (Clause.conj q.clauses).isShallow = true) :
    q.canRun indexes store = true := by
  have hnumber : ∀ n? : Option Int, (∀ n ∈ n?, Value.fitsStore n = true) →
      (n?.map Value.fitsStore).getD true = true := by
    rintro (_ | n) h
    · rfl
    · exact h n rfl
  have hdepth : q.filter?.all (·.isShallow) = true := by
    unfold filter?
    split
    · rfl
    · exact hshallow
  rw [canRun, hnumber q.limit hlimit, hnumber q.offset hoffset, hfew, fitStore_conjuncts hfit, hdepth,
    reachesBad_eq_false store husable]
  rfl

end Query

end TableQuery.Sql
