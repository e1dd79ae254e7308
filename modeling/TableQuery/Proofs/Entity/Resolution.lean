import TableQuery.Proofs.Entity.Dependencies

/-!
# What asking for joins adds

However joins are asked for, one after the other and whether they can be made or not, the names that have been joined
are known, each stands there once, and after all that it depends on (`JoinDefs.InOrder`). A join that can be made adds
what it leads to and nothing else. A join that cannot be made adds something too, but what it adds does not depend on
what has been joined before (`JoinDefs.mem_reachAll_iff`): whether the joins on its way can be made does not. So the
order in which joins are asked for has no influence on what is joined (`Sql.Query.mem_joined_joinEach`). The main
statement is `Sql.Query.join_resolves`.
-/

set_option autoImplicit false

namespace TableQuery

namespace JoinDefs

variable {defs : JoinDefs} {path joined names : List String} {name : String}

/-! ## The order of what has been joined -/

/-- Known names, each once and after all that it depends on. -/
structure InOrder (defs : JoinDefs) (names : List String) : Prop where
  nodup : names.Nodup
  known : ∀ n ∈ names, (defs.named? n).isSome
  dependencies : ∀ before name after, names = before ++ name :: after → ∀ d, defs.DependsOn name d → d ∈ before

theorem Founded.dependencies (h : Founded defs names) {before after : List String}
    (hnames : names = before ++ name :: after) {d : String} (hd : defs.DependsOn name d) : d ∈ before := by
  induction h generalizing after with
  | nil => simp at hnames
  | @snoc names last j _ hj hdeps ih =>
    rcases List.eq_nil_or_concat after with rfl | ⟨after, n, rfl⟩
    · obtain ⟨rfl, hlast⟩ := List.append_inj' hnames rfl
      obtain rfl : last = name := List.singleton_inj.1 hlast
      obtain ⟨j', hj', hmem⟩ := hd
      rw [hj, Option.some.injEq] at hj'
      exact hdeps (hj' ▸ hmem)
    · rw [List.concat_eq_append, ← List.cons_append, ← List.append_assoc] at hnames
      exact ih (List.append_inj' hnames rfl).1

theorem Founded.known (h : Founded defs names) : ∀ n ∈ names, (defs.named? n).isSome :=
  fun n hn => (h.resolvable n hn n .refl).2.1

theorem Founded.inOrder (h : Founded defs names) (hnodup : names.Nodup) : InOrder defs names :=
  ⟨hnodup, h.known, fun _ _ _ hnames _ hd => h.dependencies hnames hd⟩

/-! ## What is added -/

theorem reachAll_singleton (path joined : List String) (name : String) :
    defs.reachAll path joined [name] = defs.reach path joined name := by
  rw [reachAll]
  split
  next joined' hreach => rw [reachAll, hreach]
  next => rfl

mutual

theorem mem_reach (path joined : List String) (name : String) {n : String} (hn : n ∈ (defs.reach path joined name).1) :
    n ∈ joined ∨ defs.LeadsTo name n := by
  rw [reach] at hn
  split at hn
  next => exact Or.inl hn
  next =>
    split at hn
    next => exact Or.inl hn
    next =>
      split at hn
      next => exact Or.inl hn
      next j hj =>
        have hdeps : ∀ {n}, n ∈ (defs.reachAll (path ++ [name]) joined j.dependsOn).1 →
            n ∈ joined ∨ defs.LeadsTo name n := by
          intro n hn
          refine (mem_reachAll (path ++ [name]) joined j.dependsOn hn).imp_right ?_
          rintro ⟨d, hd, hlead⟩
          exact .head ⟨j, hj, hd⟩ hlead
        split at hn
        next names hok =>
          rw [hok] at hdeps
          rcases List.mem_append.1 hn with hn | hn
          · exact hdeps hn
          · exact Or.inr (List.mem_singleton.1 hn ▸ .refl)
        next => exact hdeps hn
termination_by (defs.away path, 0)
decreasing_by exact Prod.Lex.left _ _ (away_append_lt ‹_› ‹_›)

theorem mem_reachAll (path joined names : List String) {n : String} (hn : n ∈ (defs.reachAll path joined names).1) :
    n ∈ joined ∨ ∃ m ∈ names, defs.LeadsTo m n := by
  match names with
  | [] =>
    rw [reachAll] at hn
    exact Or.inl hn
  | name :: names =>
    have hfirst : ∀ {n}, n ∈ (defs.reach path joined name).1 → n ∈ joined ∨ ∃ m ∈ name :: names, defs.LeadsTo m n :=
      fun hn => (mem_reach path joined name hn).imp_right fun hlead => ⟨name, List.mem_cons_self, hlead⟩
    rw [reachAll] at hn
    split at hn
    next joined' hok =>
      rw [hok] at hfirst
      rcases mem_reachAll path joined' names hn with hn | ⟨m, hm, hlead⟩
      · exact hfirst hn
      · exact Or.inr ⟨m, List.mem_cons_of_mem _ hm, hlead⟩
    next => exact hfirst hn
termination_by (defs.away path, names.length + 1)

end

theorem mem_reachAll_of_resolvable (hjoined : Founded defs joined) (hnone : (defs.reachAll path joined names).2 = none)
    {n : String} : n ∈ (defs.reachAll path joined names).1 ↔ n ∈ joined ∨ ∃ m ∈ names, defs.LeadsTo m n := by
  obtain ⟨hext, hthere⟩ := @reachAll_spec defs path joined names
  refine ⟨mem_reachAll path joined names, ?_⟩
  rintro (hn | ⟨m, hm, hlead⟩)
  · exact hext.keeps hn
  · exact ((reachAll_founded path joined names hjoined).resolvable m (hthere hnone hm) n hlead).1

/-! ## What is added does not depend on what was there -/

mutual

/-- **What a join adds, made or not,** is what it would add to nothing. -/
theorem mem_reach_iff (path joined : List String) (name : String) (hjoined : Founded defs joined)
    (hpath : (path ++ [name]).IsChain defs.DependsOn) {n : String} :
    n ∈ (defs.reach path joined name).1 ↔ n ∈ joined ∨ n ∈ (defs.reach path [] name).1 := by
  by_cases hin : name ∈ joined
  · -- Nothing is added, and all that the join leads to is there.
    rw [reach, if_pos (List.contains_iff_mem.2 hin)]
    refine ⟨Or.inl, fun hn => hn.elim id fun hn => ?_⟩
    rcases mem_reach path [] name hn with hn | hlead
    · cases hn
    · exact (hjoined.resolvable name hin n hlead).1
  by_cases hback : name ∈ path
  · rw [reach_of_mem_path hin hback, reach_of_mem_path List.not_mem_nil hback]
    simp
  cases hj : defs.named? name with
  | none =>
    have hunknown : ∀ joined : List String, name ∉ joined → (defs.reach path joined name).1 = joined := by
      intro joined hin
      rw [reach, if_neg (by simpa using hin), dif_neg (by simpa using hback)]
      split
      next => rfl
      next j hj' =>
        rw [hj] at hj'
        cases hj'
    rw [hunknown joined hin, hunknown [] List.not_mem_nil]
    simp
  | some j =>
    have hdeps : ∀ d ∈ j.dependsOn, (path ++ [name] ++ [d]).IsChain defs.DependsOn := by
      intro d hd
      rw [List.append_assoc]
      exact List.isChain_append_cons_cons.2 ⟨hpath, ⟨j, hj, hd⟩, .singleton d⟩
    have hadds := @mem_reachAll_iff (path ++ [name]) joined j.dependsOn hjoined hdeps n
    have hmade := (reachAll_eq_none_iff_of_isChain hjoined hdeps).trans
      (reachAll_eq_none_iff_of_isChain (.nil) hdeps).symm
    rw [reach_of_named? hj hin hback, reach_of_named? hj List.not_mem_nil hback]
    -- The dependencies of the join can be made in both cases, or in none.
    rcases hwith : defs.reachAll (path ++ [name]) joined j.dependsOn with ⟨there, error⟩
    rcases hwithout : defs.reachAll (path ++ [name]) [] j.dependsOn with ⟨alone, error'⟩
    rw [hwith, hwithout] at hadds hmade
    cases error with
    | none =>
      obtain rfl : error' = none := hmade.1 rfl
      simp only [List.mem_append] at hadds ⊢
      rw [hadds, or_assoc]
    | some e =>
      cases error' with
      | none => cases hmade.2 rfl
      | some e' => exact hadds
termination_by (defs.away path, 0)
decreasing_by exact Prod.Lex.left _ _ (away_append_lt ‹_› (by simpa using hback))

/-- What several joins add is what they would add to nothing. -/
theorem mem_reachAll_iff (path joined names : List String) (hjoined : Founded defs joined)
    (hpath : ∀ n ∈ names, (path ++ [n]).IsChain defs.DependsOn) {n : String} :
    n ∈ (defs.reachAll path joined names).1 ↔ n ∈ joined ∨ n ∈ (defs.reachAll path [] names).1 := by
  match names, hpath with
  | [], _ =>
    rw [reachAll, reachAll]
    simp
  | name :: names, hpath =>
    have hfirst := hpath name List.mem_cons_self
    have hrest := fun n hn => hpath n (List.mem_cons_of_mem _ hn)
    have hadds := mem_reach_iff path joined name hjoined hfirst (n := n)
    have hfounded := reachAll_founded path joined [name] hjoined
    have hfounded' := reachAll_founded path [] [name] (show defs.Founded [] from .nil)
    have hone : ∀ m ∈ [name], (path ++ [m]).IsChain defs.DependsOn := fun m hm => List.mem_singleton.1 hm ▸ hfirst
    have hmade := (reachAll_eq_none_iff_of_isChain hjoined hone).trans
      (reachAll_eq_none_iff_of_isChain .nil hone).symm
    simp only [reachAll_singleton] at hfounded hfounded' hmade
    rw [reachAll, reachAll]
    rcases hwith : defs.reach path joined name with ⟨there, error⟩
    rcases hwithout : defs.reach path [] name with ⟨alone, error'⟩
    rw [hwith, hwithout] at hadds hmade
    rw [hwith] at hfounded
    rw [hwithout] at hfounded'
    cases error with
    | none =>
      obtain rfl : error' = none := hmade.1 rfl
      show n ∈ (defs.reachAll path there names).1 ↔ n ∈ joined ∨ n ∈ (defs.reachAll path alone names).1
      rw [mem_reachAll_iff path there names hfounded hrest, mem_reachAll_iff path alone names hfounded' hrest, hadds,
        or_assoc]
    | some e =>
      cases error' with
      | none => cases hmade.2 rfl
      | some e' => exact hadds
termination_by (defs.away path, names.length + 1)

end

end JoinDefs

namespace Sql.Query

variable {defs : JoinDefs} {q : Query}

/-! ## Queries -/

/-- The query after joins have been asked for one after the other, those that cannot be made included. -/
def joinEach (q : Query) (defs : JoinDefs) (names : List String) : Query :=
  names.foldl (fun q name => (q.join defs name).1) q

theorem joined_withJoined {names : List String} (h : ∀ n ∈ names, (defs.named? n).isSome) :
    (q.withJoined defs names).joined = names := by
  induction names with
  | nil => rfl
  | cons name names ih =>
    obtain ⟨hfirst, hrest⟩ := List.forall_mem_cons.1 h
    obtain ⟨j, hj⟩ := Option.isSome_iff_exists.1 hfirst
    have ih := ih hrest
    rw [joined, withJoined] at ih ⊢
    rw [List.filterMap_cons, hj]
    exact congrArg₂ List.cons (JoinDefs.named?_name hj) ih

theorem joined_join (h : defs.Founded q.joined) (name : String) :
    (q.join defs name).1.joined = (defs.reachAll [] q.joined [name]).1 := by
  have hfounded := JoinDefs.reachAll_founded [] q.joined [name] h
  rw [JoinDefs.reachAll_singleton] at hfounded ⊢
  exact joined_withJoined hfounded.known

/-- What joins keep that are made after those that they depend on is kept when joins are asked for. -/
theorem joinEach_induct {P : List String → Prop} (hnil : P [])
    (join : ∀ joined name, defs.Founded joined → P joined → P (defs.reachAll [] joined [name]).1) {base : Table}
    (names : List String) :
    defs.Founded (joinEach { base } defs names).joined ∧ P (joinEach { base } defs names).joined := by
  refine List.foldlRecOn names _ (motive := fun q : Query => defs.Founded q.joined ∧ P q.joined) ⟨.nil, hnil⟩ ?_
  rintro q ⟨hq, hP⟩ name -
  rw [joined_join hq]
  exact ⟨JoinDefs.reachAll_founded [] q.joined [name] hq, join _ name hq hP⟩

/-- **What has been joined** once joins have been asked for is what was joined before and what each of them adds. -/
theorem mem_joined_joinEach (hq : defs.Founded q.joined) {names : List String} {n : String} :
    n ∈ (q.joinEach defs names).joined ↔ n ∈ q.joined ∨ ∃ m ∈ names, n ∈ (defs.reachAll [] [] [m]).1 := by
  induction names generalizing q with
  | nil => simp [joinEach]
  | cons name names ih =>
    have hjoined := joined_join hq name
    have hfounded := JoinDefs.reachAll_founded [] q.joined [name] hq
    rw [← hjoined] at hfounded
    have hadds := JoinDefs.mem_reachAll_iff [] q.joined [name] hq (fun m _ => .singleton m) (n := n)
    rw [joinEach, List.foldl_cons, ← joinEach, ih hfounded, hjoined, hadds, List.exists_mem_cons_iff, or_assoc]

/-- **Asking for joins.** Whatever joins have been asked for, made or not, known names have been joined, each once and
after all that it depends on. Another join cannot be made iff it leads to an unknown name or to a join that depends on
itself. If it can be made, what it leads to and was not joined yet is added, and nothing else. What has been joined is
the same in whatever order, and however often, the joins have been asked for. -/
theorem join_resolves (defs : JoinDefs) (base : Table) (names : List String) :
    defs.InOrder (joinEach { base } defs names).joined ∧
      (∀ name, ((join (joinEach { base } defs names) defs name).2 ≠ none ↔
          ∃ n, defs.LeadsTo name n ∧ (defs.named? n = none ∨ defs.IsCircular n)) ∧
        ((join (joinEach { base } defs names) defs name).2 = none → ∃ added,
          (join (joinEach { base } defs names) defs name).1.joined = (joinEach { base } defs names).joined ++ added ∧
            added.Nodup ∧
            ∀ n, n ∈ added ↔ defs.LeadsTo name n ∧ n ∉ (joinEach { base } defs names).joined)) ∧
      ∀ others, (∀ n, n ∈ others ↔ n ∈ names) →
        ∀ n, n ∈ (joinEach { base } defs others).joined ↔ n ∈ (joinEach { base } defs names).joined := by
  obtain ⟨hfounded, hnodup⟩ : defs.Founded (joinEach { base } defs names).joined ∧
      (joinEach { base } defs names).joined.Nodup := joinEach_induct List.nodup_nil
    (fun joined name _ h => (JoinDefs.reachAll_nodup [] joined [name] h).1) names
  refine ⟨hfounded.inOrder hnodup, fun name => ?_, fun others hothers n => ?_⟩
  · have hjoined := joined_join hfounded name
    have herror : (join (joinEach { base } defs names) defs name).2 =
        (defs.reachAll [] (joinEach { base } defs names).joined [name]).2 := by
      rw [JoinDefs.reachAll_singleton]
      rfl
    rw [hjoined, herror]
    refine ⟨?_, fun hnone => ?_⟩
    · rw [ne_eq, JoinDefs.reachAll_eq_none_iff hfounded, List.forall_mem_singleton, JoinDefs.Resolvable]
      push Not
      refine exists_congr fun n => and_congr_right fun _ => ?_
      rw [← Option.not_isSome_iff_eq_none]
      tauto
    · obtain ⟨added, hadded⟩ : (joinEach { base } defs names).joined <+:
          (defs.reachAll [] (joinEach { base } defs names).joined [name]).1 := JoinDefs.prefix_reachAll [] _ [name]
      obtain ⟨hall, -⟩ : (defs.reachAll [] (joinEach { base } defs names).joined [name]).1.Nodup ∧ _ :=
        JoinDefs.reachAll_nodup [] _ [name] hnodup
      rw [← hadded] at hall
      have hmem := fun n => JoinDefs.mem_reachAll_of_resolvable hfounded hnone (n := n)
      simp only [← hadded, List.mem_append, List.exists_mem_cons_iff, List.not_mem_nil, false_and, exists_false,
        or_false] at hmem
      refine ⟨added, hadded.symm, (List.nodup_append.1 hall).2.1, fun n => ⟨fun hn => ?_, ?_⟩⟩
      · have hnew : n ∉ (joinEach { base } defs names).joined :=
          fun hold => (List.nodup_append.1 hall).2.2 n hold n hn rfl
        exact ⟨((hmem n).1 (Or.inr hn)).resolve_left hnew, hnew⟩
      · rintro ⟨hlead, hnew⟩
        exact ((hmem n).2 (Or.inr hlead)).resolve_left hnew
  · simp only [mem_joined_joinEach (show defs.Founded (Query.joined { base }) from .nil), hothers]

end Sql.Query

end TableQuery
