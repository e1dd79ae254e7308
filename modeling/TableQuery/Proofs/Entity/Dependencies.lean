import Mathlib.Data.List.Chain
import Mathlib.Logic.Relation
import TableQuery.Proofs.Entity.Joins

/-!
# Joins that cannot be made

A join leads to those that it depends on, and on to those that they depend on (`JoinDefs.LeadsTo`). Joins can be made
iff none of them leads to a name that no join has, or to a join that leads back to itself
(`JoinDefs.reachAll_eq_none_iff`). If they cannot, the error tells the way that was gone (`JoinDefs.Blocked`).
-/

set_option autoImplicit false

namespace TableQuery.JoinDefs

variable {defs : JoinDefs} {name : String}

/-! ## Ways along dependencies -/

/-- A join depends on another one. -/
def DependsOn (defs : JoinDefs) (name other : String) : Prop :=
  ∃ j, defs.named? name = some j ∧ other ∈ j.dependsOn

/-- A join is another one, or depends on a join that leads to it. -/
def LeadsTo (defs : JoinDefs) : String → String → Prop :=
  Relation.ReflTransGen defs.DependsOn

/-- A join depends on itself, possibly through other joins. -/
def IsCircular (defs : JoinDefs) (name : String) : Prop :=
  Relation.TransGen defs.DependsOn name name

/-- A join leads to known joins only, and to none that is circular. -/
def Resolvable (defs : JoinDefs) (name : String) : Prop :=
  ∀ n, defs.LeadsTo name n → (defs.named? n).isSome ∧ ¬ defs.IsCircular n

theorem transGen_of_isChain {way : List String} {last : String} (h : (way ++ [last]).IsChain defs.DependsOn) :
    ∀ n ∈ way, Relation.TransGen defs.DependsOn n last := by
  have hway := List.isChain_iff_pairwise.1 (h.imp fun _ _ => Relation.TransGen.single)
  intro n hn
  exact (List.pairwise_append.1 hway).2.2 n hn last List.mem_cons_self

theorem Ranked.not_isCircular {rank : String → Nat} (h : Ranked defs rank) (name : String) :
    ¬ defs.IsCircular name := by
  have hstep : ∀ {n m : String}, defs.DependsOn n m → rank m < rank n := by
    rintro n m ⟨j, hj, hd⟩
    exact named?_name hj ▸ (h j (named?_mem hj) _ hd).2
  have hway : ∀ {n m : String}, Relation.TransGen defs.DependsOn n m → rank m < rank n := by
    intro n m h
    induction h with
    | single hfirst => exact hstep hfirst
    | tail _ hlast ih => exact Nat.lt_trans (hstep hlast) ih
  exact fun hcircle => Nat.lt_irrefl _ (hway hcircle)

/-! ## What has been joined is resolvable -/

/-- **Joins that are made after those that they depend on** lead to each other only, and none of them is circular. -/
theorem Founded.resolvable {names : List String} (h : Founded defs names) :
    ∀ n ∈ names, ∀ m, defs.LeadsTo n m → m ∈ names ∧ (defs.named? m).isSome ∧ ¬ defs.IsCircular m := by
  induction h with
  | nil => simp
  | @snoc names name j _ hj hdeps ih =>
    have hbefore : ∀ n ∈ names, ∀ m, defs.LeadsTo n m →
        m ∈ names ++ [name] ∧ (defs.named? m).isSome ∧ ¬ defs.IsCircular m := by
      intro n hn m hm
      obtain ⟨hmem, hrest⟩ := ih n hn m hm
      exact ⟨List.mem_append_left _ hmem, hrest⟩
    by_cases hold : name ∈ names
    · intro n hn
      rcases List.mem_append.1 hn with hn | hn
      · exact hbefore n hn
      · exact List.mem_singleton.1 hn ▸ hbefore name hold
    have hstep : ∀ {n : String}, defs.DependsOn name n → n ∈ names := by
      rintro n ⟨j', hj', hn⟩
      rw [hj, Option.some.injEq] at hj'
      exact hdeps (hj' ▸ hn)
    -- The new join is none of those that it leads to, because these have been there before.
    have hnew : ¬ defs.IsCircular name := by
      intro hcircle
      obtain ⟨n, hn, hback⟩ := Relation.TransGen.head'_iff.1 hcircle
      exact hold (ih n (hstep hn) name hback).1
    intro n hn m hm
    rcases List.mem_append.1 hn with hn | hn
    · exact hbefore n hn m hm
    · rw [List.mem_singleton.1 hn] at hm
      rcases Relation.ReflTransGen.cases_head hm with rfl | ⟨d, hd, hm⟩
      · exact ⟨by simp, by rw [hj]; rfl, hnew⟩
      · exact hbefore d (hstep hd) m hm

/-! ## What errors tell -/

/-- An error after a way has been gone: the way goes on to a name that no join has, or back to where it has been. -/
inductive Blocked (defs : JoinDefs) (way : List String) : ConfigError → Prop
  | unknown {before : List String} {name : String} : way <+: before ++ [name] →
      (before ++ [name]).IsChain defs.DependsOn → defs.named? name = none → Blocked defs way (.unknownJoin name)
  | circular {before : List String} {name : String} : way <+: before ++ [name] →
      (before ++ [name]).IsChain defs.DependsOn → name ∈ before → Blocked defs way (.circularJoin (before ++ [name]))

theorem Blocked.mono {way more : List String} {error : ConfigError} (hway : way <+: more)
    (h : Blocked defs more error) : Blocked defs way error := by
  cases h with
  | unknown hmore hchain hnone => exact .unknown (hway.trans hmore) hchain hnone
  | circular hmore hchain hmem => exact .circular (hway.trans hmore) hchain hmem

theorem leadsTo_of_isChain {way before : List String} {last : String} (hway : way ++ [name] <+: before ++ [last])
    (h : (before ++ [last]).IsChain defs.DependsOn) : defs.LeadsTo name last := by
  rcases List.mem_append.1 (hway.subset (List.mem_append_right way List.mem_cons_self)) with hmem | hmem
  · exact (transGen_of_isChain h name hmem).to_reflTransGen
  · rw [List.mem_singleton.1 hmem]
    exact .refl

theorem Blocked.not_resolvable {way : List String} {error : ConfigError} (h : Blocked defs (way ++ [name]) error) :
    ¬ defs.Resolvable name := by
  intro hresolvable
  cases h with
  | unknown hway hchain hnone =>
    obtain ⟨hknown, -⟩ := hresolvable _ (leadsTo_of_isChain hway hchain)
    rw [hnone] at hknown
    cases hknown
  | @circular before last hway hchain hmem =>
    obtain ⟨-, hcircle⟩ := hresolvable _ (leadsTo_of_isChain hway hchain)
    exact hcircle (transGen_of_isChain hchain last hmem)

mutual

/-- If a join cannot be made, the error tells on which way. -/
theorem reach_blocked (path joined : List String) (name : String) (hpath : (path ++ [name]).IsChain defs.DependsOn)
    {error : ConfigError} (h : (defs.reach path joined name).2 = some error) :
    Blocked defs (path ++ [name]) error := by
  rw [reach] at h
  split at h
  next => cases h
  next =>
    split at h
    next hback =>
      cases h
      exact .circular (List.prefix_refl _) hpath (by simpa using hback)
    next =>
      split at h
      next hnone =>
        cases h
        exact .unknown (List.prefix_refl _) hpath hnone
      next j hj =>
        have hdeps : ∀ d ∈ j.dependsOn, (path ++ [name] ++ [d]).IsChain defs.DependsOn := by
          intro d hd
          rw [List.append_assoc]
          exact List.isChain_append_cons_cons.2 ⟨hpath, ⟨j, hj, hd⟩, .singleton d⟩
        split at h
        next => cases h
        next =>
          obtain ⟨d, -, hblocked⟩ := reachAll_blocked (path ++ [name]) joined j.dependsOn hdeps h
          exact hblocked.mono (List.prefix_append _ _)
termination_by (defs.away path, 0)
decreasing_by exact Prod.Lex.left _ _ (away_append_lt ‹_› ‹_›)

/-- If several joins cannot be made, the error tells on which way from one of them. -/
theorem reachAll_blocked (path joined names : List String)
    (hpath : ∀ n ∈ names, (path ++ [n]).IsChain defs.DependsOn) {error : ConfigError}
    (h : (defs.reachAll path joined names).2 = some error) :
    ∃ n ∈ names, Blocked defs (path ++ [n]) error := by
  match names, hpath with
  | [], _ =>
    rw [reachAll] at h
    cases h
  | name :: names, hpath =>
    rw [reachAll] at h
    split at h
    next joined' _ =>
      obtain ⟨n, hn, hblocked⟩ :=
        reachAll_blocked path joined' names (fun n hn => hpath n (List.mem_cons_of_mem _ hn)) h
      exact ⟨n, List.mem_cons_of_mem _ hn, hblocked⟩
    next =>
      exact ⟨name, List.mem_cons_self, reach_blocked path joined name (hpath name List.mem_cons_self) h⟩
termination_by (defs.away path, names.length + 1)

end

/-! ## What can be joined -/

/-- **Joins can be made on their way iff they are resolvable**, whatever has been joined before. -/
theorem reachAll_eq_none_iff_of_isChain {path joined names : List String} (hjoined : Founded defs joined)
    (hpath : ∀ n ∈ names, (path ++ [n]).IsChain defs.DependsOn) :
    (defs.reachAll path joined names).2 = none ↔ ∀ n ∈ names, defs.Resolvable n := by
  constructor
  · intro hnone n hn m hm
    obtain ⟨-, hthere⟩ := @reachAll_spec defs path joined names
    exact ((reachAll_founded path joined names hjoined).resolvable n (hthere hnone hn) m hm).2
  · intro hresolvable
    rw [← Option.not_isSome_iff_eq_none, Option.isSome_iff_exists]
    rintro ⟨error, herror⟩
    obtain ⟨n, hn, hblocked⟩ := reachAll_blocked path joined names hpath herror
    exact hblocked.not_resolvable (hresolvable n hn)

theorem reachAll_eq_none_iff {joined names : List String} (hjoined : Founded defs joined) :
    (defs.reachAll [] joined names).2 = none ↔ ∀ n ∈ names, defs.Resolvable n :=
  reachAll_eq_none_iff_of_isChain hjoined fun n _ => .singleton n

end TableQuery.JoinDefs
