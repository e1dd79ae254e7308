import TableQuery.Proofs.Filter.NormalForm

/-!
# The work list of an operation

The filters of an operation are looked at one by one (`WorkList.Pops`): each is reduced, and what becomes of the list
depends on what it is then (`WorkList.after`). A filter that stands for others puts them back, so that the list may grow
longer; but it has fewer constants, leaves and operations (`Draft.nodes`) than before, by those of the filter that was
looked at and not put back (`WorkList.Pops.nodes_le`). Therefore the work ends (`WorkList.exists_ends`), after no
more filters than the operation has constants, leaves and operations (`reduceFilter_pops`).
-/

set_option autoImplicit false

namespace TableQuery

namespace Draft

variable {s : ColumnSchemas} {all : Bool} {d r : Draft} {ds : List Draft}

/-! ## Nodes -/

mutual

/-- The number of constants, leaves and operations. What is none of them counts for nothing. -/
def nodes : Draft → Nat
  | const _ | leaf _ _ => 1
  | op _ ds _ => nodesOfAll ds + 1
  | bad _ => 0

/-- The number of constants, leaves and operations in drafts. -/
def nodesOfAll : List Draft → Nat
  | [] => 0
  | d :: ds => nodes d + nodesOfAll ds

end

@[simp] theorem nodes_const (value : Bool) : (const value).nodes = 1 := by rw [nodes]

@[simp] theorem nodes_op (inverse : Bool) : (op all ds inverse).nodes = nodesOfAll ds + 1 := by rw [nodes]

@[simp] theorem nodesOfAll_nil : nodesOfAll [] = 0 := by rw [nodesOfAll]

@[simp] theorem nodesOfAll_cons : nodesOfAll (d :: ds) = d.nodes + nodesOfAll ds := by rw [nodesOfAll]

@[simp] theorem nodesOfAll_append (ds es : List Draft) : nodesOfAll (ds ++ es) = nodesOfAll ds + nodesOfAll es := by
  induction ds with
  | nil => simp
  | cons d ds ih => simp [ih, Nat.add_assoc]

@[simp] theorem nodes_inverted (d : Draft) : d.inverted.nodes = d.nodes := by
  cases d <;> simp [inverted, nodes]

@[simp] theorem nodes_invertedIf (invert : Bool) (d : Draft) : (d.invertedIf invert).nodes = d.nodes := by
  cases invert <;> simp [invertedIf]

@[simp] theorem nodesOfAll_map_inverted (ds : List Draft) : nodesOfAll (ds.map inverted) = nodesOfAll ds := by
  induction ds with
  | nil => rfl
  | cons d ds ih => simp [ih]

theorem nodes_toDraft (l : Simple) : l.toDraft.nodes = 1 := by
  cases l <;> simp [Simple.toDraft, nodes]

theorem nodes_of_splits (h : partOf all r = .splits ds) : r.nodes = nodesOfAll ds + 1 := by
  rcases partOf_eq_splits.1 h with rfl | ⟨es, rfl, rfl⟩ <;> simp

theorem nodes_assemble_le {parts : Option (List Draft)}
    (h : ∀ kept, parts = some kept → nodesOfAll kept ≤ nodesOfAll ds) :
    (assemble all parts).nodes ≤ nodesOfAll ds + 1 := by
  match parts with
  | none | some [] => simp [assemble]
  | some [d] =>
    have := h [d] rfl
    simp only [assemble, nodesOfAll_cons, nodesOfAll_nil] at *
    omega
  | some (d :: e :: kept) =>
    simpa [assemble] using h _ rfl

theorem nodes_pos_of_reduce (h : reduce s d = .ok r) : 0 < d.nodes := by
  cases d with
  | const _ | leaf _ _ | op _ _ _ => simp [nodes]
  | bad b =>
    rw [reduce_bad] at h
    cases h

/-- **A reduced filter has no more nodes** than the one that it was made from. -/
theorem nodes_reduce_le (h : reduce s d = .ok r) : r.nodes ≤ d.nodes := by
  refine (reduce_induct (s := s) (fun d => ∀ r, reduce s d = .ok r → r.nodes ≤ d.nodes)
    (fun all ds => ∀ kept, reducedParts s all ds = .ok (some kept) → nodesOfAll kept ≤ nodesOfAll ds)
    ?_ ?_ ?_ ?_ ?_ ?_).1 d r h
  · intro value r hr
    rw [reduce_const] at hr
    cases hr
    exact Nat.le_refl _
  · intro b r hr
    rw [reduce_bad] at hr
    cases hr
  · intro kind fields r hr
    rw [reduce_leaf] at hr
    obtain ⟨l, -, rfl⟩ := map_eq_ok.1 hr
    simp [nodes_toDraft, nodes]
  · intro all ds inverse ih r hr
    rw [reduce_op] at hr
    obtain ⟨parts, hparts, rfl⟩ := map_eq_ok.1 hr
    rw [nodes_invertedIf, nodes_op]
    exact nodes_assemble_le fun kept hkept => ih kept (hkept ▸ hparts)
  · intro all kept hkept
    rw [reducedParts_nil] at hkept
    cases hkept
    exact Nat.le_refl _
  · intro all d rest ih ihrest ihsplits kept hkept
    rw [nodesOfAll_cons]
    obtain ⟨r, hr, ⟨-, hnone⟩ | ⟨-, hrest⟩ | ⟨ds, hsplits, hds⟩ | ⟨-, others, hothers, hkept⟩⟩ :=
      reducedParts_cons_eq_ok.1 hkept
    · cases hnone
    · have := ihrest kept hrest
      omega
    · have := ihsplits r ds hr hsplits kept hds
      have := nodes_of_splits hsplits
      have := ih r hr
      rw [nodesOfAll_append] at *
      omega
    · obtain ⟨others, rfl, rfl⟩ := Option.map_eq_some_iff.1 hkept.symm
      have := ihrest others hothers
      have := ih r hr
      rw [nodesOfAll_cons]
      omega

end Draft

/-- The number of constants, leaves and operations in a filter. -/
def filterNodes (f : Json) : Nat :=
  (Draft.ofJson f).nodes

/-! ## Turns -/

open Draft (reduce reducedParts partOf assemble nodesOfAll)

/-- The filters of an operation that have yet to be looked at, the next one first, and those that stay, in order. -/
structure WorkList where
  pending : List Draft
  survivors : List Draft := []

namespace WorkList

variable {s : ColumnSchemas} {all : Bool} {w w' : WorkList} {n m : Nat} {d r : Draft} {ds rest survivors : List Draft}
  {parts : Option (List Draft)}

/-- The work list once the next filter has been reduced to `r`: none if `r` decides. -/
def after (all : Bool) (r : Draft) (rest survivors : List Draft) : Option WorkList :=
  match partOf all r with
  | .deciding => none
  | .neutral => some ⟨rest, survivors⟩
  | .splits ds => some ⟨ds ++ rest, survivors⟩
  | .stays => some ⟨rest, survivors ++ [r]⟩

/-- `n` filters are looked at from one work list to another. -/
inductive Pops (s : ColumnSchemas) (all : Bool) : WorkList → Nat → WorkList → Prop
  | refl (w : WorkList) : Pops s all w 0 w
  | next {d r : Draft} {rest survivors : List Draft} {w w' : WorkList} {n : Nat} : reduce s d = .ok r →
      after all r rest survivors = some w → Pops s all w n w' → Pops s all ⟨d :: rest, survivors⟩ (n + 1) w'

/-- The work ends after `n` filters, with those that stayed, or with none if the last one decided. -/
inductive Ends (s : ColumnSchemas) (all : Bool) : WorkList → Nat → Option (List Draft) → Prop
  | done (survivors : List Draft) : Ends s all ⟨[], survivors⟩ 0 (some survivors)
  | decided {d r : Draft} {rest survivors : List Draft} : reduce s d = .ok r → after all r rest survivors = none →
      Ends s all ⟨d :: rest, survivors⟩ 1 none
  | next {d r : Draft} {rest survivors : List Draft} {w : WorkList} {n : Nat} {parts : Option (List Draft)} :
      reduce s d = .ok r → after all r rest survivors = some w → Ends s all w n parts →
        Ends s all ⟨d :: rest, survivors⟩ (n + 1) parts

/-- **A turn makes the work less**, by a node at least, even when it makes the list longer. -/
theorem nodes_after_lt (hr : reduce s d = .ok r) (h : after all r rest survivors = some w) :
    nodesOfAll w.pending < nodesOfAll (d :: rest) := by
  have hpos := Draft.nodes_pos_of_reduce hr
  have hle := Draft.nodes_reduce_le hr
  rw [Draft.nodesOfAll_cons]
  unfold after at h
  split at h
  next => cases h
  next =>
    cases h
    show nodesOfAll rest < _
    omega
  next ds hsplits =>
    cases h
    have := Draft.nodes_of_splits hsplits
    rw [Draft.nodesOfAll_append]
    omega
  next =>
    cases h
    show nodesOfAll rest < _
    omega

theorem Pops.nodes_le (h : Pops s all w n w') : nodesOfAll w'.pending + n ≤ nodesOfAll w.pending := by
  induction h with
  | refl w => exact Nat.le_refl _
  | next hr hafter _ ih =>
    have := nodes_after_lt hr hafter
    show _ ≤ nodesOfAll (_ :: _)
    omega

theorem Ends.le_nodes (h : Ends s all w n parts) : n ≤ nodesOfAll w.pending := by
  induction h with
  | done survivors => exact Nat.zero_le _
  | decided hr _ =>
    have := Draft.nodes_pos_of_reduce hr
    show _ ≤ nodesOfAll (_ :: _)
    rw [Draft.nodesOfAll_cons]
    omega
  | next hr hafter _ ih =>
    have := nodes_after_lt hr hafter
    show _ ≤ nodesOfAll (_ :: _)
    omega

theorem Ends.of_pops (h : Ends s all w n parts) (hpops : Pops s all w m w') : ∃ k, Ends s all w' k parts := by
  induction hpops generalizing n with
  | refl w => exact ⟨n, h⟩
  | next hr hafter _ ih =>
    cases h with
    | decided hr' hafter' =>
      cases hr.symm.trans hr'
      cases hafter.symm.trans hafter'
    | next hr' hafter' hends =>
      cases hr.symm.trans hr'
      cases hafter.symm.trans hafter'
      exact ih hends

theorem Ends.exists_reduce (h : Ends s all ⟨d :: rest, survivors⟩ n parts) : ∃ r, reduce s d = .ok r := by
  cases h with
  | decided hr _ | next hr _ _ => exact ⟨_, hr⟩

/-! ## The work as a whole -/

theorem exists_ends (h : reducedParts s all ds = .ok parts) (survivors : List Draft) :
    ∃ n, Ends s all ⟨ds, survivors⟩ n (parts.map (survivors ++ ·)) := by
  refine Draft.reducedParts_induct (s := s)
    (fun all ds => ∀ survivors parts, reducedParts s all ds = .ok parts →
      ∃ n, Ends s all ⟨ds, survivors⟩ n (parts.map (survivors ++ ·))) ?_ ?_ all ds survivors parts h
  · intro all survivors parts hparts
    rw [Draft.reducedParts_nil] at hparts
    cases hparts
    exact ⟨0, by simpa using Ends.done survivors⟩
  · intro all d rest ihrest ihsplits survivors parts hparts
    obtain ⟨r, hr, ⟨hpart, rfl⟩ | ⟨hpart, hrest⟩ | ⟨ds, hpart, hds⟩ | ⟨hpart, others, hothers, rfl⟩⟩ :=
      Draft.reducedParts_cons_eq_ok.1 hparts
    · exact ⟨1, .decided hr (by rw [after, hpart])⟩
    · obtain ⟨n, hn⟩ := ihrest survivors parts hrest
      exact ⟨n + 1, .next hr (by rw [after, hpart]) hn⟩
    · obtain ⟨n, hn⟩ := ihsplits r ds hr hpart survivors parts hds
      exact ⟨n + 1, .next hr (by rw [after, hpart]) hn⟩
    · obtain ⟨n, hn⟩ := ihrest (survivors ++ [r]) others hothers
      have hparts : (others.map (r :: ·)).map (survivors ++ ·) = others.map (survivors ++ [r] ++ ·) := by
        cases others <;> simp
      exact ⟨n + 1, .next hr (by rw [after, hpart]) (hparts ▸ hn)⟩

end WorkList

/-- **The work on an operation ends.** What a filter is reduced to has no more constants, leaves and operations than the
filter. If the filter is an operation, the work on its list ends with what it is reduced to, and the list never has more
filters looked at than the filter has constants, leaves and operations: a filter that was looked at can be reduced, and
what is put back in its place has fewer of them than it has, whether it stands for its parts or for their opposites. -/
theorem reduceFilter_pops {s : ColumnSchemas} {f g : Json} (h : reduceFilter s f = .ok g) :
    filterNodes g ≤ filterNodes f ∧
      ∀ all ds inverse, Draft.ofJson f = .op all ds inverse →
        (∃ n parts, WorkList.Ends s all { pending := ds } n parts ∧
          g = ((assemble all parts).invertedIf inverse).toJson ∧ n ≤ filterNodes f) ∧
        ∀ n d rest survivors, WorkList.Pops s all { pending := ds } n ⟨d :: rest, survivors⟩ → n + 1 ≤ filterNodes f ∧
          ∃ r, reduce s d = .ok r ∧ r.nodes ≤ d.nodes ∧ ∀ es, partOf all r = .splits es →
            WorkList.after all r rest survivors = some ⟨es ++ rest, survivors⟩ ∧ nodesOfAll es < d.nodes := by
  obtain ⟨r, hr, rfl⟩ := map_eq_ok.1 h
  refine ⟨?_, fun all ds inverse hf => ?_⟩
  · rw [filterNodes, Draft.ofJson_toJson_of_reduce hr]
    exact Draft.nodes_reduce_le hr
  rw [hf, Draft.reduce_op] at hr
  obtain ⟨parts, hparts, rfl⟩ := map_eq_ok.1 hr
  have hnodes : filterNodes f = nodesOfAll ds + 1 := by rw [filterNodes, hf, Draft.nodes_op]
  obtain ⟨n, hends⟩ := WorkList.exists_ends hparts []
  have hkept : parts.map (([] : List Draft) ++ ·) = parts := by cases parts <;> simp
  rw [hkept] at hends
  refine ⟨⟨n, parts, hends, rfl, ?_⟩, fun m d rest survivors hpops => ?_⟩
  · have : n ≤ nodesOfAll ds := hends.le_nodes
    omega
  obtain ⟨k, hnext⟩ := hends.of_pops hpops
  obtain ⟨r, hr⟩ := hnext.exists_reduce
  have hle := Draft.nodes_reduce_le hr
  refine ⟨?_, r, hr, hle, fun es hsplits => ⟨?_, ?_⟩⟩
  · have hdone : nodesOfAll (d :: rest) + m ≤ nodesOfAll ds := hpops.nodes_le
    have := Draft.nodes_pos_of_reduce hr
    rw [Draft.nodesOfAll_cons] at hdone
    omega
  · rw [WorkList.after, hsplits]
  · have := Draft.nodes_of_splits hsplits
    omega

/-- The untidy filter has nine nodes, and the tidy one four. In place of the filter of four nodes that is looked at
second, two are put back that have one node each. -/
theorem reduceFilter_pops_untidyPeople : reduceFilter peopleColumns untidyPeople = .ok tidyPeople ∧
    filterNodes untidyPeople = 9 ∧ filterNodes tidyPeople = 4 ∧ filterNodes tidyPeople ≤ filterNodes untidyPeople ∧
    ∃ d rest, Draft.ofJson untidyPeople = .op true (.const true :: d :: rest) false ∧ d.nodes = 4 ∧
      (∃ n parts, WorkList.Ends peopleColumns true { pending := .const true :: d :: rest } n parts ∧
        tidyPeople = (assemble true parts).toJson ∧ n ≤ 9) ∧
      WorkList.Pops peopleColumns true { pending := .const true :: d :: rest } 1 ⟨d :: rest, []⟩ ∧
      ∃ r es, reduce peopleColumns d = .ok r ∧ WorkList.after true r rest [] = some ⟨es ++ rest, []⟩ ∧ es.length = 2 ∧
        nodesOfAll es < d.nodes := by
  have hnodes : filterNodes untidyPeople = 9 := by decide +kernel
  obtain ⟨hle, hwork⟩ := reduceFilter_pops reduceFilter_untidyPeople
  obtain ⟨d, rest, hf, hd, es, hr, hlength⟩ : ∃ d rest, Draft.ofJson untidyPeople =
      .op true (.const true :: d :: rest) false ∧ d.nodes = 4 ∧
        ∃ es, reduce peopleColumns d = .ok (.op false es true) ∧ es.length = 2 :=
    ⟨_, _, by with_unfolding_all rfl, by decide +kernel, _, by with_unfolding_all rfl, by with_unfolding_all rfl⟩
  obtain ⟨⟨n, parts, hends, hparts, hn⟩, hpopped⟩ := hwork _ _ _ hf
  have hpops : WorkList.Pops peopleColumns true { pending := .const true :: d :: rest } 1 ⟨d :: rest, []⟩ :=
    .next (Draft.reduce_const true) rfl (.refl _)
  obtain ⟨-, r, hr', -, hsplits⟩ := hpopped _ _ _ _ hpops
  cases hr.symm.trans hr'
  obtain ⟨hafter, hlt⟩ := hsplits _ rfl
  exact ⟨reduceFilter_untidyPeople, hnodes, by decide +kernel, hle, d, rest, hf, hd,
    ⟨n, parts, hends, hparts, hnodes ▸ hn⟩, hpops, _, _, hr, hafter, by rw [List.length_map, hlength], hlt⟩

end TableQuery
