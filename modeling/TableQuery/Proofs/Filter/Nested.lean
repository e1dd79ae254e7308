import TableQuery.Proofs.Filter.Together

/-!
# Nested operations

An operation in the same operation may be replaced by the filters in it, and an inverted one in the dual operation by
their opposites: both are reduced to the same filter, the parts in the same order (`reduceFilter_nested`).

The parts of an operation are reduced one after the other (`Draft.reducedParts_append`). Those of an operation in it are
reduced on their own first, and again when they are put in its place, which changes nothing more; so that operation has
the reduced parts of what it stands for (`Draft.reducedParts_operation`).
-/

set_option autoImplicit false

namespace TableQuery

namespace Draft

variable {s : ColumnSchemas} {all inverse : Bool} {d : Draft} {xs ys ds zs : List Draft} {parts : Option (List Draft)}

/-! ## Parts one after the other -/

/-- The parts of two lists are reduced one after the other, unless one of the first list decides. -/
theorem reducedParts_append (s : ColumnSchemas) (all : Bool) (xs ys : List Draft) :
    reducedParts s all (xs ++ ys) = (reducedParts s all xs).bind fun parts =>
      parts.elim (.ok none) fun ds => (reducedParts s all ys).map (Option.map (ds ++ ·)) := by
  refine reducedParts_induct (s := s) (fun all xs => reducedParts s all (xs ++ ys) =
    (reducedParts s all xs).bind fun parts =>
      parts.elim (.ok none) fun ds => (reducedParts s all ys).map (Option.map (ds ++ ·))) ?nil ?cons all xs
  case nil =>
    intro all
    rw [reducedParts_nil, List.nil_append]
    cases reducedParts s all ys with
    | error e => rfl
    | ok parts => cases parts <;> rfl
  case cons =>
    intro all d rest ihrest ihsplit
    rw [List.cons_append, reducedParts_cons, reducedParts_cons]
    cases hr : reduce s d with
    | error e => rfl
    | ok r =>
      show partsAfter s all (rest ++ ys) r = (partsAfter s all rest r).bind _
      cases hpart : partOf all r with
      | deciding => simp only [partsAfter, hpart]; rfl
      | neutral => simp only [partsAfter, hpart]; exact ihrest
      | splits ds =>
        simp only [partsAfter, hpart]
        rw [← List.append_assoc]
        exact ihsplit r ds hr hpart
      | stays =>
        simp only [partsAfter, hpart, ihrest]
        cases reducedParts s all rest with
        | error e => rfl
        | ok parts =>
          cases parts with
          | none => rfl
          | some es =>
            cases reducedParts s all ys with
            | error e => rfl
            | ok parts => cases parts <;> rfl

theorem exists_reducedParts_append (hxs : ∃ parts, reducedParts s all xs = .ok parts)
    (hys : ∃ parts, reducedParts s all ys = .ok parts) : ∃ parts, reducedParts s all (xs ++ ys) = .ok parts := by
  obtain ⟨parts, hxs⟩ := hxs
  obtain ⟨others, hys⟩ := hys
  rw [reducedParts_append, hxs]
  cases parts with
  | none => exact ⟨none, rfl⟩
  | some ds => exact ⟨others.map (ds ++ ·), by rw [Except.bind, Option.elim_some, hys]; rfl⟩

theorem reducedParts_append_congr (h : reducedParts s all ys = reducedParts s all ds) :
    reducedParts s all (xs ++ ys ++ zs) = reducedParts s all (xs ++ ds ++ zs) := by
  rw [reducedParts_append, reducedParts_append s all (xs ++ ds), reducedParts_append, reducedParts_append s all xs, h]

/-! ## Opposite parts -/

theorem partOf_inverted_of_stays (h : partOf all d = .stays) : partOf (!all) d.inverted = .stays := by
  cases d with
  | const value => cases value <;> cases all <;> simp [partOf] at h
  | op inner ds inverse => cases inner <;> cases inverse <;> cases all <;> simp_all [partOf, inverted]
  | leaf _ _ | bad _ => rfl

/-- The opposites of parts are reduced, in the dual operation, to the opposites of what the parts are reduced to. -/
theorem reducedParts_map_inverted (s : ColumnSchemas) : ∀ all ds, (∀ d ∈ ds, d.LeavesIn Told) →
    ∀ parts, reducedParts s all ds = .ok parts →
      reducedParts s (!all) (ds.map inverted) = .ok (parts.map (List.map inverted)) := by
  refine reducedParts_induct (s := s) _ ?nil ?cons
  case nil =>
    intro all _ parts hparts
    rw [reducedParts_nil] at hparts
    cases hparts
    exact reducedParts_nil
  case cons =>
    intro all d rest ihrest ihsplit hds parts hparts
    obtain ⟨hd, hrest⟩ := List.forall_mem_cons.1 hds
    obtain ⟨r, hr, hstep⟩ := reducedParts_cons_eq_ok.1 hparts
    have hreduced := isReduced_reduce (reducesTo_reversible s) hd hr
    have hopposite : reduce s d.inverted = .ok r.inverted := by
      have hagree := agree_reduce_inverted s hd
      rw [hr] at hagree
      obtain ⟨r', hr', rfl⟩ := hagree.exists_of_ok
      exact hr'
    refine reducedParts_cons_eq_ok.2 ⟨r.inverted, hopposite, ?_⟩
    rcases hstep with ⟨hpart, rfl⟩ | ⟨hpart, hparts⟩ | ⟨es, hpart, hparts⟩ | ⟨hpart, others, hothers, rfl⟩
    · rw [partOf_eq_deciding.1 hpart]
      exact Or.inl ⟨partOf_eq_deciding.2 rfl, rfl⟩
    · rw [partOf_eq_neutral.1 hpart]
      exact Or.inr (Or.inl ⟨partOf_eq_neutral.2 rfl, ihrest hrest parts hparts⟩)
    · have hes := hreduced.of_partOf (reducesTo_reversible s) hpart
      refine Or.inr (Or.inr (Or.inl ⟨es.map inverted, ?_, ?_⟩))
      · rcases partOf_eq_splits.1 hpart with rfl | ⟨es', rfl, rfl⟩
        · exact partOf_eq_splits.2 (Or.inr ⟨es, by rw [Bool.not_not]; rfl, rfl⟩)
        · -- What the part is made of is turned round twice.
          have hsame : (es'.map inverted).map inverted = es' := by
            rw [List.map_map]
            cases hreduced.built with
            | op _ _ _ hes' =>
              exact (List.map_congr_left fun e he => inverted_inverted (hes' e he)).trans (List.map_id es')
          exact partOf_eq_splits.2 (Or.inl (by rw [hsame]; rfl))
      · rw [← List.map_append]
        refine ihsplit r es hr hpart (List.forall_mem_append.2 ⟨fun e he => ?_, hrest⟩) parts hparts
        exact (hes e he).built.leavesIn.mono (reducesTo_reversible s).again
    · refine Or.inr (Or.inr (Or.inr ⟨partOf_inverted_of_stays hpart, _, ihrest hrest others hothers, ?_⟩))
      cases others <;> rfl

/-! ## Operations in operations -/

theorem map_invertedIf_false (ds : List Draft) : ds.map (invertedIf false) = ds :=
  List.map_id ds

/-- An operation stands for its parts in the same operation, and for their opposites in the dual one if it is
inverted. -/
theorem partOf_operation (all inverse : Bool) (ds : List Draft) :
    partOf all (op (all != inverse) ds inverse) = .splits (ds.map (invertedIf inverse)) := by
  cases inverse with
  | false =>
    rw [map_invertedIf_false]
    cases all <;> rfl
  | true => cases all <;> rfl

/-- An operation in the same operation, or an inverted one in the dual operation, has the reduced parts of what it
stands for. -/
theorem reducedParts_operation (hflat : ∀ d ∈ ds, d.LeavesIn Flat)
    (h : reducedParts s (all != inverse) ds = .ok parts) :
    reducedParts s all [op (all != inverse) ds inverse] = .ok (parts.map (List.map (invertedIf inverse))) := by
  have hnormal := (isReduced_reduce_and_parts (reducesTo_fixed s)).2 _ ds hflat parts h
  have hagain (es : List Draft) (hes : parts = some es) :
      ∀ e ∈ es.map (invertedIf inverse), reduce s e = .ok e ∧ partOf all e = .stays := by
    refine List.forall_mem_map.2 fun e he => ?_
    obtain ⟨he, hstays⟩ := hnormal es hes e he
    cases inverse with
    | false => exact ⟨he.reduce_eq, by rwa [Bool.bne_false] at hstays⟩
    | true =>
      refine ⟨(he.inverted (reducesTo_fixed s)).reduce_eq, ?_⟩
      have hopposite := partOf_inverted_of_stays hstays
      rwa [Bool.bne_true, Bool.not_not] at hopposite
  have hreduced : reduce s (op (all != inverse) ds inverse) =
      .ok ((assemble (all != inverse) parts).invertedIf inverse) := by
    rw [reduce_op, h]
    rfl
  rw [reducedParts_cons, hreduced]
  show partsAfter s all [] _ = _
  match parts, hagain with
  | none, _ => cases all <;> cases inverse <;> rfl
  | some [], _ => cases all <;> cases inverse <;> exact reducedParts_nil
  | some [e], hagain =>
    obtain ⟨-, hstays⟩ := hagain [e] rfl _ List.mem_cons_self
    simp only [partsAfter, assemble, hstays, reducedParts_nil]
    rfl
  | some (e :: e' :: es), hagain =>
    have hwhole : (assemble (all != inverse) (some (e :: e' :: es))).invertedIf inverse =
        op (all != inverse) (e :: e' :: es) inverse := by cases inverse <;> rfl
    rw [hwhole, partsAfter, partOf_operation]
    dsimp only
    rw [List.append_nil]
    exact reducedParts_of_stays (hagain _ rfl)

/-- What an operation among others stands for can be put in its place. -/
theorem exists_reducedParts_nested (inverse : Bool) (hxs : ∃ parts, reducedParts s all xs = .ok parts)
    (hzs : ∃ parts, reducedParts s all zs = .ok parts) (hflat : ∀ d ∈ ds, d.LeavesIn Flat)
    (htold : inverse = true → ∀ d ∈ ds, d.LeavesIn Told) (h : ∃ parts, reducedParts s (all != inverse) ds = .ok parts) :
    ∃ parts, reducedParts s all (xs ++ [op (all != inverse) ds inverse] ++ zs) = .ok parts ∧
      reducedParts s all (xs ++ ds.map (invertedIf inverse) ++ zs) = .ok parts := by
  obtain ⟨inner, h⟩ := h
  have hnested := reducedParts_operation hflat h
  have hplaced :
      reducedParts s all (ds.map (invertedIf inverse)) = .ok (inner.map (List.map (invertedIf inverse))) := by
    cases inverse with
    | false =>
      rw [Bool.bne_false] at h
      rw [map_invertedIf_false, h]
      cases inner with
      | none => rfl
      | some es => exact congrArg (fun es => Except.ok (some es)) (map_invertedIf_false es).symm
    | true =>
      have hopposite := reducedParts_map_inverted s _ ds (htold rfl) inner h
      rwa [Bool.bne_true, Bool.not_not] at hopposite
  obtain ⟨parts, hparts⟩ := exists_reducedParts_append (exists_reducedParts_append hxs ⟨_, hplaced⟩) hzs
  exact ⟨parts, (reducedParts_append_congr (hnested.trans hplaced.symm)).trans hparts, hparts⟩

end Draft

/-! ## Operations as they are written -/

/-- The operation on filters that asks for all of them, or for some of them, inverted or not. -/
def operation (all : Bool) (filters : List Json) (inverse : Bool) : Json :=
  .obj ([("type", .str "op"), ("op", .str (operationSymbol all)), ("val", .arr filters)] ++
    if inverse then [("inv", .bool true)] else [])

theorem Draft.ofJson_operation (all : Bool) (filters : List Json) (inverse : Bool) :
    ofJson (operation all filters inverse) = .op all (filters.map ofJson) inverse := by
  have hinverse : inverse = Fields.isInverted ([("type", .str "op"), ("op", .str (operationSymbol all)),
      ("val", .arr filters)] ++ if inverse then [("inv", .bool true)] else []) := by cases inverse <;> rfl
  conv_rhs => rw [hinverse]
  exact ofJson_op (by cases inverse <;> rfl) (by cases inverse <;> cases all <;> rfl) (by cases inverse <;> rfl)

section Written

variable {s : ColumnSchemas} {f g : Json}

theorem eq_const_or_obj_of_reduced (h : reduceFilter s f = .ok g) :
    (∃ value, f = .str (constText value)) ∨ ∃ fields, f = .obj fields := by
  obtain ⟨r, hr, -⟩ := map_eq_ok.1 h
  cases f with
  | str text =>
    rw [Draft.ofJson] at hr
    split at hr
    next htext => exact Or.inl ⟨true, congrArg Json.str (beq_iff_eq.1 htext)⟩
    split at hr
    next htext => exact Or.inl ⟨false, congrArg Json.str (beq_iff_eq.1 htext)⟩
    · rw [Draft.reduce_bad] at hr
      cases hr
  | obj fields => exact Or.inr ⟨fields, rfl⟩
  | _ => simp [Draft.ofJson, Draft.reduce_bad] at hr

theorem exists_opposite (h : reduceFilter s f = .ok g) :
    ∃ f', invertFilter f = .ok f' ∧ Draft.ofJson f' = (Draft.ofJson f).inverted := by
  rcases eq_const_or_obj_of_reduced h with ⟨value, rfl⟩ | ⟨fields, rfl⟩
  · refine ⟨.str (constText !value), by cases value <;> rfl, ?_⟩
    rw [Draft.ofJson_constText, Draft.ofJson_constText]
    rfl
  · refine ⟨.obj (Fields.inverted fields), rfl, ?_⟩
    rcases Draft.ofJson_inverted fields with hdraft | ⟨b, c, hb, -⟩
    · exact hdraft
    · -- A filter that is no good cannot be reduced.
      obtain ⟨r, hr, -⟩ := map_eq_ok.1 h
      rw [hb, Draft.reduce_bad] at hr
      cases hr

theorem exists_opposites (ys : List Json) (h : ∀ f ∈ ys, ∃ g, reduceFilter s f = .ok g) :
    ∃ ys', ys.mapM invertFilter = .ok ys' ∧ ys'.map Draft.ofJson = (ys.map Draft.ofJson).map Draft.inverted := by
  obtain ⟨ys', hys'⟩ := exists_mapM (f := invertFilter) fun f hf => by
    obtain ⟨g, hg⟩ := h f hf
    obtain ⟨f', hf', -⟩ := exists_opposite hg
    exact ⟨f', hf'⟩
  refine ⟨ys', hys', ?_⟩
  rw [List.map_map]
  refine map_of_mapM (fun f hf f' hf' => ?_) hys'
  obtain ⟨g, hg⟩ := h f hf
  obtain ⟨f'', hf'', hdraft⟩ := exists_opposite hg
  rw [hf'] at hf''
  cases hf''
  exact hdraft

/-- An operation is reduced by reducing its parts. -/
theorem reduceFilter_operation (s : ColumnSchemas) (all : Bool) (filters : List Json) (inverse : Bool) :
    reduceFilter s (operation all filters inverse) =
      (Draft.reducedParts s all (filters.map Draft.ofJson)).map fun parts =>
        ((Draft.assemble all parts).invertedIf inverse).toJson := by
  rw [reduceFilter, Draft.ofJson_operation, Draft.reduce_op]
  cases Draft.reducedParts s all (filters.map Draft.ofJson) <;> rfl

/-- An operation among other filters, and in its place the filters in it or, if it is inverted, their opposites, are
reduced to the same filter. -/
theorem exists_reduced_nested (all invert inverse : Bool) {xs ys zs placed : List Json}
    (hflat : ∀ f ∈ xs ++ ys ++ zs, (Draft.ofJson f).LeavesIn Draft.Flat)
    (htold : invert = true → ∀ f ∈ ys, (Draft.ofJson f).LeavesIn Draft.Told)
    (h : ∀ f ∈ xs ++ ys ++ zs, ∃ g, reduceFilter s f = .ok g)
    (hplaced : placed.map Draft.ofJson = (ys.map Draft.ofJson).map (Draft.invertedIf invert)) :
    ∃ g, reduceFilter s (operation all (xs ++ [operation (all != invert) ys invert] ++ zs) inverse) = .ok g ∧
      reduceFilter s (operation all (xs ++ placed ++ zs) inverse) = .ok g := by
  have hparts (all : Bool) (fs : List Json) (hfs : fs ⊆ xs ++ ys ++ zs) :
      ∃ parts, Draft.reducedParts s all (fs.map Draft.ofJson) = .ok parts := by
    refine Draft.reducedParts_succeed s all _ (List.forall_mem_map.2 fun f hf => ⟨hflat f (hfs hf), ?_⟩)
    obtain ⟨g, hg⟩ := h f (hfs hf)
    obtain ⟨r, hr, -⟩ := map_eq_ok.1 hg
    exact ⟨r, hr⟩
  obtain ⟨parts, hnested, hflattened⟩ := Draft.exists_reducedParts_nested invert (hparts all xs (by simp))
    (hparts all zs (by simp)) (List.forall_mem_map.2 fun f hf => hflat f (by simp [hf]))
    (fun hinvert => List.forall_mem_map.2 (htold hinvert)) (hparts _ ys (by simp))
  rw [reduceFilter_operation, reduceFilter_operation]
  simp only [List.map_append, List.map_cons, List.map_nil, Draft.ofJson_operation, hplaced, hnested, hflattened]
  exact ⟨_, rfl, rfl⟩

/-- **Nesting does not matter**, where no list of values contains a list and every leaf tells whether it is inverted.
Among filters that can be reduced, an operation in the same operation is replaced by its filters, and an inverted one in
the dual operation by their opposites, in the same order: both are reduced to the same filter. -/
theorem reduceFilter_nested (s : ColumnSchemas) (all inverse : Bool) {xs ys zs : List Json}
    (hflat : ∀ f ∈ xs ++ ys ++ zs, (Draft.ofJson f).LeavesIn Draft.Flat)
    (htold : ∀ f ∈ ys, (Draft.ofJson f).LeavesIn Draft.Told)
    (h : ∀ f ∈ xs ++ ys ++ zs, ∃ g, reduceFilter s f = .ok g) :
    ∃ opposites, ys.mapM invertFilter = .ok opposites ∧
      (∃ g, reduceFilter s (operation all (xs ++ [operation all ys false] ++ zs) inverse) = .ok g ∧
        reduceFilter s (operation all (xs ++ ys ++ zs) inverse) = .ok g) ∧
      ∃ g, reduceFilter s (operation all (xs ++ [operation (!all) ys true] ++ zs) inverse) = .ok g ∧
        reduceFilter s (operation all (xs ++ opposites ++ zs) inverse) = .ok g := by
  obtain ⟨opposites, hopposites, hdrafts⟩ := exists_opposites ys fun f hf => h f (by simp [hf])
  have hsame := exists_reduced_nested all false inverse hflat nofun h (Draft.map_invertedIf_false _).symm
  have hdual := exists_reduced_nested all true inverse hflat (fun _ => htold) h hdrafts
  rw [Bool.bne_false] at hsame
  rw [Bool.bne_true] at hdual
  exact ⟨opposites, hopposites, hsame, hdual⟩

/-- The filter for people called Ann, or for all others. -/
def calledAnn (inverse : Bool) : Json :=
  .obj ([("type", .str "column"), ("column", .str "name"), ("op", .str "="), ("val", .str "Ann")] ++
    if inverse then [("inv", .bool true)] else [])

/-- The filter for people without a status, or with one. -/
def withoutStatus (inverse : Bool) : Json :=
  .obj ([("type", .str "column"), ("column", .str "status"), ("op", .str "null")] ++
    if inverse then [("inv", .bool true)] else [])

/-- Tagged people of whom it is not true that they are called Ann or have no status are tagged people who are not called
Ann and have one. -/
theorem reduceFilter_nested_taggedPeople :
    reduceFilter peopleColumns (operation true
        ([taggedPeople] ++ [operation false [calledAnn false, withoutStatus false] true] ++ [.str "always"]) false) =
      .ok (operation true [taggedPeople, calledAnn true, withoutStatus true] false) := by
  have hflat : ∀ f ∈ [taggedPeople] ++ [calledAnn false, withoutStatus false] ++ [.str "always"],
      ∀ l ∈ (Draft.ofJson f).leaves, Draft.Flat l.1 l.2 := by decide +kernel
  have htold : ∀ f ∈ [calledAnn false, withoutStatus false],
      ∀ l ∈ (Draft.ofJson f).leaves, Draft.Told l.1 l.2 := by decide +kernel
  have hreduced : ∀ f ∈ [taggedPeople] ++ [calledAnn false, withoutStatus false] ++ [.str "always"],
      ∃ g, reduceFilter peopleColumns f = .ok g := by
    simp only [List.cons_append, List.nil_append, List.forall_mem_cons, List.not_mem_nil, false_imp_iff, implies_true,
      and_true]
    refine ⟨⟨taggedPeople, ?_⟩, ⟨calledAnn false, ?_⟩, ⟨withoutStatus false, ?_⟩, ⟨.str "always", ?_⟩⟩ <;>
      with_unfolding_all rfl
  obtain ⟨opposites, hopposites, -, g, hnested, hplaced⟩ :=
    reduceFilter_nested peopleColumns true false hflat htold hreduced
  have hturned : [calledAnn false, withoutStatus false].mapM invertFilter =
      .ok [calledAnn true, withoutStatus true] := rfl
  rw [hturned] at hopposites
  cases hopposites
  have hreducedTo : reduceFilter peopleColumns
      (operation true ([taggedPeople] ++ [calledAnn true, withoutStatus true] ++ [.str "always"]) false) =
        .ok (operation true [taggedPeople, calledAnn true, withoutStatus true] false) := by with_unfolding_all rfl
  exact hnested.trans (hplaced.symm.trans hreducedTo)

end Written

end TableQuery
