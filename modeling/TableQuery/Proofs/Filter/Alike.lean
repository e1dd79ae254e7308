import Mathlib.Data.List.Nodup
import TableQuery.Proofs.Filter.Written
import TableQuery.Proofs.Json.Same

/-!
# Reduction of filters that are alike

Filters that are the same as values need not be equal: the fields of an object may stand in another order, and `true`
may stand for one. They are reduced to filters that are the same again (`Json.Alike.reduceFilter`), because nothing
that reduction looks at tells them apart.
-/

set_option autoImplicit false

namespace TableQuery

/-! ## Fields -/

namespace Fields

variable {fields xs ys : Fields} {k : String}

theorem nodup_erase (h : fields.keys.Nodup) (k : String) : (fields.erase k).keys.Nodup :=
  (List.filter_sublist.map _).nodup h

theorem nodup_set (h : fields.keys.Nodup) (k : String) (v : Json) : (fields.set k v).keys.Nodup := by
  unfold set
  split
  · have hkeys : keys (fields.map fun p => if p.1 == k then (k, v) else p) = fields.keys := by
      rw [keys, keys, List.map_map]
      refine List.map_congr_left fun p _ => ?_
      rw [Function.comp_apply]
      split
      next hp => exact (beq_iff_eq.1 hp).symm
      next => rfl
    rwa [hkeys]
  next hnew =>
    rw [keys, List.map_append, List.nodup_append]
    refine ⟨h, List.nodup_singleton _, fun a ha b hb heq => hnew ?_⟩
    rw [List.map_singleton, List.mem_singleton] at hb
    obtain ⟨p, hp, rfl⟩ := List.mem_map.1 ha
    exact List.any_eq_true.2 ⟨p, hp, beq_iff_eq.2 (heq.trans hb)⟩

theorem keys_select_sublist (fields : Fields) (keys : List String) : (fields.select keys).keys.Sublist keys := by
  induction keys with
  | nil => exact .slnil
  | cons k keys ih =>
    rw [select, List.filterMap_cons]
    cases fields.lookup k with
    | none => exact ih.cons k
    | some v => exact ih.cons_cons k

variable (h : (Json.obj xs).Alike (.obj ys))

include h

theorem isInverted_alike : xs.isInverted = ys.isInverted :=
  (h.value "inv").truthy

theorem alike_erase (k : String) : (Json.obj (xs.erase k)).Alike (.obj (ys.erase k)) := by
  obtain ⟨hx, hy, hrel⟩ := Json.Alike.obj_iff.1 h
  refine Json.Alike.obj_iff.2 ⟨nodup_erase hx k, nodup_erase hy k, fun k' => ?_⟩
  by_cases hk : k' = k
  · rw [hk, lookup_erase_self, lookup_erase_self]
    exact .none
  · rw [lookup_erase_ne hk, lookup_erase_ne hk]
    exact hrel k'

theorem alike_set (k : String) {v w : Json} (hvw : v.Alike w) :
    (Json.obj (xs.set k v)).Alike (.obj (ys.set k w)) := by
  obtain ⟨hx, hy, hrel⟩ := Json.Alike.obj_iff.1 h
  refine Json.Alike.obj_iff.2 ⟨nodup_set hx k v, nodup_set hy k w, fun k' => ?_⟩
  by_cases hk : k' = k
  · rw [hk, lookup_set_self, lookup_set_self]
    exact .some hvw
  · rw [lookup_set_ne hk, lookup_set_ne hk]
    exact hrel k'

theorem alike_select {keys : List String} (hkeys : keys.Nodup) :
    (Json.obj (xs.select keys)).Alike (.obj (ys.select keys)) := by
  refine Json.Alike.obj_iff.2 ⟨(keys_select_sublist xs keys).nodup hkeys, (keys_select_sublist ys keys).nodup hkeys,
    fun k => ?_⟩
  by_cases hk : k ∈ keys
  · rw [lookup_select hk, lookup_select hk]
    exact (Json.Alike.obj_iff.1 h).2.2 k
  · rw [lookup_select_of_notMem hk, lookup_select_of_notMem hk]
    exact .none

theorem alike_inverted : (Json.obj xs.inverted).Alike (.obj ys.inverted) := by
  rw [inverted, inverted, isInverted_alike h]
  split
  · exact alike_erase h "inv"
  · exact alike_set h "inv" (.refl (.bool true))

theorem alike_tidy : (Json.obj xs.tidy).Alike (.obj ys.tidy) := by
  rw [tidy, tidy, isInverted_alike h]
  split
  · exact h
  · exact alike_erase h "inv"

end Fields

/-! ## Drafts -/

namespace Draft

/-- Drafts that are built alike, of leaves with fields that are alike. -/
inductive Alike : Draft → Draft → Prop
  | const (value : Bool) : Alike (const value) (const value)
  | bad (b c : BadFilter) : Alike (bad b) (bad c)
  | leaf (kind : LeafKind) {xs ys : Fields} : (Json.obj xs).Alike (.obj ys) → Alike (leaf kind xs) (leaf kind ys)
  | op (all inverse : Bool) {ds es : List Draft} :
    List.Forall₂ Alike ds es → Alike (op all ds inverse) (op all es inverse)

theorem Alike.inverted {d e : Draft} (h : Alike d e) : Alike d.inverted e.inverted := by
  cases h with
  | const value => exact .const _
  | bad b c => exact .bad b c
  | leaf kind h => exact .leaf kind (Fields.alike_inverted h)
  | op all inverse h => exact .op all _ h

theorem Alike.invertedIf {d e : Draft} (h : Alike d e) (invert : Bool) :
    Alike (d.invertedIf invert) (e.invertedIf invert) := by
  cases invert with
  | false => exact h
  | true => exact h.inverted

theorem forall₂_map_inverted {ds es : List Draft} (h : List.Forall₂ Alike ds es) :
    List.Forall₂ Alike (ds.map Draft.inverted) (es.map Draft.inverted) :=
  List.forall₂_map_left_iff.2 (List.forall₂_map_right_iff.2 (h.imp fun _ _ h => h.inverted))

theorem alike_ofJson {a : Json} : ∀ {b : Json}, a.Alike b → Alike (ofJson a) (ofJson b) := by
  induction a using Json.filter_induct with
  | other a ha =>
    intro b h
    rcases h.kinds with ⟨s, rfl, rfl⟩ | ⟨xs, ys, rfl, rfl, -⟩ | ⟨xs, ys, rfl, rfl⟩ | ⟨hac, hbc, has, hbs⟩
    · rw [ofJson]
      split
      · exact .const true
      split
      · exact .const false
      · exact .bad _ _
    · exact .bad _ _
    · cases ha
    · cases a <;> cases hac <;> cases has <;> cases b <;> cases hbc <;> cases hbs <;> exact .bad _ _
  | obj xs ih =>
    intro b h
    obtain ⟨ys, rfl, -⟩ := Json.same_obj.1 h.same
    have htype := h.value "type"
    have hval := (Json.Alike.obj_iff.1 h).2.2 "val"
    have hparts : Option.Rel (List.Forall₂ Alike) (partsOf xs) (partsOf ys) := by
      rw [partsOf_eq, partsOf_eq]
      revert hval
      cases hx : xs.lookup "val" with
      | none =>
        cases ys.lookup "val" with
        | none => exact fun _ => .none
        | some w => rintro (_ | _)
      | some v =>
        cases ys.lookup "val" with
        | none => rintro (_ | _)
        | some w =>
          rintro (hvw | _)
          rcases hvw.kinds with ⟨s, rfl, rfl⟩ | ⟨js, ks, rfl, rfl, hitems⟩ | ⟨_, _, rfl, rfl⟩ | ⟨hv, hw, -, -⟩
          · exact .none
          · refine .some ?_
            rw [ofItems_eq_map, ofItems_eq_map, List.forall₂_map_left_iff, List.forall₂_map_right_iff]
            have hall : ∀ j ∈ js, ∀ k, j.Alike k → Alike (ofJson j) (ofJson k) := fun j hj k => ih js hx j hj
            exact ((List.forall₂_and_left js ks).2 ⟨hall, hitems⟩).imp fun _ k h => h.1 k h.2
          · exact .none
          · cases v <;> cases hv <;> cases w <;> cases hw <;> exact .none
    rw [ofJson, ofJson]
    simp only [htype.isText]
    split
    · rw [ofConst, ofConst, const?, const?, (h.value "val").isText, (h.value "val").isText, Fields.isInverted_alike h]
      split
      · exact .const _
      · exact .bad _ _
    split
    · unfold ofOperation
      simp only [(h.value "op").isText, Fields.isInverted_alike h]
      split
      · revert hparts
        generalize partsOf xs = ds
        generalize partsOf ys = es
        rintro (hds | _)
        · exact .op _ _ hds
        · exact .bad _ _
      · exact .bad _ _
    split
    · exact .leaf .column h
    split
    · exact .leaf .custom h
    split
    · exact .leaf .global h
    · exact .bad _ _

end Draft

/-! ## Leaves -/

/-- Filters without parts that are alike. -/
def Simple.Alike (r r' : Simple) : Prop :=
  Draft.Alike r.toDraft r'.toDraft

namespace Simple.Alike

variable {r r' : Simple} {xs ys : Fields}

theorem const (value : Bool) : Simple.Alike (.const value) (.const value) :=
  Draft.Alike.const value

theorem leaf (kind : LeafKind) (h : (Json.obj xs).Alike (.obj ys)) : Simple.Alike (.leaf kind xs) (.leaf kind ys) :=
  Draft.Alike.leaf kind h

theorem cases (h : r.Alike r') : (∃ value, r = .const value ∧ r' = .const value) ∨
    ∃ kind xs ys, r = .leaf kind xs ∧ r' = .leaf kind ys ∧ (Json.obj xs).Alike (.obj ys) := by
  cases r with
  | const value =>
    cases r' with
    | const value' =>
      cases h
      exact Or.inl ⟨_, rfl, rfl⟩
    | leaf kind fields => cases h
  | leaf kind xs =>
    cases r' with
    | const value => cases h
    | leaf kind' ys =>
      cases h with
      | leaf _ h => exact Or.inr ⟨_, _, _, rfl, rfl, h⟩

theorem invertedIf (h : r.Alike r') (invert : Bool) : (r.invertedIf invert).Alike (r'.invertedIf invert) := by
  rcases h.cases with ⟨value, rfl, rfl⟩ | ⟨kind, xs, ys, rfl, rfl, hfields⟩
  · exact .const _
  · cases invert with
    | false => exact h
    | true => exact .leaf kind (Fields.alike_inverted hfields)

theorem stripped (h : r.Alike r') : r.stripped.Alike r'.stripped := by
  rcases h.cases with ⟨value, rfl, rfl⟩ | ⟨kind, xs, ys, rfl, rfl, hfields⟩
  · exact .const _
  · exact .leaf kind (Fields.alike_tidy (Fields.alike_select hfields (by cases kind <;> decide)))

end Simple.Alike

namespace ColumnFilter

variable (column : Fields) {xs ys : Fields}

theorem alike_make {name name' : Json} (hname : name.Alike name') (op : String) {value value' : Option Json}
    (hvalue : Option.Rel Json.Alike value value') : (make name op value).Alike (make name' op value') := by
  refine .leaf .column ?_
  cases hvalue with
  | none =>
    exact .of_forall₂ (by simp [Fields.keys]) (.cons ⟨rfl, .str _⟩ (.cons ⟨rfl, hname⟩ (.cons ⟨rfl, .str _⟩ .nil)))
  | some hvalue =>
    exact .of_forall₂ (by simp [Fields.keys])
      (.cons ⟨rfl, .str _⟩ (.cons ⟨rfl, hname⟩ (.cons ⟨rfl, .str _⟩ (.cons ⟨rfl, hvalue⟩ .nil))))

theorem alike_nullFilter {name name' : Json} (hname : name.Alike name') :
    (nullFilter column name).Alike (nullFilter column name') := by
  unfold nullFilter
  split
  · exact alike_make hname _ .none
  · exact .const _

/-! ### Values of lists -/

section Values

variable {vs ws seen seen' : List Json}

theorem any_same_alike {v w : Json} (hvw : v.Alike w) (h : List.Forall₂ Json.Alike seen seen') :
    seen.any (·.same v) = seen'.any (·.same w) := by
  induction h with
  | nil => rfl
  | cons hab _ ih => rw [List.any_cons, List.any_cons, ih, hab.same_left, hvw.same_right]

theorem alike_unique (h : List.Forall₂ Json.Alike vs ws) : ∀ {seen seen' : List Json},
    List.Forall₂ Json.Alike seen seen' → List.Forall₂ Json.Alike (unique seen vs) (unique seen' ws) := by
  induction h with
  | nil => exact fun _ => .nil
  | cons hvw _ ih =>
    intro seen seen' hseen
    rw [unique, unique, any_same_alike hvw hseen]
    split
    · exact ih hseen
    · exact .cons hvw (ih (List.rel_append hseen (.cons hvw .nil)))

theorem mapM_str?_alike (h : List.Forall₂ Json.Alike vs ws) : vs.mapM Json.str? = ws.mapM Json.str? := by
  induction h with
  | nil => rfl
  | cons hvw _ ih => rw [List.mapM_cons, List.mapM_cons, hvw.str?, ih]

theorem alike_texts (texts : List String) : List.Forall₂ Json.Alike (texts.map .str) (texts.map .str) :=
  List.forall₂_same.2 (List.forall_mem_map.2 fun s _ => .str s)

theorem alike_cleaned (h : List.Forall₂ Json.Alike vs ws) :
    List.Forall₂ Json.Alike (cleaned vs).1 (cleaned ws).1 ∧ (cleaned vs).2 = (cleaned ws).2 := by
  have hunique := alike_unique h .nil
  unfold cleaned
  dsimp only
  rw [mapM_str?_alike hunique]
  split
  · exact ⟨alike_texts _, rfl⟩
  · exact ⟨hunique, rfl⟩

end Values

/-! ### Filters on a column -/

section Column

variable (h : (Json.obj xs).Alike (.obj ys))

include h

theorem hasOp_alike (symbols : List String) : hasOp xs symbols = hasOp ys symbols := by
  unfold hasOp
  exact congrArg symbols.any (funext (h.value "op").isText)

theorem alike_reduceList {vs ws : List Json} (hvalues : List.Forall₂ Json.Alike vs ws) :
    Option.Rel Simple.Alike (reduceList column xs vs) (reduceList column ys ws) := by
  have hname := h.value "column"
  obtain ⟨hcleaned, hdropped⟩ := alike_cleaned hvalues
  unfold reduceList
  dsimp only
  simp only [hasOp_alike h, hdropped]
  generalize (cleaned vs).1 = vs' at hcleaned
  generalize (cleaned ws).1 = ws' at hcleaned
  have hempty : vs'.isEmpty = ws'.isEmpty := by
    cases hcleaned <;> rfl
  have hlist : (Json.arr vs').Alike (.arr ws') := Json.Alike.arr_iff.2 hcleaned
  rw [hempty]
  split
  · refine .some ?_
    rcases hcleaned with _ | ⟨hv, _ | _⟩
    · exact .const _
    · exact alike_make hname _ (.some hv)
    · exact alike_make hname _ (.some hlist)
  split
  · refine .some ?_
    split
    · exact .const _
    split
    · exact alike_nullFilter column hname
    · exact alike_make hname _ (.some hlist)
  split
  · refine .some ?_
    split
    · exact .const _
    rcases hcleaned with _ | ⟨hv, _ | _⟩
    · exact .const _
    · exact alike_make hname _ (.some hv)
    · exact alike_make hname _ (.some hlist)
  split
  · refine .some ?_
    rcases hcleaned with _ | ⟨hv, _ | _⟩
    · exact .const _
    · exact alike_make hname _ (.some hv)
    · exact alike_make hname _ (.some hlist)
  split
  · refine .some ?_
    split
    · exact alike_nullFilter column hname
    · exact alike_make hname _ (.some hlist)
  · exact .none

theorem alike_reduceEmpty : Option.Rel Simple.Alike (reduceEmpty column xs) (reduceEmpty column ys) := by
  have hmissing := alike_nullFilter column (h.value "column")
  unfold reduceEmpty
  dsimp only
  simp only [hasOp_alike h]
  split
  · exact .some hmissing
  split
  · exact .some (hmissing.invertedIf true)
  split
  · exact .some (.const true)
  split
  · exact .some (.const false)
  · exact .none

theorem alike_reduceOn : Agree (Option.Rel Simple.Alike) (reduceOn column xs) (reduceOn column ys) := by
  have hval := h.value "val"
  unfold reduceOn
  simp only [hasOp_alike h]
  split
  · split
    · exact .ok .none
    · exact .ok (.some (.const false))
  · revert hval
    generalize xs.value "val" = v
    generalize ys.value "val" = w
    intro hval
    rcases hval.kinds with ⟨s, rfl, rfl⟩ | ⟨vs, ws, rfl, rfl, hitems⟩ | ⟨_, _, rfl, rfl⟩ | ⟨hv, hw, hvs, hws⟩
    · dsimp only
      split
      · have hempty := alike_reduceEmpty column h
        revert hempty
        generalize reduceEmpty column xs = r
        generalize reduceEmpty column ys = r'
        rintro (hr | _)
        · exact .ok (.some hr)
        · exact .error _ _
      split
      · exact .ok (.some (.const false))
      · exact .ok .none
    · have hlist := alike_reduceList column h hitems
      dsimp only
      revert hlist
      generalize reduceList column xs vs = r
      generalize reduceList column ys ws = r'
      rintro (hr | _)
      · exact .ok (.some hr)
      · exact .error _ _
    · exact .ok .none
    · cases v <;> cases hv <;> cases hvs <;> cases w <;> cases hw <;> cases hws <;> exact .ok .none

end Column

theorem alike_reduce (s : ColumnSchemas) (h : (Json.obj xs).Alike (.obj ys)) :
    Agree Simple.Alike (ColumnFilter.reduce s xs) (ColumnFilter.reduce s ys) := by
  have hname := h.value "column"
  have hfind : s.find? (xs.value "column") = s.find? (ys.value "column") := by
    unfold ColumnSchemas.find?
    simp only [hname.same_right]
  unfold ColumnFilter.reduce
  simp only [hname.isContainer, hfind, Fields.isInverted_alike h]
  split
  · exact .error _ _
  split
  · exact .error _ _
  next column _ =>
    have hon := alike_reduceOn column h
    revert hon
    generalize reduceOn column xs = r
    generalize reduceOn column ys = r'
    rintro (_ | hr)
    · exact .error _ _
    · cases hr with
      | none => exact .ok (.leaf .column h)
      | some hr => exact .ok (hr.invertedIf _)

end ColumnFilter

theorem alike_reduceLeaf (s : ColumnSchemas) (kind : LeafKind) {xs ys : Fields} (h : (Json.obj xs).Alike (.obj ys)) :
    Agree Simple.Alike (reduceLeaf s kind xs) (reduceLeaf s kind ys) := by
  cases kind with
  | column => exact (ColumnFilter.alike_reduce s h).map Simple.Alike.stripped
  | custom => exact .ok (Simple.Alike.leaf .custom h).stripped
  | global =>
    refine Agree.map (R := Simple.Alike) ?_ Simple.Alike.stripped
    have hval := h.value "val"
    unfold reduceGlobal
    rw [Fields.isInverted_alike h]
    split
    next text hx =>
      rw [hx] at hval
      rw [Json.same_str.1 hval.same]
      dsimp only
      split
      · exact .ok ((Simple.Alike.const true).invertedIf _)
      · exact .ok (.leaf .global h)
    next hx =>
      split
      next text hy =>
        rw [hy] at hval
        exact absurd (Json.same_str.1 hval.symm.same) (hx text)
      next => exact .error _ _

/-! ## Reduction -/

namespace Draft

variable {s : ColumnSchemas}

theorem alike_assemble (all : Bool) {ps qs : Option (List Draft)} (h : Option.Rel (List.Forall₂ Alike) ps qs) :
    Alike (assemble all ps) (assemble all qs) := by
  rcases h with hds | _
  · rcases hds with _ | ⟨hd, _ | ⟨he, hds⟩⟩
    · exact .const _
    · exact hd
    · exact .op all false (.cons hd (.cons he hds))
  · exact .const _

/-- Reduced drafts that are alike are the same to an operation. -/
inductive Part.Alike : Part → Part → Prop
  | deciding : Part.Alike .deciding .deciding
  | neutral : Part.Alike .neutral .neutral
  | splits {ds es : List Draft} : List.Forall₂ Draft.Alike ds es → Part.Alike (.splits ds) (.splits es)
  | stays : Part.Alike .stays .stays

theorem alike_partOf (all : Bool) {d e : Draft} (h : Alike d e) : (partOf all d).Alike (partOf all e) := by
  cases h with
  | const value =>
    unfold partOf
    dsimp only
    split
    · exact .neutral
    · exact .deciding
  | bad b c => exact .stays
  | leaf kind h => exact .stays
  | op inner inverse hds =>
    unfold partOf
    dsimp only
    split
    · exact .splits hds
    split
    · exact .splits (forall₂_map_inverted hds)
    · exact .stays

theorem agree_reduce_and_parts (s : ColumnSchemas) :
    (∀ d e, Alike d e → Agree Alike (reduce s d) (reduce s e)) ∧ ∀ all ds es, List.Forall₂ Alike ds es →
      Agree (Option.Rel (List.Forall₂ Alike)) (reducedParts s all ds) (reducedParts s all es) := by
  refine reduce_induct (s := s) _ _ ?const ?bad ?leaf ?op ?nil ?cons
  case const =>
    intro value e h
    cases h with
    | const =>
      rw [reduce_const]
      exact .ok (.const value)
  case bad =>
    intro b e h
    cases h with
    | bad _ c =>
      rw [reduce_bad, reduce_bad]
      exact .error _ _
  case leaf =>
    intro kind xs e h
    cases h with
    | leaf _ h =>
      rw [reduce_leaf, reduce_leaf]
      exact (alike_reduceLeaf s kind h).map id
  case op =>
    intro all ds inverse ih e h
    cases h with
    | op _ _ hds =>
      rw [reduce_op, reduce_op]
      exact (ih _ hds).map fun hparts => (alike_assemble all hparts).invertedIf inverse
  case nil =>
    intro all es h
    cases h with
    | nil =>
      rw [reducedParts_nil]
      exact .ok (.some .nil)
  case cons =>
    intro all d rest ihd ihrest ihsplit es h
    cases h with
    | @cons _ e _ rest' hd hrest =>
      rw [reducedParts_cons, reducedParts_cons]
      refine (ihd e hd).bind fun {r r'} hr halike => ?_
      have hpart := alike_partOf all halike
      unfold partsAfter
      generalize hr' : partOf all r = p at hpart ⊢
      generalize partOf all r' = q at hpart ⊢
      cases hpart with
      | deciding => exact .ok .none
      | neutral => exact ihrest _ hrest
      | splits hds => exact ihsplit r _ hr hr' _ (List.rel_append hds hrest)
      | stays =>
        refine (ihrest _ hrest).map fun hparts => ?_
        rcases hparts with hds | _
        · exact .some (.cons halike hds)
        · exact .none

/-- **Drafts that are alike are reduced to such drafts**, or neither is. -/
theorem agree_reduce (s : ColumnSchemas) {d e : Draft} (h : Alike d e) : Agree Alike (reduce s d) (reduce s e) :=
  (agree_reduce_and_parts s).1 d e h

theorem Alike.toJson {d : Draft} (hd : Whole d) : ∀ {e : Draft}, Alike d e → d.toJson.Alike e.toJson := by
  induction hd with
  | const value =>
    intro e h
    cases h with
    | const => exact .str _
  | leaf kind fields =>
    intro e h
    cases h with
    | leaf _ h => exact h
  | @op all ds inverse _ ih =>
    intro e h
    cases h with
    | @op _ _ _ es hds =>
      have hitems : (Json.arr (ds.map Draft.toJson)).Alike (.arr (es.map Draft.toJson)) := by
        rw [Json.Alike.arr_iff, List.forall₂_map_left_iff, List.forall₂_map_right_iff]
        have hall : ∀ d ∈ ds, ∀ e, Alike d e → d.toJson.Alike e.toJson := fun d hd e => ih d hd
        exact ((List.forall₂_and_left ds es).2 ⟨hall, hds⟩).imp fun _ e h => h.1 e h.2
      rw [Draft.toJson, Draft.toJson, toItems_eq_map, toItems_eq_map]
      cases inverse with
      | false =>
        exact .of_forall₂ (by simp [Fields.keys])
          (.cons ⟨rfl, .str _⟩ (.cons ⟨rfl, .str _⟩ (.cons ⟨rfl, hitems⟩ .nil)))
      | true =>
        exact .of_forall₂ (by simp [Fields.keys]) (.cons ⟨rfl, .str _⟩ (.cons ⟨rfl, .str _⟩ (.cons ⟨rfl, hitems⟩
          (.cons ⟨rfl, .refl (.bool true)⟩ .nil))))

end Draft

/-- **Filters that are the same are reduced to filters that are the same**, or neither can be reduced. -/
theorem Json.Alike.reduceFilter {a b : Json} (h : a.Alike b) (s : ColumnSchemas) :
    Agree Json.Alike (reduceFilter s a) (TableQuery.reduceFilter s b) := by
  have hreduced := Draft.agree_reduce s (Draft.alike_ofJson h)
  unfold TableQuery.reduceFilter
  generalize hr : Draft.reduce s (Draft.ofJson a) = r at hreduced ⊢
  generalize Draft.reduce s (Draft.ofJson b) = r' at hreduced ⊢
  cases hreduced with
  | error e e' => exact .error _ _
  | ok hde =>
    have hwhole := (Draft.built_reduce Draft.closed_typed (Draft.typed_ofJson a) hr).whole
    exact .ok (hde.toJson hwhole)

end TableQuery
