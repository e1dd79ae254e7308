import TableQuery.Proofs.Filter.Written
import TableQuery.Proofs.Outcomes

/-!
# Reduction and opposites

The opposite of a filter is reduced to the opposite of what the filter is reduced to, or neither can be reduced
(`reduceFilter_invertFilter`). The flag of a leaf comes last where the fields that do not matter are left out
(`Fields.tidy_select`), so that leaving them out and turning the flag round may be done in either order. An operation on
one filter is that filter, or its opposite: there the flag may be turned round twice, which gives the filter back if its
flag is a truth value (`Draft.Reversible`).
-/

set_option autoImplicit false

namespace TableQuery

/-! ## Fields -/

namespace Fields

variable {fields fields' : Fields} {keys : List String} {v : Json}

theorem inverted_of_lookup (h : fields.lookup "inv" = none) : fields.inverted = fields ++ [("inv", .bool true)] := by
  have hany : fields.any (·.1 == "inv") = false := by rw [← lookup_isSome_iff, h]; rfl
  have hplain : fields.isInverted = false := by rw [isInverted, value, h]; rfl
  simp [inverted, set, hplain, hany]

theorem inverted_append (h : fields.lookup "inv" = none) (hv : v.truthy = true) :
    inverted (fields ++ [("inv", v)]) = fields := by
  have hlookup : (fields ++ [("inv", v)]).lookup "inv" = some v := by
    rw [List.lookup_append, h, Option.none_or, List.lookup_cons_self]
  have hflag : isInverted (fields ++ [("inv", v)]) = true := by rw [isInverted, value, hlookup]; exact hv
  rw [inverted, if_pos hflag, erase, List.filter_append, List.filter_cons_of_neg (by simp), List.filter_nil,
    List.append_nil]
  exact erase_of_lookup h

theorem inverted_inverted_of_lookup (h : fields.lookup "inv" = none) : fields.inverted.inverted = fields := by
  rw [inverted_of_lookup h]
  exact inverted_append h rfl

theorem tellsInversion_of_inverted_inverted (h : fields.inverted.inverted = fields) : fields.TellsInversion := by
  rw [← h]
  exact tellsInversion_inverted _

/-- **The fields that matter**: those of the kind, and a flag that is set. -/
theorem tidy_select (h : "inv" ∉ keys) : (fields.select (keys ++ ["inv"])).tidy =
    fields.select keys ++ if fields.isInverted then [("inv", fields.value "inv")] else [] := by
  have hselect : fields.select (keys ++ ["inv"]) = fields.select keys ++ fields.select ["inv"] := by
    simp [select]
  have hflag : isInverted (fields.select (keys ++ ["inv"])) = fields.isInverted := by
    rw [isInverted, isInverted, value_select (by simp)]
  rw [tidy, hflag, hselect]
  cases hinv : fields.isInverted with
  | true =>
    -- A flag that is set is there.
    rw [if_pos rfl, if_pos rfl]
    rw [isInverted, value] at hinv
    cases hlookup : fields.lookup "inv" with
    | none => rw [hlookup] at hinv; cases hinv
    | some v => simp [select, value, hlookup]
  | false =>
    rw [if_neg (by simp), if_neg (by simp), List.append_nil, erase, List.filter_append]
    have hrest : (fields.select ["inv"]).filter (·.1 != "inv") = [] := by
      rw [List.filter_eq_nil_iff]
      intro p hp
      rw [List.mem_singleton.1 (mem_keys_select (List.mem_map_of_mem hp))]
      simp
    rw [hrest, List.append_nil]
    exact erase_of_lookup (lookup_select_of_notMem h)

end Fields

/-! ## Leaves without the fields that do not matter -/

namespace LeafKind

variable (kind : LeafKind) (fields : Fields)

theorem exists_keys : ∃ keys, kind.keys = keys ++ ["inv"] ∧ "inv" ∉ keys :=
  ⟨kind.keys.dropLast, by cases kind <;> rfl, by cases kind <;> decide⟩

theorem stripped_inverted :
    Fields.tidy (fields.inverted.select kind.keys) = Fields.inverted (Fields.tidy (fields.select kind.keys)) := by
  obtain ⟨keys, hkeys, hinv⟩ := kind.exists_keys
  have hsame : fields.inverted.select keys = fields.select keys :=
    Fields.select_congr fun k hk => Fields.lookup_inverted_ne (fun h => hinv (h ▸ hk))
  have hnone : (fields.select keys).lookup "inv" = none := Fields.lookup_select_of_notMem hinv
  rw [hkeys, Fields.tidy_select hinv, Fields.tidy_select hinv, hsame, Fields.isInverted_inverted]
  cases hflag : fields.isInverted with
  | true =>
    simp only [Bool.not_true, Bool.false_eq_true, ↓reduceIte, List.append_nil]
    exact (Fields.inverted_append hnone hflag).symm
  | false =>
    have hset : fields.inverted.value "inv" = .bool true := by
      rw [Fields.inverted, if_neg (by simp [hflag]), Fields.value, Fields.lookup_set_self]
      rfl
    simp only [Bool.not_false, ↓reduceIte, Bool.false_eq_true, List.append_nil, hset]
    exact (Fields.inverted_of_lookup hnone).symm

theorem stripped_stripped : Fields.tidy (Fields.select (Fields.tidy (fields.select kind.keys)) kind.keys) =
    Fields.tidy (fields.select kind.keys) := by
  obtain ⟨keys, hkeys, hinv⟩ := kind.exists_keys
  have hsame : Fields.select (Fields.tidy (fields.select kind.keys)) keys = fields.select keys :=
    Fields.select_congr fun k hk => Draft.lookup_stripped (by simp [hkeys, hk]) (fun h => hinv (h ▸ hk))
  have hflag := Draft.isInverted_stripped kind fields
  have hvalue (h : fields.isInverted = true) :
      (Fields.tidy (fields.select kind.keys)).value "inv" = fields.value "inv" := by
    have hselect : (fields.select kind.keys).value "inv" = fields.value "inv" := Fields.value_select (by simp [hkeys])
    rw [Fields.tidy, if_pos (by rwa [Fields.isInverted, hselect]), hselect]
  have hclosed : Fields.tidy (fields.select (keys ++ ["inv"])) = _ := Fields.tidy_select hinv
  rw [← hkeys] at hclosed
  generalize Fields.tidy (fields.select kind.keys) = stripped at *
  refine Eq.trans ?_ hclosed.symm
  rw [hkeys, Fields.tidy_select hinv, hsame, hflag]
  split
  next h => rw [hvalue h]
  next => rfl

end LeafKind

namespace Simple

variable (r : Simple)

theorem stripped_invertedIf (invert : Bool) : (r.invertedIf invert).stripped = r.stripped.invertedIf invert := by
  cases r with
  | const value => rfl
  | leaf kind fields =>
    cases invert with
    | false => rfl
    | true => exact congrArg (leaf kind) (kind.stripped_inverted fields)

theorem stripped_stripped : r.stripped.stripped = r.stripped := by
  cases r with
  | const value => rfl
  | leaf kind fields => exact congrArg (leaf kind) (kind.stripped_stripped fields)

theorem toDraft_invertedIf (invert : Bool) : (r.invertedIf invert).toDraft = r.toDraft.invertedIf invert := by
  cases r <;> cases invert <;> simp [invertedIf, toDraft, Draft.invertedIf, Draft.inverted]

end Simple

/-! ## Flags that may be turned round twice -/

namespace Draft

/-- The inversion of a leaf is left out, or a truth value. -/
def Told : LeafProperty := fun _ fields => fields.TellsInversion

instance (kind : LeafKind) (fields : Fields) : Decidable (Told kind fields) :=
  inferInstanceAs (Decidable fields.TellsInversion)

/-- A leaf is the opposite of its opposite. -/
def Reversible : LeafProperty := fun _ fields => fields.inverted.inverted = fields

variable {kind : LeafKind} {fields : Fields} {r : Simple}

theorem told_invertedIf (h : r.toDraft.LeavesIn Told) (invert : Bool) : (r.invertedIf invert).toDraft.LeavesIn Told :=
  leavesIn_invertedIf (P := Told) (fun {_ fields} _ => fields.tellsInversion_inverted) h invert

theorem told_of_reversible (h : r.toDraft.LeavesIn Reversible) : r.toDraft.LeavesIn Told :=
  h.mono fun h => Fields.tellsInversion_of_inverted_inverted h

theorem reversible_stripped (h : r.toDraft.LeavesIn Told) : r.stripped.toDraft.LeavesIn Reversible := by
  cases r with
  | const value => exact leavesIn_toDraft_const _
  | leaf kind fields =>
    rw [leavesIn_toDraft_leaf] at h
    rw [Simple.stripped, leavesIn_toDraft_leaf]
    obtain ⟨keys, hkeys, hinv⟩ := kind.exists_keys
    have hnone : (fields.select keys).lookup "inv" = none := Fields.lookup_select_of_notMem hinv
    rw [Reversible, hkeys, Fields.tidy_select hinv]
    cases hflag : fields.isInverted with
    | false =>
      simp only [Bool.false_eq_true, ↓reduceIte, List.append_nil]
      exact Fields.inverted_inverted_of_lookup hnone
    | true =>
      have htrue : fields.value "inv" = .bool true := by
        unfold Fields.isInverted Fields.value at *
        cases hlookup : fields.lookup "inv" with
        | none => rw [hlookup] at hflag; cases hflag
        | some j =>
          obtain ⟨b, rfl⟩ := h j hlookup
          rw [hlookup] at hflag
          exact congrArg Json.bool hflag
      rw [if_pos rfl, htrue, ← Fields.inverted_of_lookup hnone, Fields.inverted_inverted_of_lookup hnone]

/-! ## Leaves -/

theorem reversible_make (name : Json) (op : String) (value : Option Json) :
    (ColumnFilter.make name op value).toDraft.LeavesIn Reversible := by
  refine leavesIn_toDraft_leaf.2 (Fields.inverted_inverted_of_lookup ?_)
  cases value <;> rfl

theorem reversible_reduceOn {column fields : Fields} (h : ColumnFilter.reduceOn column fields = .ok (some r)) :
    r.toDraft.LeavesIn Reversible :=
  leavesIn_reduceOn (P := Reversible) (fun h => congrArg Fields.inverted h) reversible_make h

variable {s : ColumnSchemas}

theorem reversible_reduceLeaf (hfields : Told kind fields) (h : reduceLeaf s kind fields = .ok r) :
    r.toDraft.LeavesIn Reversible := by
  have hown : (Simple.leaf kind fields).toDraft.LeavesIn Told := leavesIn_toDraft_leaf.2 hfields
  cases kind with
  | column =>
    obtain ⟨r', hr', rfl⟩ := map_eq_ok.1 h
    obtain ⟨-, column, out, -, hon, rfl⟩ := ColumnFilter.reduce_eq_ok.1 hr'
    apply reversible_stripped
    cases out with
    | none => exact hown
    | some r => exact told_invertedIf (told_of_reversible (reversible_reduceOn hon)) _
  | custom =>
    cases h
    exact reversible_stripped hown
  | global =>
    obtain ⟨r', hr', rfl⟩ := map_eq_ok.1 h
    apply reversible_stripped
    unfold reduceGlobal at hr'
    split at hr'
    · cases hr'
      split
      · exact told_invertedIf (leavesIn_toDraft_const true) _
      · exact hown
    · cases hr'

theorem reducesTo_reversible (s : ColumnSchemas) : ReducesTo s Told Reversible where
  reduced htold h := leavesIn_toDraft_leaf.1 (reversible_reduceLeaf htold h)
  inverted h := congrArg Fields.inverted h
  again h := Fields.tellsInversion_of_inverted_inverted h

theorem invertedIf_not {r : Simple} (h : r.toDraft.LeavesIn Reversible) (invert : Bool) :
    r.invertedIf (!invert) = (r.invertedIf invert).invertedIf true := by
  cases r with
  | const value => cases value <;> cases invert <;> rfl
  | leaf kind fields =>
    cases invert with
    | false => rfl
    | true => exact congrArg (Simple.leaf kind) (leavesIn_toDraft_leaf.1 h).symm

/-- **The opposite of a leaf is reduced to the opposite**, or neither can be reduced. -/
theorem agree_reduceLeaf_inverted (s : ColumnSchemas) (kind : LeafKind) (fields : Fields) :
    Agree (fun r r' => r' = r.invertedIf true) (reduceLeaf s kind fields) (reduceLeaf s kind fields.inverted) := by
  have hstripped {r r' : Simple} (h : r' = r.invertedIf true) : r'.stripped = r.stripped.invertedIf true := by
    rw [h, Simple.stripped_invertedIf]
  cases kind with
  | column =>
    refine Agree.map ?_ hstripped
    have hvalue : ∀ k ∈ ["column", "op", "val"], fields.inverted.value k = fields.value k := by
      intro k hk
      apply Fields.value_inverted_ne
      rintro rfl
      simp at hk
    unfold ColumnFilter.reduce
    simp only [hvalue "column" (by simp), ColumnFilter.reduceOn_congr hvalue, Fields.isInverted_inverted]
    split
    · exact .error _ _
    split
    · exact .error _ _
    split
    · exact .error _ _
    · exact .ok rfl
    next r hr => exact .ok (invertedIf_not (reversible_reduceOn hr) _)
  | custom => exact .ok (hstripped rfl)
  | global =>
    refine Agree.map ?_ hstripped
    unfold reduceGlobal
    rw [Fields.value_inverted_ne (by decide), Fields.isInverted_inverted]
    split
    · apply Agree.ok
      split
      · exact invertedIf_not (leavesIn_toDraft_const true) _
      · rfl
    · exact .error _ _

/-! ## Drafts -/

theorem inverted_inverted {d : Draft} (h : Built Reversible d) : d.inverted.inverted = d := by
  cases h with
  | const value => simp [inverted]
  | leaf h => exact congrArg (leaf _) h
  | op all inverse _ _ => simp [inverted]

/-- **The opposite of a draft is reduced to the opposite**, or neither can be reduced. -/
theorem agree_reduce_inverted (s : ColumnSchemas) {d : Draft} (h : d.LeavesIn Told) :
    Agree (fun r r' => r' = r.inverted) (reduce s d) (reduce s d.inverted) := by
  cases d with
  | const value =>
    rw [inverted, reduce_const, reduce_const]
    exact .ok rfl
  | bad b =>
    rw [inverted, reduce_bad]
    exact .error _ _
  | leaf kind fields =>
    rw [inverted, reduce_leaf, reduce_leaf]
    refine (agree_reduceLeaf_inverted s kind fields).map fun {r r'} hr => ?_
    rw [hr, Simple.toDraft_invertedIf]
    rfl
  | op all ds inverse =>
    rw [inverted, reduce_op, reduce_op]
    cases hparts : reducedParts s all ds with
    | error e => exact .error _ _
    | ok parts =>
      apply Agree.ok
      have hbuilt := built_assemble (reducesTo_reversible s) (leavesIn_op.1 h) hparts
      cases inverse with
      | false => rfl
      | true => exact (inverted_inverted hbuilt).symm

/-! ## Filters as they are written -/

theorem invertFilter_toJson {P : LeafProperty} {d : Draft} (h : Built P d) :
    invertFilter d.toJson = .ok d.inverted.toJson := by
  cases h with
  | const value => cases value <;> rfl
  | leaf h => rfl
  | op all inverse _ _ => cases inverse <;> rfl

theorem ofJson_constText (value : Bool) : ofJson (.str (constText value)) = const value := by
  cases value <;> rfl

/-- An object and its opposite are taken apart into opposites, or neither can be taken apart. -/
theorem ofJson_inverted (fields : Fields) :
    ofJson (.obj fields.inverted) = (ofJson (.obj fields)).inverted ∨
      ∃ b c, ofJson (.obj fields) = bad b ∧ ofJson (.obj fields.inverted) = bad c := by
  have hparts : partsOf fields.inverted = partsOf fields := by
    rw [partsOf_eq, partsOf_eq, Fields.lookup_inverted_ne (by decide)]
  rw [ofJson, ofJson]
  simp only [Fields.value_inverted_ne (show "type" ≠ "inv" by decide), hparts]
  split
  · unfold ofConst
    rw [Fields.value_inverted_ne (by decide), Fields.isInverted_inverted]
    split
    next value _ => exact Or.inl (congrArg const (by cases value <;> cases fields.isInverted <;> rfl))
    next => exact Or.inr ⟨_, _, rfl, rfl⟩
  split
  · unfold ofOperation
    simp only [Fields.value_inverted_ne (show "op" ≠ "inv" by decide), Fields.isInverted_inverted]
    split
    · split
      · exact Or.inl rfl
      · exact Or.inr ⟨_, _, rfl, rfl⟩
    · exact Or.inr ⟨_, _, rfl, rfl⟩
  split
  · exact Or.inl rfl
  split
  · exact Or.inl rfl
  split
  · exact Or.inl rfl
  · exact Or.inr ⟨_, _, rfl, rfl⟩

end Draft

/-- **Reduction commutes with inversion.** A constant or an object has an opposite, and if the inversion of every leaf
in it is left out or a truth value, that opposite is reduced to the opposite of what the filter is reduced to, or
neither can be reduced. -/
theorem reduceFilter_invertFilter (s : ColumnSchemas) {f : Json}
    (hf : (∃ value, f = .str (constText value)) ∨ ∃ fields, f = .obj fields)
    (htold : (Draft.ofJson f).LeavesIn Draft.Told) :
    ∃ g, invertFilter f = .ok g ∧
      Agree (fun r r' => invertFilter r = .ok r') (reduceFilter s f) (reduceFilter s g) := by
  rcases hf with ⟨value, rfl⟩ | ⟨fields, rfl⟩
  · refine ⟨.str (constText !value), by cases value <;> rfl, ?_⟩
    have hconst (value : Bool) : reduceFilter s (.str (constText value)) = .ok (.str (constText value)) := by
      rw [reduceFilter, Draft.ofJson_constText, Draft.reduce_const]
      rfl
    rw [hconst, hconst]
    exact .ok (by cases value <;> rfl)
  · refine ⟨.obj (Fields.inverted fields), rfl, ?_⟩
    rw [reduceFilter, reduceFilter]
    rcases Draft.ofJson_inverted fields with hdraft | ⟨b, c, hb, hc⟩
    · have hagree := Draft.agree_reduce_inverted s htold
      rw [hdraft]
      generalize hr : Draft.reduce s (Draft.ofJson (.obj fields)) = reduced at hagree ⊢
      generalize Draft.reduce s (Draft.ofJson (.obj fields)).inverted = opposite at hagree ⊢
      cases hagree with
      | error e e' => exact .error e e'
      | ok hopposite =>
        rw [hopposite]
        exact .ok (Draft.invertFilter_toJson (Draft.built_reduceTo (Draft.reducesTo_reversible s) htold hr))
    · rw [hb, hc, Draft.reduce_bad, Draft.reduce_bad]
      exact .error _ _

/-- What a client knows of a table of people: names, a status that may be missing, and a list of tags. -/
def peopleColumns : ColumnSchemas where
  columns := [
    (.str "name", [("name", .str "name"), ("type", .str "string"), ("nullable", .bool false)]),
    (.str "status", [("name", .str "status"), ("type", .str "string"), ("nullable", .bool true)]),
    (.str "tags", [("name", .str "tags"), ("type", .str "uuid_list"), ("nullable", .bool true)])]

/-- A filter of which an inverted list of tags is left: there is no empty name, and a constant that is turned round
changes nothing. -/
def untaggedPeople : Json :=
  .obj [("type", .str "op"), ("op", .str "&"), ("inv", .bool true), ("val", .arr [
    .obj [("type", .str "const"), ("val", .str "never"), ("inv", .bool true)],
    .obj [("type", .str "op"), ("op", .str "|"), ("val", .arr [
      .obj [("type", .str "column"), ("column", .str "name"), ("op", .str "="), ("val", .str "")],
      .obj [("type", .str "column"), ("column", .str "tags"), ("op", .str "has_any"), ("inv", .bool true),
        ("val", .arr [.str "a", .str " b", .str "c", .str "a"]), ("open", .bool true)]])]])]

def taggedPeople : Json :=
  .obj [("type", .str "column"), ("column", .str "tags"), ("op", .str "has_any"), ("val", .arr [.str "a", .str "c"])]

/-- The filter is reduced to the one for two tags, and its opposite to the opposite of that. -/
theorem reduceFilter_invertFilter_untaggedPeople :
    reduceFilter peopleColumns untaggedPeople = .ok taggedPeople ∧
      ∃ g r, invertFilter untaggedPeople = .ok g ∧ invertFilter taggedPeople = .ok r ∧
        reduceFilter peopleColumns g = .ok r := by
  have hreduced : reduceFilter peopleColumns untaggedPeople = .ok taggedPeople := by with_unfolding_all rfl
  have htold : ∀ l ∈ (Draft.ofJson untaggedPeople).leaves, Draft.Told l.1 l.2 := by decide +kernel
  obtain ⟨g, hg, hagree⟩ := reduceFilter_invertFilter peopleColumns (f := untaggedPeople) (Or.inr ⟨_, rfl⟩) htold
  rw [hreduced] at hagree
  obtain ⟨r, hopposite, hr⟩ := hagree.exists_of_ok
  exact ⟨hreduced, g, r, hg, hr, hopposite⟩

end TableQuery
