import TableQuery.Filter.Draft
import TableQuery.Proofs.Filter.Acceptance

/-!
# The opposite of a filter

`invertFilter` makes the opposite of a filter as it is written, `FilterNode.inverted` that of a filter that has
been read. They go together: the opposite of an accepted filter is accepted, and read as the opposite
(`FilterNode.ofJson_invertFilter`).
-/

set_option autoImplicit false

namespace TableQuery

/-! ## Fields of the opposite -/

namespace Fields

variable {fields : Fields}

theorem lookup_inverted_ne {k : String} (h : k ≠ "inv") : fields.inverted.lookup k = fields.lookup k := by
  unfold inverted
  split
  · exact lookup_erase_ne h
  · exact lookup_set_ne h

theorem value_inverted_ne {k : String} (h : k ≠ "inv") : fields.inverted.value k = fields.value k := by
  rw [value, value, lookup_inverted_ne h]

theorem erase_inverted (fields : Fields) : fields.inverted.erase "inv" = fields.erase "inv" := by
  unfold inverted
  split
  · exact erase_erase
  · exact erase_set

theorem isInverted_inverted (fields : Fields) : fields.inverted.isInverted = !fields.isInverted := by
  rw [inverted]
  cases h : fields.isInverted with
  | true => rw [if_pos rfl, isInverted, value, lookup_erase_self]; rfl
  | false => rw [if_neg (by simp), isInverted, value, lookup_set_self]; rfl

/-- The inversion of a filter is left out, or a truth value. -/
def TellsInversion (fields : Fields) : Prop :=
  ∀ j, fields.lookup "inv" = some j → ∃ b, j = .bool b

theorem tellsInversion_iff :
    fields.TellsInversion ↔ fields.lookup "inv" = none ∨ ∃ b, fields.lookup "inv" = some (.bool b) := by
  unfold TellsInversion
  cases fields.lookup "inv" <;> simp

theorem tellsInversion_inverted (fields : Fields) : fields.inverted.TellsInversion := by
  rw [tellsInversion_iff, inverted]
  split
  · exact Or.inl lookup_erase_self
  · exact Or.inr ⟨true, lookup_set_self⟩

theorem mem_keys_inverted {k : String} (h : k ∈ fields.inverted.keys) : k = "inv" ∨ k ∈ fields.keys := by
  unfold inverted at h
  split at h
  · exact Or.inr (mem_keys_erase h)
  · unfold set at h
    obtain ⟨p, hp, rfl⟩ := List.mem_map.1 h
    split at hp
    · obtain ⟨p', hp', rfl⟩ := List.mem_map.1 hp
      split
      · exact Or.inl rfl
      · exact Or.inr (List.mem_map_of_mem hp')
    · rcases List.mem_append.1 hp with hp | hp
      · exact Or.inr (List.mem_map_of_mem hp)
      · rw [List.mem_singleton.1 hp]
        exact Or.inl rfl

end Fields

/-! ## Filters that have been read -/

namespace FilterNode

def inverted : FilterNode → FilterNode
  | const value => const !value
  | op all fs inverse => op all fs !inverse
  | column c o a inverse => column c o a !inverse
  | custom d p inverse => custom d p !inverse
  | global words cs inverse => global words cs !inverse

theorem clause_inverted (f : FilterNode) (invert : Bool) : f.inverted.clause invert = f.clause !invert := by
  cases f with
  | const value => cases value <;> cases invert <;> rfl
  | op all fs inverse | column c o a inverse | custom d p inverse | global words cs inverse =>
    cases inverse <;> cases invert <;> rfl

/-- A filter with its inversion set, or not. -/
def withInverse (inverse : Bool) : FilterNode → FilterNode
  | const value => const value
  | op all fs _ => op all fs inverse
  | column c o a _ => column c o a inverse
  | custom d p _ => custom d p inverse
  | global words cs _ => global words cs inverse

theorem columns_inverted (f : FilterNode) : f.inverted.columns = f.columns := by
  cases f <;> rfl

theorem joins_inverted (f : FilterNode) : f.inverted.joins = f.joins := by
  cases f <;> rfl

/-! ## Filters as they are written -/

variable {config : EntityConfig} {fields : Fields}

theorem inversionErrors_eq_nil :
    inversionErrors fields = [] ↔ fields.lookup "inv" = none ∨ ∃ b, fields.lookup "inv" = some (.bool b) := by
  unfold inversionErrors
  split
  next h => simp only [h, true_or]
  next b h => simp [h]
  next j hbool h =>
    rw [h]
    constructor
    · intro herrors
      cases herrors
    · rintro (hnone | ⟨b, hb⟩)
      · cases hnone
      · exact (hbool b (Option.some.inj hb)).elim

theorem inversionErrors_eq_nil_iff_tells : inversionErrors fields = [] ↔ fields.TellsInversion :=
  inversionErrors_eq_nil.trans Fields.tellsInversion_iff.symm

instance (fields : Fields) : Decidable fields.TellsInversion :=
  decidable_of_iff ((inversionErrors fields).isEmpty = true) (List.isEmpty_iff.trans inversionErrors_eq_nil_iff_tells)

theorem strangers_eq_nil {known : List String} {c : Complaint} :
    Reader.strangers known c fields = [] ↔ ∀ k ∈ fields.keys, k ∈ known := by
  rw [Reader.strangers, List.map_eq_nil_iff, Reader.strayNames, ← List.length_eq_zero_iff, List.length_mergeSort,
    List.length_eq_zero_iff, List.filter_eq_nil_iff]
  simp

theorem isInverted_eq_inversion (h : inversionErrors fields = []) : fields.isInverted = inversion fields := by
  rcases inversionErrors_eq_nil.1 h with hinv | ⟨b, hinv⟩
  · simp [Fields.isInverted, inversion, Fields.value, hinv, Json.truthy]
  · simp [Fields.isInverted, inversion, Fields.value, hinv, Json.truthy]

theorem inversion_inverted (h : inversionErrors fields = []) : inversion fields.inverted = !inversion fields := by
  rw [← isInverted_eq_inversion h, inversion, Fields.inverted]
  cases hinv : fields.isInverted with
  | true => rw [if_pos rfl, Fields.lookup_erase_self]; rfl
  | false => rw [if_neg (by simp), Fields.lookup_set_self]; rfl

theorem inversionErrors_inverted : inversionErrors fields.inverted = [] :=
  inversionErrors_eq_nil_iff_tells.2 fields.tellsInversion_inverted

theorem inv_mem_knownFields {kind : String} {known : List String} (h : knownFields.lookup kind = some known) :
    "inv" ∈ known := by
  have hall : ∀ p ∈ knownFields, "inv" ∈ p.2 := by decide
  exact hall _ (mem_of_lookup_eq_some h)

theorem tidy_inverted {kind : String} (h : Tidy kind fields) : Tidy kind fields.inverted := by
  obtain ⟨known, hknown, herrors⟩ := h
  obtain ⟨hstrangers, -⟩ := List.append_eq_nil_iff.1 herrors
  rw [strangers_eq_nil] at hstrangers
  refine ⟨known, hknown, List.append_eq_nil_iff.2 ⟨strangers_eq_nil.2 fun k hk => ?_, inversionErrors_inverted⟩⟩
  rcases Fields.mem_keys_inverted hk with rfl | hk
  · exact inv_mem_knownFields hknown
  · exact hstrangers k hk

theorem readArgument_congr {fields' : Fields} (h : fields'.lookup "val" = fields.lookup "val") (t : ColumnType)
    (o : Operator) : readArgument t o fields' = readArgument t o fields := by
  unfold readArgument
  rw [h]

theorem withInverse_of_ofJson {f : FilterNode} (h : ofJson config (.obj fields) = .ok (.ok f)) :
    f.withInverse (inversion fields) = f ∧ f.withInverse (!inversion fields) = f.inverted := by
  obtain ⟨kind, -, -, ⟨-, h⟩ | ⟨-, h⟩ | ⟨-, h⟩ | ⟨-, h⟩⟩ := ofJson_obj_eq_ok.1 h
  · obtain ⟨all, items, fs, -, -, -, -, rfl⟩ := readParts_eq_ok.1 h
    exact ⟨rfl, rfl⟩
  · obtain ⟨name, c, symbol, o, a, -, -, -, -, -, -, rfl⟩ := readColumnFilter_eq_ok.1 h
    exact ⟨rfl, rfl⟩
  · obtain ⟨name, d, p, -, -, -, rfl⟩ := readCustomFilter_eq_ok.1 h
    exact ⟨rfl, rfl⟩
  · obtain ⟨-, s, -, rfl⟩ := readGlobalFilter_eq_ok.1 h
    exact ⟨rfl, rfl⟩

/-- **Only the fields of its kind matter in a filter object.** With the same values in them, the flag aside, it
is read as the same filter. -/
theorem ofJson_congr {fields' : Fields} {kind : String} {known : List String}
    (hkind : fields.value "type" = .str kind)
    (hknown : knownFields.lookup kind = some known)
    (hsame : ∀ k ∈ known, k ≠ "inv" → fields'.lookup k = fields.lookup k)
    (htidy : Tidy kind fields') {f : FilterNode}
    (h : ofJson config (.obj fields) = .ok (.ok f)) :
    ofJson config (.obj fields') = .ok (.ok (f.withInverse (inversion fields'))) := by
  obtain ⟨kind', hkind', -, h⟩ := ofJson_obj_eq_ok.1 h
  rw [hkind, Json.str.injEq] at hkind'
  subst hkind'
  have hvalue : ∀ k ∈ known, k ≠ "inv" → fields'.value k = fields.value k := fun k hk hinv => by
    rw [Fields.value, Fields.value, hsame k hk hinv]
  have hknown' : ∀ known', knownFields.lookup kind = some known' → known = known' := fun known' h =>
    Option.some.inj (hknown.symm.trans h)
  have htype : "type" ∈ known := by
    have hall : ∀ p ∈ knownFields, "type" ∈ p.2 := by decide
    exact hall _ (mem_of_lookup_eq_some hknown)
  refine ofJson_obj_eq_ok.2 ⟨kind, by rw [hvalue "type" htype (by decide), hkind], htidy, ?_⟩
  rcases h with ⟨rfl, h⟩ | ⟨rfl, h⟩ | ⟨rfl, h⟩ | ⟨rfl, h⟩
  · obtain rfl := hknown' _ rfl
    refine Or.inl ⟨rfl, ?_⟩
    obtain ⟨all, items, fs, hop, hval, hne, hitems, rfl⟩ := readParts_eq_ok.1 h
    exact readParts_eq_ok.2 ⟨all, items, fs, by rw [hvalue "op" (by decide) (by decide), hop],
      by rw [hsame "val" (by decide) (by decide), hval], hne, hitems, rfl⟩
  · obtain rfl := hknown' _ rfl
    refine Or.inr (Or.inl ⟨rfl, ?_⟩)
    obtain ⟨name, c, symbol, o, a, hname, hc, hsymbol, ho, hacc, ha, rfl⟩ := readColumnFilter_eq_ok.1 h
    exact readColumnFilter_eq_ok.2 ⟨name, c, symbol, o, a,
      by rw [hvalue "column" (by decide) (by decide), hname], hc,
      by rw [hvalue "op" (by decide) (by decide), hsymbol], ho, hacc,
      by rw [readArgument_congr (hsame "val" (by decide) (by decide)), ha], rfl⟩
  · obtain rfl := hknown' _ rfl
    refine Or.inr (Or.inr (Or.inl ⟨rfl, ?_⟩))
    obtain ⟨name, d, p, hname, hd, hp, rfl⟩ := readCustomFilter_eq_ok.1 h
    exact readCustomFilter_eq_ok.2 ⟨name, d, p, by rw [hvalue "customFilter" (by decide) (by decide), hname], hd,
      by rw [hsame "params" (by decide) (by decide), hp], rfl⟩
  · obtain rfl := hknown' _ rfl
    refine Or.inr (Or.inr (Or.inr ⟨rfl, ?_⟩))
    obtain ⟨hop, s, hs, rfl⟩ := readGlobalFilter_eq_ok.1 h
    exact readGlobalFilter_eq_ok.2 ⟨by rw [hvalue "op" (by decide) (by decide), hop], s,
      by rw [hvalue "val" (by decide) (by decide), hs], rfl⟩

theorem ofJson_inverted {f : FilterNode} (h : ofJson config (.obj fields) = .ok (.ok f)) :
    ofJson config (.obj fields.inverted) = .ok (.ok f.inverted) := by
  obtain ⟨kind, htype, htidy, -⟩ := ofJson_obj_eq_ok.1 h
  obtain ⟨known, hknown, herrors⟩ := id htidy
  rw [← (withInverse_of_ofJson h).2, ← inversion_inverted (List.append_eq_nil_iff.1 herrors).2]
  exact ofJson_congr htype hknown (fun k _ hk => Fields.lookup_inverted_ne hk) (tidy_inverted htidy) h

/-- **The opposite of an accepted filter is accepted**, as its opposite. -/
theorem ofJson_invertFilter {j : Json} {f : FilterNode} (h : ofJson config j = .ok (.ok f)) :
    ∃ j', invertFilter j = .ok j' ∧ ofJson config j' = .ok (.ok f.inverted) := by
  cases j with
  | str s =>
    rw [ofJson] at h
    split at h
    next hs =>
      cases h
      rw [beq_iff_eq.1 hs]
      exact ⟨.str "never", rfl, rfl⟩
    next =>
      split at h
      next hs =>
        cases h
        rw [beq_iff_eq.1 hs]
        exact ⟨.str "always", rfl, rfl⟩
      next => cases h
  | obj fields => exact ⟨.obj (Fields.inverted fields), rfl, ofJson_inverted h⟩
  | null | bool _ | num _ | arr _ => simp [ofJson, Checked.fail] at h

end FilterNode

end TableQuery
