import TableQuery.Proofs.Column.Instants
import TableQuery.Proofs.Filter.Shortened
import TableQuery.Proofs.Request.Row

/-!
# Identifiers

An identifier is written with five groups of hexadecimal digits (`IsIdentifier`). Where identifiers are asked for, in
the operands of filters, for facilities and for rows, these are taken, and so is an identifier with a line feed after
it (`isUuid_iff`). Reduction leaves the operands in place that are identifiers, and takes the others for what no row
has (`ColumnFilter.keepsIdentifiers_of_ofJson`). The main statement is `Rule.takes_identifiers`.
-/

set_option autoImplicit false

namespace TableQuery

/-! ## The written form -/

def hexDigits : List Char := "0123456789abcdef".toList

/-- **The written form of identifiers**: five groups of digits with hyphens between them. -/
def IsIdentifier (s : String) : Prop :=
  ∃ groups : List (List Char), groups.map List.length = [8, 4, 4, 4, 12] ∧ (∀ g ∈ groups, ∀ c ∈ g, c ∈ hexDigits) ∧
    s.toList = ['-'].intercalate groups

namespace Shape

variable {s : String} {cs : List Char} {c : Char}

theorem admits_hex : Mark.hex.admits c = true ↔ c ∈ hexDigits := by
  constructor
  · intro h
    have hsmall : ∀ n < 103, Mark.hex.admits (Char.ofNat n) = true → Char.ofNat n ∈ hexDigits := by decide +kernel
    have hbound : c.toNat < 103 := by
      simp only [Mark.admits, Bool.or_eq_true, Bool.and_eq_true, decide_eq_true_eq, Char.le_def] at h
      have hle : c.val ≤ 'f'.val := by
        rcases h with ⟨-, h⟩ | ⟨-, h⟩
        · exact UInt32.le_trans h (by decide)
        · exact h
      exact Nat.lt_succ_of_le hle
    have hc := hsmall c.toNat hbound
    rw [Char.ofNat_toNat] at hc
    exact hc h
  · have hall : hexDigits.all Mark.hex.admits = true := by decide
    exact List.all_eq_true.1 hall c

theorem fitting_replicate {n : Nat} :
    Fitting (List.replicate n .hex) cs ↔ cs.length = n ∧ ∀ c ∈ cs, c ∈ hexDigits := by
  constructor
  · refine fun h => ⟨h.length_eq.symm.trans List.length_replicate, fun c hc => ?_⟩
    obtain ⟨m, hm, hadmits⟩ := exists_of_mem_forall₂ h hc
    rw [List.eq_of_mem_replicate hm] at hadmits
    exact admits_hex.1 hadmits
  · rintro ⟨hlength, hdigits⟩
    refine List.forall₂_iff_zip.2 ⟨List.length_replicate.trans hlength.symm, fun hmem => ?_⟩
    obtain ⟨hm, hc⟩ := List.of_mem_zip hmem
    rw [List.eq_of_mem_replicate hm]
    exact admits_hex.2 (hdigits _ hc)

/-- The shape of groups of digits of given lengths, with hyphens between them. -/
def grouped (ns : List Nat) : List Mark :=
  [Mark.only '-'].intercalate (ns.map (List.replicate · .hex))

theorem intercalate_cons {α : Type} (a : α) (l : List α) {ls : List (List α)} (hne : ls ≠ []) :
    [a].intercalate (l :: ls) = l ++ a :: [a].intercalate ls := by
  obtain ⟨l', ls, rfl⟩ := List.exists_cons_of_ne_nil hne
  rw [List.intercalate_cons_cons, List.append_assoc, List.singleton_append]

/-- **What has the shape of groups** are groups of digits with hyphens between them. -/
theorem fitting_grouped {ns : List Nat} : Fitting (grouped ns) cs ↔
    ∃ groups : List (List Char), groups.map List.length = ns ∧ (∀ g ∈ groups, ∀ c ∈ g, c ∈ hexDigits) ∧
      cs = ['-'].intercalate groups := by
  induction ns generalizing cs with
  | nil => simp [grouped]
  | cons n ns ih =>
    rcases eq_or_ne ns [] with rfl | hne
    · simp [grouped, fitting_replicate, List.map_eq_singleton_iff]
    · have hsome : ∀ groups : List (List Char), groups.map List.length = ns → groups ≠ [] := by
        rintro _ rfl rfl
        exact hne rfl
      rw [grouped, List.map_cons, intercalate_cons _ _ (by simpa using hne), ← grouped]
      constructor
      · intro h
        obtain ⟨g, back, rfl, hg, hback⟩ := h.of_append
        obtain ⟨rest, rfl, hrest⟩ := hback.of_only
        obtain ⟨groups, hlengths, hdigits, rfl⟩ := ih.1 hrest
        obtain ⟨hlength, hg⟩ := fitting_replicate.1 hg
        refine ⟨g :: groups, by rw [List.map_cons, hlengths, hlength], List.forall_mem_cons.2 ⟨hg, hdigits⟩, ?_⟩
        rw [intercalate_cons _ _ (hsome groups hlengths)]
      · rintro ⟨groups, hlengths, hdigits, rfl⟩
        obtain ⟨g, groups, rfl, rfl, hrest⟩ := List.map_eq_cons_iff.1 hlengths
        obtain ⟨hg, hdigits⟩ := List.forall_mem_cons.1 hdigits
        rw [intercalate_cons _ _ (hsome groups hrest)]
        exact (fitting_replicate.2 ⟨rfl, hg⟩).append
          (.cons (beq_self_eq_true '-') (ih.2 ⟨groups, hrest, hdigits, rfl⟩))

theorem uuid_eq : uuid = grouped [8, 4, 4, 4, 12] := rfl

theorem fits_append {ms : List Mark} (h : Fitting ms cs) {after : List Char} (hafter : after = [] ∨ after = ['\n'])
    (hs : s.toList = cs ++ after) : fits ms s = true := by
  rw [fits, after?_eq_some.2 ⟨cs, hs, h⟩]
  rcases hafter with rfl | rfl <;> rfl

end Shape

variable {s : String}

theorem isIdentifier_iff_fitting : IsIdentifier s ↔ Shape.Fitting Shape.uuid s.toList := by
  rw [Shape.uuid_eq, Shape.fitting_grouped, IsIdentifier]

theorem isUuid_iff : isUuid s = true ↔ IsIdentifier s ∨ ∃ i, IsIdentifier i ∧ s = i ++ "\n" := by
  simp only [isIdentifier_iff_fitting]
  constructor
  · intro h
    obtain ⟨front, after, hs, hfront, rfl | rfl⟩ := Shape.exists_of_fits h
    · exact .inl (by rwa [hs, List.append_nil])
    · refine .inr ⟨String.ofList front, by rwa [String.toList_ofList], String.toList_inj.1 ?_⟩
      rw [hs, String.toList_append, String.toList_ofList]
      rfl
  · rintro (h | ⟨i, h, rfl⟩)
    · exact Shape.fits_append h (.inl rfl) (List.append_nil _).symm
    · exact Shape.fits_append h (.inr rfl) String.toList_append

namespace IsIdentifier

theorem length_eq (h : IsIdentifier s) : s.length = 36 := by
  have hlength := (isIdentifier_iff_fitting.1 h).length_eq
  rw [← String.length_toList, ← hlength]
  rfl

theorem isTrimmed (h : IsIdentifier s) : Text.isTrimmed s = true := by
  refine Text.isTrimmed_of_not_blank fun c hc => ?_
  obtain ⟨m, hm, hadmits⟩ := exists_of_mem_forall₂ (isIdentifier_iff_fitting.1 h) hc
  have hmarks : ∀ m ∈ Shape.uuid, m = .hex ∨ m = .only '-' := by simp [Shape.uuid_eq, Shape.grouped]
  rcases hmarks m hm with rfl | rfl
  · have hblank : hexDigits.any Text.isBlank = false := by decide
    exact Bool.eq_false_iff.2 (List.any_eq_false.1 hblank c (Shape.admits_hex.1 hadmits))
  · obtain rfl : c = '-' := beq_iff_eq.1 hadmits
    rfl

end IsIdentifier

theorem not_isTrimmed_lineFeed (i : String) : ¬Text.isTrimmed (i ++ "\n") = true :=
  Bool.eq_false_iff.1 (Text.isTrimmed_append_blank String.toList_append rfl)

theorem isTrimmed_iff_isIdentifier (h : isUuid s = true) : Text.isTrimmed s = true ↔ IsIdentifier s := by
  refine ⟨fun htrimmed => (isUuid_iff.1 h).resolve_right ?_, IsIdentifier.isTrimmed⟩
  rintro ⟨i, -, rfl⟩
  exact not_isTrimmed_lineFeed i htrimmed

/-! ## Operands -/

def ColumnType.HoldsIdentifiers (t : ColumnType) : Prop :=
  t.kind = .uuid ∨ t.kind = .dict ∨ t.kind = .uuidList ∨ t.kind = .dictList

/-- Every operand of such a column is an identifier, and if there is only one, it is one that rows are equal to or
have. -/
theorem ColumnType.HoldsIdentifiers.rule?_eq {t : ColumnType} {o : Operator} (h : t.HoldsIdentifiers)
    (hacc : t.accepts o = true) (ho : o ≠ .null) :
    t.rule? o = some .uuid ∧ (t.takesList o = false → o = .equal ∨ o = .has) := by
  unfold ColumnType.accepts at hacc
  unfold ColumnType.rule? ColumnType.takesList
  rcases h with h | h | h | h <;> cases o <;> simp_all [Kind.accepts, Operator.isTextual, Operator.isSetRelation,
    Operator.takesList]

namespace FilterNode

variable {config : EntityConfig} {fields : Fields}

/-- What an accepted filter compares identifiers with are texts that are taken for such. -/
theorem Accepted.exists_text {f : FilterNode} (h : Accepted config f) :
    ∀ t ∈ f.tests, t.column.type.HoldsIdentifiers → ∀ v ∈ t.argument.operands,
      ∃ s, v = .text s ∧ isUuid s = true := by
  have hyields : ∀ {v : Operand}, Rule.uuid.Yields v → ∃ s, v = .text s ∧ isUuid s = true := by
    intro v hv
    cases v with
    | text s => exact ⟨s, rfl, hv⟩
    | _ => cases hv
  induction h with
  | const value | custom params inverse _ | global words inverse => simp [tests]
  | op all inverse _ _ ih =>
    intro t ht
    obtain ⟨f, hf, ht⟩ := tests_op.1 ht
    exact ih f hf t ht
  | @column c o a inverse _ hacc hfits =>
    refine List.forall_mem_singleton.2 fun hkind v hv => ?_
    cases a with
    | nothing => cases hv
    | one w =>
      obtain ⟨ho, -, r, hr, hw⟩ := hfits
      obtain rfl : v = w := List.mem_singleton.1 hv
      rw [(hkind.rule?_eq hacc ho).1] at hr
      exact hyields (Option.some.inj hr ▸ hw)
    | many ws =>
      obtain ⟨ho, -, -, r, hr, hws⟩ := hfits
      rw [(hkind.rule?_eq hacc ho).1] at hr
      exact hyields (Option.some.inj hr ▸ hws v hv)

/-- A filter object that is read as one on a column is a filter on a column. -/
theorem readColumnFilter_of_ofJson {c : ColumnDef} {o : Operator} {a : Argument} {inverse : Bool}
    (h : ofJson config (.obj fields) = .ok (.ok (.column c o a inverse))) :
    readColumnFilter config fields = .ok (.ok (.column c o a inverse)) := by
  obtain ⟨kind, -, -, ⟨-, h⟩ | ⟨-, h⟩ | ⟨-, h⟩ | ⟨-, h⟩⟩ := ofJson_obj_eq_ok.1 h
  · obtain ⟨parts, -, h⟩ := map_eq_ok.1 h
    obtain ⟨all, fs, -, -, h⟩ := readOperation_eq_ok.1 h
    cases h
  · exact h
  · obtain ⟨_, _, _, -, -, -, h⟩ := readCustomFilter_eq_ok.1 h
    cases h
  · obtain ⟨-, _, -, h⟩ := readGlobalFilter_eq_ok.1 h
    cases h

end FilterNode

namespace ColumnFilter

/-- **What reduction does with the operands of a filter** on identifiers: it leaves identifiers in place and takes all
else for what no row has. Where all of several operands are identifiers, only repetitions are left out. -/
inductive KeepsIdentifiers (fields : Fields) : Prop
  | one {s : String} : fields.value "val" = .str s → isUuid s = true →
      (IsIdentifier s → ∀ column, reduceOn column fields = .ok none) →
      (¬IsIdentifier s → ∀ column, reduceOn column fields = .ok (some (.const false))) → KeepsIdentifiers fields
  | many {texts : List String} : fields.value "val" = .arr (texts.map .str) → (∀ s ∈ texts, isUuid s = true) →
      (∀ s ∈ texts, .str s ∈ (cleaned (texts.map .str)).1 ↔ IsIdentifier s) →
      ((cleaned (texts.map .str)).2 = true ↔ ∃ s ∈ texts, ¬IsIdentifier s) →
      ((∀ s ∈ texts, IsIdentifier s) → (cleaned (texts.map .str)).1 = unique [] (texts.map .str)) →
      KeepsIdentifiers fields

theorem isClean_iff {s : String} (h : isUuid s = true) : isClean s = true ↔ IsIdentifier s := by
  have hne : s ≠ "" := by
    rintro rfl
    exact absurd h (by decide)
  rw [isClean, Bool.and_eq_true, bne_iff_ne, isTrimmed_iff_isIdentifier h]
  exact and_iff_right hne

section Operands

variable {fields : Fields} {o : Operator}

theorem keepsIdentifiers_one {s : String} (hval : fields.value "val" = .str s) (hs : isUuid s = true)
    (hop : fields.value "op" = .str o.symbol) (ho : o = .equal ∨ o = .has) : KeepsIdentifiers fields := by
  have hne : s ≠ "" := by
    rintro rfl
    exact absurd hs (by decide)
  have hnull : hasOp fields ["null"] = false := by
    rw [hasOp_eq hop]
    rcases ho with rfl | rfl <;> decide
  have hequal : hasOp fields ["=", "==", "has"] = true := by
    rw [hasOp_eq hop]
    rcases ho with rfl | rfl <;> decide
  refine .one hval hs (fun hidentifier column => ?_) fun hother column => ?_
  · refine reduceOn_eq_none.2 (.inr ⟨hnull, by simp [hval], fun text htext => ?_⟩)
    obtain rfl : s = text := Json.str.inj (hval.symm.trans htext)
    exact ⟨hne, fun _ => hidentifier.isTrimmed⟩
  · have huntrimmed : Text.isTrimmed s = false := Bool.eq_false_iff.2 (mt (isTrimmed_iff_isIdentifier hs).1 hother)
    rw [reduceOn, hnull, hval]
    simp [hne, hequal, huntrimmed]

theorem keepsIdentifiers_many {texts : List String} (hval : fields.value "val" = .arr (texts.map .str))
    (htexts : ∀ s ∈ texts, isUuid s = true) : KeepsIdentifiers fields := by
  have htakes : ∀ j ∈ texts.map Json.str, Rule.uuid.Takes j := by
    intro j hj
    obtain ⟨s, hs, rfl⟩ := List.mem_map.1 hj
    exact ⟨_, read_uuid.2 ⟨htexts s hs, rfl⟩⟩
  refine .many hval htexts (fun s hs => ?_) ?_ fun hall => ?_
  · have hmem : Json.str s ∈ texts.map .str := List.mem_map_of_mem hs
    rw [mem_cleaned htakes, ← isClean_iff (htexts s hs)]
    simp [hmem]
  · rw [dropped_cleaned htakes]
    constructor
    · rintro ⟨s, hs, hdirty⟩
      obtain ⟨t, ht, heq⟩ := List.mem_map.1 hs
      obtain rfl : t = s := Json.str.inj heq
      exact ⟨t, ht, mt (isClean_iff (htexts t ht)).2 (Bool.eq_false_iff.1 hdirty)⟩
    · rintro ⟨s, hs, hother⟩
      exact ⟨s, List.mem_map_of_mem hs, Bool.eq_false_iff.2 (mt (isClean_iff (htexts s hs)).1 hother)⟩
  · rw [cleaned_eq htakes, List.filter_eq_self]
    intro j hj
    obtain ⟨s, hs, rfl⟩ := List.mem_map.1 ((mem_unique htakes).1 hj)
    exact (isClean_iff (htexts s hs)).2 (hall s hs)

/-- **The operands of an accepted filter** on identifiers are kept where they are identifiers. -/
theorem keepsIdentifiers_of_ofJson {config : EntityConfig} {c : ColumnDef} {a : Argument} {inverse : Bool}
    (h : FilterNode.ofJson config (.obj fields) = .ok (.ok (.column c o a inverse)))
    (hkind : c.type.HoldsIdentifiers) (ho : o ≠ .null) : KeepsIdentifiers fields := by
  obtain ⟨_, _, symbol, _, _, -, -, hop, hsymbol, hacc, hargument, hnode⟩ :=
    FilterNode.readColumnFilter_eq_ok.1 (FilterNode.readColumnFilter_of_ofJson h)
  cases hnode
  obtain rfl := Operator.eq_symbol_of_ofSymbol? hsymbol
  obtain ⟨hrule, hone⟩ := hkind.rule?_eq hacc ho
  obtain ⟨hnull, -⟩ | ⟨-, j, r, hval, hr, harg⟩ := FilterNode.readArgument_eq_ok.1 hargument
  · exact absurd hnull ho
  have hvalue : fields.value "val" = j := by rw [Fields.value, hval, Option.getD_some]
  obtain rfl : Rule.uuid = r := Option.some.inj (hrule.symm.trans hr)
  rcases harg with ⟨hlist, v, hv, -⟩ | ⟨-, values, rfl, -, htakes, -⟩
  · obtain ⟨s, rfl⟩ := Rule.exists_text_of_takes ⟨v, hv⟩ rfl
    exact keepsIdentifiers_one hvalue (read_uuid.1 hv).1 hop (hone hlist)
  · obtain ⟨texts, rfl⟩ := exists_texts fun j hj => Rule.exists_text_of_takes (htakes j hj) rfl
    refine keepsIdentifiers_many hvalue fun s hs => ?_
    obtain ⟨v, hv⟩ := htakes (.str s) (List.mem_map_of_mem hs)
    exact (read_uuid.1 hv).1

end Operands

end ColumnFilter

/-! ## Facilities and rows -/

namespace Service

variable {s : Service} {name : String}

theorem isUuid_of_entity {f : String} {e : Entity} (h : s.entity name (some f) = .ok e) : isUuid f = true := by
  have hfacility := (entity_eq_ok h).2 f rfl
  rw [hasFacility, Bool.and_eq_true] at hfacility
  exact hfacility.1

theorem isUuid_of_row {facility : Option String} {id : String} {fields : Fields}
    (h : s.row name facility id = .ok fields) : isUuid id = true := by
  obtain ⟨e, -, h⟩ := bind_eq_ok.1 h
  cases hid : isUuid id with
  | true => rfl
  | false =>
    rw [hid] at h
    cases h

end Service

/-! ## What is taken -/

/-- **The texts that are taken for identifiers** are the identifiers, and those with a line feed after them, which are
not trimmed. They are what accepted filters compare identifiers with, and what facilities and rows are found by. -/
theorem Rule.takes_identifiers (s : String) :
    (Rule.uuid.Takes (.str s) ↔ IsIdentifier s ∨ ∃ i, IsIdentifier i ∧ s = i ++ "\n") ∧
    ((Rule.uuid.Takes (.str s) ↔ IsIdentifier s) ↔ ¬∃ i, IsIdentifier i ∧ s = i ++ "\n") ∧
    (IsIdentifier s → s.length = 36) ∧
    (Rule.uuid.Takes (.str s) → (Text.isTrimmed s = true ↔ IsIdentifier s)) ∧
    (∀ config j n, FilterNode.ofJson config j = .ok (.ok n) → ∀ t ∈ n.tests, t.column.type.HoldsIdentifiers →
      ∀ v ∈ t.argument.operands, ∃ u, v = .text u ∧ Rule.uuid.Takes (.str u)) ∧
    (∀ config fields c o a inverse, FilterNode.ofJson config (.obj fields) = .ok (.ok (.column c o a inverse)) →
      c.type.HoldsIdentifiers → o ≠ .null → ColumnFilter.KeepsIdentifiers fields) ∧
    (∀ (service : Service) name e, service.entity name (some s) = .ok e → Rule.uuid.Takes (.str s)) ∧
    ∀ (service : Service) name facility row, service.row name facility s = .ok row → Rule.uuid.Takes (.str s) := by
  have htakes : ∀ u, Rule.uuid.Takes (.str u) ↔ isUuid u = true := fun u =>
    ⟨fun ⟨v, hv⟩ => (ColumnFilter.read_uuid.1 hv).1, fun hu => ⟨_, ColumnFilter.read_uuid.2 ⟨hu, rfl⟩⟩⟩
  rw [htakes s, isUuid_iff]
  refine ⟨Iff.rfl, ⟨fun h => ?_, fun h => or_iff_left h⟩, IsIdentifier.length_eq, fun h => ?_,
    fun config j n h t ht hkind v hv => ?_, fun config fields c o a inverse => ColumnFilter.keepsIdentifiers_of_ofJson,
    fun service name e h => ?_, fun service name facility row h => ?_⟩
  · rintro ⟨i, hi, rfl⟩
    exact not_isTrimmed_lineFeed i (h.1 (.inr ⟨i, hi, rfl⟩)).isTrimmed
  · exact isTrimmed_iff_isIdentifier (isUuid_iff.2 h)
  · obtain ⟨u, rfl, hu⟩ := (FilterNode.accepted_of_ofJson h).exists_text t ht hkind v hv
    exact ⟨u, rfl, (htakes u).2 hu⟩
  · exact isUuid_iff.1 (Service.isUuid_of_entity h)
  · exact isUuid_iff.1 (Service.isUuid_of_row h)

/-- A filter for the row with an identifier. -/
def Entity.withId (id : String) : Fields :=
  [("type", .str "column"), ("column", .str "id"), ("op", .str "="), ("val", .str id)]

/-- A facility and a meeting that are found have trimmed identifiers, and the filter for the meeting is kept. -/
theorem Rule.takes_identifiers_twoFacilities : ∃ facility id row,
    Service.twoFacilities.row "meetings" (some facility) id = .ok row ∧ IsIdentifier facility ∧ IsIdentifier id ∧
      ColumnFilter.KeepsIdentifiers (Entity.withId id) := by
  obtain ⟨-, -, -, hfacility, -, hkept, hfacilities, -⟩ := Rule.takes_identifiers (Sample.id 'f' 1)
  obtain ⟨-, -, -, hid, -, -, -, hrows⟩ := Rule.takes_identifiers (Sample.id '3' 1)
  have he : Entity.meetings ∈ Entity.all := by simp [Entity.all]
  have hunjoined : Entity.meetings.requiredNames = [] := by decide +kernel
  have hfound : Service.twoFacilities.hasFacility (Sample.id 'f' 1) = true ∧
      Entity.meetings.HasRow (Sample.id 'f' 1) Service.twoFacilities.store (Sample.id '3' 1) := by
    rw [Entity.hasRow_iff_of_unjoined hunjoined]
    decide +kernel
  obtain ⟨-, -, row, hrow, -⟩ | ⟨hnone, -⟩ := Service.row_eq_ok_or (s := Service.twoFacilities) he rfl
    (by decide +kernel) (by decide +kernel) (by decide +kernel) Request.isPageSize_int (Sample.id 'f' 1)
    (Sample.id '3' 1)
  · have hentity : Service.twoFacilities.entity "meetings" (some (Sample.id 'f' 1)) = .ok Entity.meetings :=
      (Service.entity_of_scoped he rfl Service.twoFacilities (Sample.id 'f' 1)).trans (if_pos hfound.1)
    obtain ⟨c, hc⟩ := Entity.exists_showsIds Entity.meetings he rfl
    have hread : FilterNode.ofJson Entity.meetings.config (.obj (Entity.withId (Sample.id '3' 1))) =
        .ok (.ok (Request.idFilter c (Sample.id '3' 1))) := Request.ofJson_rowRequest hc (by decide)
    have hkind : c.type.HoldsIdentifiers := .inl (by rw [hc.type]; rfl)
    exact ⟨_, _, row, hrow, (hfacility (hfacilities _ _ _ hentity)).1 (by decide),
      (hid (hrows _ _ _ _ hrow)).1 (by decide), hkept _ _ _ _ _ _ hread hkind (by decide)⟩
  · exact absurd hfound hnone

def idAndLineFeed : String := "0b9d8f0e-5a5e-4c3b-9a0e-2f8b5c1d7e6a\n"

/-- An identifier with a line feed after it is taken, though it is neither an identifier nor trimmed, and the filter
that is accepted with it is reduced to one that no row passes. -/
theorem Rule.not_isIdentifier_withLineFeed :
    Rule.uuid.Takes (.str idAndLineFeed) ∧ idAndLineFeed.length = 37 ∧ ¬IsIdentifier idAndLineFeed ∧
      Text.isTrimmed idAndLineFeed = false ∧
      (∃ c, FilterNode.ofJson Entity.meetings.config (.obj (Entity.withId idAndLineFeed)) =
        .ok (.ok (Request.idFilter c idAndLineFeed))) ∧
      ∀ column, ColumnFilter.reduceOn column (Entity.withId idAndLineFeed) = .ok (some (.const false)) := by
  have huuid : isUuid idAndLineFeed = true := by decide
  have huntrimmed : Text.isTrimmed idAndLineFeed = false := by decide
  have hother : ¬IsIdentifier idAndLineFeed := fun h => by
    rw [h.isTrimmed] at huntrimmed
    cases huntrimmed
  obtain ⟨c, hc⟩ := Entity.exists_showsIds Entity.meetings (by simp [Entity.all]) rfl
  refine ⟨⟨_, ColumnFilter.read_uuid.2 ⟨huuid, rfl⟩⟩, by decide, hother, huntrimmed,
    ⟨c, Request.ofJson_rowRequest hc huuid⟩, fun column => ?_⟩
  rfl

end TableQuery
