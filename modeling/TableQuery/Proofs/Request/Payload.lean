import TableQuery.Proofs.Json.Same
import TableQuery.Proofs.Request.Written
import TableQuery.Service.Service

/-!
# Payloads of requests

A request is read from the fields of its payload one by one, so that a payload with another paging is read as the same
request with that paging (`DataRequest.read_set_paging`), and one with more columns as the same request with more
columns (`DataRequest.read_set_columns`). A request is read as it is written as JSON (`DataRequest.read_written`).
-/

set_option autoImplicit false

namespace TableQuery

theorem Fields.mem_keys_set {fields : Fields} {key k : String} {v : Json} (h : k ∈ (fields.set key v).keys) :
    k ∈ fields.keys ∨ k = key := by
  by_cases hk : k = key
  · exact Or.inr hk
  · rw [← lookup_isSome_iff_mem_keys, lookup_set_ne hk, lookup_isSome_iff_mem_keys] at h
    exact Or.inl h

theorem Fields.set_set (fields : Fields) (key : String) (v w : Json) :
    (fields.set key v).set key w = fields.set key w := by
  have hany : (fields.set key v).any (·.1 == key) = true := by
    rw [← lookup_isSome_iff, lookup_set_self]
    rfl
  have hreplaced : (fields.set key v).set key w =
      (fields.set key v).map fun p => if p.1 == key then (key, w) else p := if_pos hany
  rw [hreplaced]
  unfold set
  split
  next =>
    rw [List.map_map]
    refine List.map_congr_left fun p _ => ?_
    by_cases hp : p.1 = key <;> simp [hp]
  next hnone =>
    have hkept : fields.map (fun p => if p.1 == key then (key, w) else p) = fields := by
      refine (List.map_congr_left fun p hp => if_neg fun h => hnone ?_).trans (List.map_id _)
      exact List.any_eq_true.2 ⟨p, hp, h⟩
    rw [List.map_append, hkept, List.map_singleton, if_pos (beq_self_eq_true key)]

/-- What is read as a list is one. -/
theorem Reader.exists_items_of_list {α : Type} {read : Reader α} {j : Json} {needsItem : Bool} {values : List α}
    (h : list read needsItem j = .ok values) :
    ∃ items, j = .arr items ∧ (needsItem = true → items ≠ []) ∧ items.map read = values.map .ok := by
  cases j with
  | arr items =>
    rw [list] at h
    split at h
    · cases h
    next hitem =>
      refine ⟨items, rfl, fun hneeds hnil => hitem ?_, Checked.numbered_eq_ok.1 h⟩
      rw [hneeds, hnil]
      rfl
  | _ => cases h

theorem Reader.truthy_of_boolean {j : Json} (h : boolean j = .ok true) : j.truthy = true := by
  cases j with
  | bool b => exact Except.ok.inj h
  | str s =>
    have hne : s ≠ "" := by
      rintro rfl
      cases h
    simpa [Json.truthy] using hne
  | num n =>
    cases n with
    | int n =>
      have hne : n ≠ 0 := by
        rintro rfl
        cases h
      simpa [Json.truthy, Number.Numeric.isNonzero] using hne
    | double x =>
      cases x with
      | finite sign u =>
        have hne : u ≠ 0 := by
          rintro rfl
          have hzero : (Number.Double.finite sign 0).toInt? = some 0 := by
            cases sign <;> simp [Number.Double.toInt?, Number.Double.signedUnits]
          rw [boolean, hzero] at h
          cases h
        simpa [Json.truthy, Number.Numeric.isNonzero, Number.Double.isNonzero] using hne
      | _ => cases h
  | _ => cases h

theorem part_of_readColumn {inBody : Bool} {j : Json} {name : String} (h : readColumn inBody j = .ok name) :
    j.part "column" = .ok (.str name) := by
  obtain ⟨entry, hentry, rfl⟩ := map_eq_ok.1 h
  cases j with
  | obj fields =>
    obtain ⟨-, hread⟩ := Reader.closed_eq_ok.1 hentry
    obtain ⟨parts, hparts, rfl⟩ := map_eq_ok.1 hread
    rw [Checked.both_eq_ok, Checked.both_eq_ok] at hparts
    obtain ⟨-, hcolumn, -⟩ := hparts
    obtain ⟨j, hj, htext⟩ := Reader.required_eq_ok.1 hcolumn
    cases j with
    | str s =>
      rw [Json.part, hj, ← Except.ok.inj htext]
      rfl
    | _ => cases htext
  | _ => cases hentry

/-- A paging that gives no two positions is read as it is written. -/
theorem Paging.read_rewritten {p : Paging} (hone : (p.number.isSome && p.offset.isSome) = false) (inBody : Bool) :
    Paging.read inBody (.obj ([("size", .int p.size)] ++ (p.number.map (("number", Json.int ·))).toList ++
      (p.offset.map (("offset", Json.int ·))).toList)) = .ok p := by
  obtain ⟨size, number, offset⟩ := p
  refine read_eq_ok.2 ⟨?_, rfl, ?_, ?_, hone⟩
  all_goals cases number <;> cases offset <;> simp_all [Fields.keys, Reader.optional, List.lookup_cons] <;> rfl

theorem readFilterShape_eq_ok {j f : Json} (h : readFilterShape j = .ok f) : f = j := by
  cases j with
  | str s | obj fields => exact (Except.ok.inj h).symm
  | _ => cases h

namespace DataRequest

variable {fields : Fields} {d : DataRequest} {inBody : Bool}

/-- The entries of a payload for the columns that are read from it. -/
theorem exists_items_of_read (h : read inBody (.obj fields) = .ok d) :
    ∃ items, fields.lookup "columns" = some (.arr items) ∧ items ≠ [] ∧
      items.map (readColumn inBody) = d.columns.map .ok := by
  obtain ⟨j, hj, hread⟩ := Reader.required_eq_ok.1 (read_eq_ok.1 h).2.1
  obtain ⟨items, rfl, hne, hitems⟩ := Reader.exists_items_of_list hread
  exact ⟨items, hj, hne rfl, hitems⟩

theorem columns_ne_nil_of_read {j : Json} (h : read inBody j = .ok d) : d.columns ≠ [] := by
  cases j with
  | obj fields =>
    obtain ⟨items, -, hne, hitems⟩ := exists_items_of_read h
    intro hnil
    rw [hnil] at hitems
    exact hne (List.map_eq_nil_iff.1 hitems)
  | _ => cases h

/-- **A payload with another paging is read as the same request with that paging.** -/
theorem read_set_paging {j : Json} {p : Paging} (h : read inBody (.obj fields) = .ok d)
    (hp : Paging.read inBody j = .ok p) : read inBody (.obj (fields.set "paging" j)) = .ok { d with paging := p } := by
  obtain ⟨hkeys, hcolumns, hfilter, hsort, -, hdistinct⟩ := read_eq_ok.1 h
  have hsame : ∀ {k}, k ≠ "paging" → (fields.set "paging" j).lookup k = fields.lookup k := Fields.lookup_set_ne
  refine read_eq_ok.2 ⟨fun k hk => ?_, ?_, ?_, ?_, Reader.required_eq_ok.2 ⟨j, Fields.lookup_set_self, hp⟩, ?_⟩
  · rcases Fields.mem_keys_set hk with hk | rfl
    · exact hkeys k hk
    · decide
  · rwa [Reader.required, hsame (by decide)]
  · rwa [Reader.optional, hsame (by decide)]
  · rwa [Reader.optional, hsame (by decide)]
  · rwa [Reader.optional, hsame (by decide)]

/-- **A payload with more columns is read as the same request with more columns.** -/
theorem read_set_columns {items : List Json} (h : read inBody (.obj fields) = .ok d)
    (hitems : fields.lookup "columns" = some (.arr items)) (names : List String) :
    read inBody (.obj (fields.set "columns" (.arr (items ++ names.map fun name => columnEntry (.str name))))) =
      .ok { d with columns := d.columns ++ names } := by
  obtain ⟨hkeys, -, hfilter, hsort, hpaging, hdistinct⟩ := read_eq_ok.1 h
  obtain ⟨items', hitems', -, hread⟩ := exists_items_of_read h
  rw [hitems] at hitems'
  cases hitems'
  have hsame : ∀ {v : Json} {k : String}, k ≠ "columns" → (fields.set "columns" v).lookup k = fields.lookup k :=
    Fields.lookup_set_ne
  have hcolumns := list_columnEntries names hread
    (List.append_ne_nil_of_left_ne_nil (columns_ne_nil_of_read h) names)
  refine read_eq_ok.2 ⟨fun k hk => ?_, Reader.required_eq_ok.2 ⟨_, Fields.lookup_set_self, hcolumns⟩, ?_, ?_, ?_, ?_⟩
  · rcases Fields.mem_keys_set hk with hk | rfl
    · exact hkeys k hk
    · decide
  · rwa [Reader.optional, hsame (by decide)]
  · rwa [Reader.optional, hsame (by decide)]
  · rwa [Reader.required, hsame (by decide)]
  · rwa [Reader.optional, hsame (by decide)]

theorem read_of_lookup {fields' : Fields} (h : read inBody (.obj fields) = .ok d)
    (hsame : ∀ k, fields'.lookup k = fields.lookup k) : read inBody (.obj fields') = .ok d := by
  rw [read_eq_ok] at h ⊢
  simpa only [Reader.required, Reader.optional, ← Fields.lookup_isSome_iff_mem_keys, hsame] using h

/-- **A request is read as it is written** if it names a column, its filter has the right shape, and its paging gives no
two positions. -/
theorem read_written (hne : d.columns ≠ []) (hshape : readFilterShape d.filter = .ok d.filter)
    (hone : (d.paging.number.isSome && d.paging.offset.isSome) = false) (inBody : Bool) :
    read inBody (.obj d.toFields) = .ok d := by
  have hcolumns := @list_columnEntries inBody [] [] d.columns rfl hne
  exact read_eq_ok.2 ⟨by simp [toFields, Fields.keys, knownFields], Reader.required_eq_ok.2 ⟨_, rfl, hcolumns⟩,
    Checked.under_eq_ok.2 hshape, Checked.under_eq_ok.2 (list_sortEntries d.sort),
    Reader.required_eq_ok.2 ⟨_, rfl, Paging.read_rewritten hone inBody⟩, rfl⟩

/-- **A request that is written as JSON again is read as it was.** -/
theorem read_toFields {payload : Json} (h : read inBody payload = .ok d) (inBody' : Bool) :
    read inBody' (.obj d.toFields) = .ok d := by
  have hne := columns_ne_nil_of_read h
  cases payload with
  | obj fields =>
    obtain ⟨-, -, hfilter, -, hpaging, -⟩ := read_eq_ok.1 h
    have hshape : readFilterShape d.filter = .ok d.filter := by
      rcases Reader.optional_eq_ok.1 hfilter with ⟨-, hdefault⟩ | ⟨j, -, hread⟩
      · rw [hdefault]
        rfl
      · obtain rfl := readFilterShape_eq_ok hread
        exact hread
    obtain ⟨j, -, hread⟩ := Reader.required_eq_ok.1 hpaging
    cases j with
    | obj fields =>
      obtain ⟨-, -, -, -, hone⟩ := Paging.read_eq_ok.1 hread
      exact read_written hne hshape hone inBody'
    | _ => cases hread
  | _ => cases h

end DataRequest

namespace Service

variable {fields : Fields} {d : DataRequest}

theorem requestedNames_of_read {inBody : Bool} (h : DataRequest.read inBody (.obj fields) = .ok d) :
    requestedNames fields = .ok (d.columns.map .str) := by
  obtain ⟨items, hitems, -, hread⟩ := DataRequest.exists_items_of_read h
  have hentries : List.Forall₂ (· = ·) (items.map (readColumn inBody)) (d.columns.map .ok) :=
    List.forall₂_eq_eq_eq.symm ▸ hread
  rw [List.forall₂_map_left_iff, List.forall₂_map_right_iff] at hentries
  rw [requestedNames, hitems]
  exact mapM_of_forall₂ (List.forall₂_map_right_iff.2 (hentries.imp fun _ _ => part_of_readColumn))

/-- A payload asks for what a request asks for, whatever page it names: it is the request, with some paging, written as
JSON, or it is read as the request once it has the right paging. -/
def Asks (payload : Fields) (d : DataRequest) : Prop :=
  (∃ p, payload = DataRequest.toFields { d with paging := p }) ∨
    ∃ paging, DataRequest.read false (.obj (payload.set "paging" paging)) = .ok d

namespace Asks

variable {payload : Fields}

theorem of_read (h : DataRequest.read false (.obj payload) = .ok d) : Asks payload d := by
  obtain ⟨j, -, hpaging⟩ := Reader.required_eq_ok.1 (DataRequest.read_eq_ok.1 h).2.2.2.2.1
  exact Or.inr ⟨j, DataRequest.read_set_paging h hpaging⟩

/-- A payload that asks for what a request asks for is read as the request once it has the right paging. -/
theorem read_set_paging (h : Asks payload d) {inBody : Bool} {body : Json}
    (hread : DataRequest.read inBody body = .ok d) {j : Json} {p : Paging} (hp : Paging.read false j = .ok p) :
    DataRequest.read false (.obj (payload.set "paging" j)) = .ok { d with paging := p } := by
  rcases h with ⟨p', rfl⟩ | ⟨paging, hpayload⟩
  · have hsame : (DataRequest.toFields { d with paging := p' }).set "paging" j = d.toFields.set "paging" j := rfl
    rw [hsame]
    exact DataRequest.read_set_paging (DataRequest.read_toFields hread false) hp
  · rw [← Fields.set_set payload "paging" paging j]
    exact DataRequest.read_set_paging hpayload hp

theorem requestedNames_eq (h : Asks payload d) {inBody : Bool} {body : Json}
    (hread : DataRequest.read inBody body = .ok d) : requestedNames payload = .ok (d.columns.map .str) := by
  have hp : Paging.read false (.obj [("size", .int 1), ("number", .int 1)]) = .ok _ := Paging.read_written false 1 1
  have hnames := requestedNames_of_read (h.read_set_paging hread hp)
  rw [requestedNames, Fields.lookup_set_ne (by decide)] at hnames
  exact hnames

/-- A payload that asks for what a request asks for is read as the request with more columns, and with another paging,
once it has these. -/
theorem read_set_columns (h : Asks payload d) {inBody : Bool} {body : Json}
    (hread : DataRequest.read inBody body = .ok d) {j : Json} {p : Paging} (hp : Paging.read false j = .ok p) :
    ∃ items, payload.lookup "columns" = some (.arr items) ∧
      ∀ names : List String, DataRequest.read false (.obj ((payload.set "columns"
        (.arr (items ++ names.map fun name => columnEntry (.str name)))).set "paging" j)) =
          .ok { d with columns := d.columns ++ names, paging := p } := by
  have hpaged := h.read_set_paging hread hp
  obtain ⟨items, hitems, -, -⟩ := DataRequest.exists_items_of_read hpaged
  refine ⟨items, by rwa [Fields.lookup_set_ne (by decide)] at hitems, fun names => ?_⟩
  refine DataRequest.read_of_lookup (DataRequest.read_set_columns hpaged hitems names) fun k => ?_
  by_cases hpaging : k = "paging"
  · rw [hpaging, Fields.lookup_set_self, Fields.lookup_set_ne (by decide), Fields.lookup_set_self]
  · by_cases hcolumns : k = "columns"
    · rw [hcolumns, Fields.lookup_set_ne (by decide), Fields.lookup_set_self, Fields.lookup_set_self]
    · rw [Fields.lookup_set_ne hpaging, Fields.lookup_set_ne hcolumns, Fields.lookup_set_ne hcolumns,
        Fields.lookup_set_ne hpaging]

/-- Where different rows are asked for, the payload says so. -/
theorem truthy_distinct (h : Asks payload d) {inBody : Bool} {body : Json}
    (hread : DataRequest.read inBody body = .ok d) (hd : d.distinct = true) :
    (payload.value "distinct").truthy = true := by
  have hp : Paging.read false (.obj [("size", .int 1), ("number", .int 1)]) = .ok _ := Paging.read_written false 1 1
  obtain ⟨-, -, -, -, -, hdistinct⟩ := DataRequest.read_eq_ok.1 (h.read_set_paging hread hp)
  rw [Reader.optional_eq_ok, Fields.lookup_set_ne (by decide)] at hdistinct
  rcases hdistinct with ⟨-, hdefault⟩ | ⟨j, hj, hread⟩
  · exact absurd (hd.symm.trans hdefault) (by decide)
  · rw [Fields.value, hj]
    exact Reader.truthy_of_boolean (hread.trans (congrArg Except.ok hd))

end Asks

end Service

end TableQuery
