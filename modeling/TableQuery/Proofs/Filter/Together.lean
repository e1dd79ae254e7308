import TableQuery.Proofs.Filter.Composed
import TableQuery.Proofs.Filter.NormalForm
import TableQuery.Proofs.Filter.Soundness

/-!
# Filters that are put together

What the server accepts is something that clients compose (`EntityConfig.composes_of_ofJson`), and so is a
conjunction of such filters and of searches. A client that has the schema can therefore reduce it, and gets a filter
that is accepted again (`EntityConfig.exists_reduced_conjunction`).

A conjunction is reduced if each of its filters is (`exists_reduced_together`), where no list of values contains a list
(`Draft.Flat`). The parts of a reduced filter may be put into the conjunction, so that they are reduced again; they are
in normal form, which is left as it is (`Draft.Normal.reduce_eq`).
-/

set_option autoImplicit false

namespace TableQuery

def conjunction (filters : List Json) : Json :=
  .obj [("type", .str "op"), ("op", .str "&"), ("val", .arr filters)]

def searchFilter (text : String) : Json :=
  .obj [("type", .str "global"), ("op", .str "%v%"), ("val", .str text)]

namespace EntityConfig

variable {config : EntityConfig}

/-- **What the server accepts, clients may compose.** -/
theorem composes_of_ofJson {j : Json} :
    ∀ {n : FilterNode}, FilterNode.ofJson config j = .ok (.ok n) → config.Composes j := by
  induction j using Json.filter_induct with
  | other j hj =>
    intro n h
    cases j with
    | str s =>
      rw [FilterNode.ofJson] at h
      split at h
      next hs => exact beq_iff_eq.1 hs ▸ .const true
      next =>
        split at h
        next hs => exact beq_iff_eq.1 hs ▸ .const false
        next => cases h
    | obj fields => cases hj
    | _ => simp [FilterNode.ofJson, Checked.fail] at h
  | obj fields ih =>
    intro n h
    have hleaf : ∀ kind : LeafKind, fields.value "type" = .str kind.name → config.Composes (.obj fields) :=
      fun kind htype => .leaf kind (Draft.composed_of_accepted ⟨htype, n, h⟩)
    obtain ⟨kind, htype, htidy, ⟨rfl, hparts⟩ | ⟨rfl, -⟩ | ⟨rfl, -⟩ | ⟨rfl, -⟩⟩ := FilterNode.ofJson_obj_eq_ok.1 h
    · obtain ⟨all, items, fs, hop, hval, -, hitems, rfl⟩ := FilterNode.readParts_eq_ok.1 hparts
      obtain ⟨known, -, herrors⟩ := htidy
      have hinv := FilterNode.inversionErrors_eq_nil_iff_tells.1 (List.append_eq_nil_iff.1 herrors).2
      refine .op all htype (FilterNode.eq_of_operation? hop) hval hinv fun j hj => ?_
      have hmem : FilterNode.ofJson config j ∈ fs.map fun f => .ok (.ok f) := hitems ▸ List.mem_map_of_mem hj
      obtain ⟨f, -, hf⟩ := List.mem_map.1 hmem
      exact ih items hval j hj hf.symm
    · exact hleaf .column htype
    · exact hleaf .custom htype
    · exact hleaf .global htype

theorem composes_searchFilter (config : EntityConfig) (text : String) : config.Composes (searchFilter text) := by
  refine .leaf .global ⟨rfl, fun j hj => ?_, _, rfl⟩
  cases hj

theorem composes_conjunction {filters : List Json} (h : ∀ j ∈ filters, config.Composes j) :
    config.Composes (conjunction filters) := by
  refine .op true rfl rfl rfl (fun j hj => ?_) h
  cases hj

/-- **A conjunction of filters that clients compose is reduced to a filter that is accepted.** -/
theorem exists_reduced_conjunction (hnames : (config.columns.map (·.name)).Nodup) {s : ColumnSchemas}
    (hs : config.clientColumns = .ok s) {filters : List Json} (h : ∀ j ∈ filters, config.Composes j) :
    ∃ g f, reduceFilter s (conjunction filters) = .ok g ∧ FilterNode.ofJson config g = .ok (.ok f) := by
  obtain ⟨s', g, f, hs', hg, hf⟩ := exists_reduced hnames (composes_conjunction h)
  obtain rfl : s' = s := Except.ok.inj (hs'.symm.trans hs)
  exact ⟨g, f, hg, hf⟩

end EntityConfig

/-! ## Conjunctions of flat filters -/

namespace Draft

variable {s : ColumnSchemas}

/-- **The parts of an operation are reduced** if each of them is flat and can be reduced. -/
theorem reducedParts_succeed (s : ColumnSchemas) : ∀ all ds,
    (∀ d ∈ ds, d.LeavesIn Flat ∧ ∃ r, reduce s d = .ok r) → ∃ parts, reducedParts s all ds = .ok parts := by
  refine reducedParts_induct (s := s) _ ?nil ?cons
  case nil => exact fun all _ => ⟨_, reducedParts_nil⟩
  case cons =>
    intro all d rest ihrest ihsplit hds
    obtain ⟨⟨hflat, r, hr⟩, hrest⟩ := List.forall_mem_cons.1 hds
    refine exists_reducedParts_cons hr (ihrest hrest) fun es hsplit => ?_
    have hnormal := (isReduced_reduce (reducesTo_fixed s) hflat hr).of_partOf (reducesTo_fixed s) hsplit
    refine ihsplit r es hr hsplit (List.forall_mem_append.2 ⟨fun e he => ?_, hrest⟩)
    exact ⟨(hnormal e he).built.leavesIn.mono (reducesTo_fixed s).again, e, (hnormal e he).reduce_eq⟩

theorem ofJson_conjunction (filters : List Json) :
    ofJson (conjunction filters) = .op true (filters.map ofJson) false :=
  ofJson_op rfl rfl rfl

end Draft

variable {s : ColumnSchemas} {filters : List Json}

/-- **A conjunction is reduced** if each of its filters can be, where no list of values contains a list. -/
theorem exists_reduced_together (hflat : ∀ f ∈ filters, (Draft.ofJson f).LeavesIn Draft.Flat)
    (h : ∀ f ∈ filters, ∃ g, reduceFilter s f = .ok g) : ∃ g, reduceFilter s (conjunction filters) = .ok g := by
  obtain ⟨parts, hparts⟩ := Draft.reducedParts_succeed s true (filters.map Draft.ofJson) fun d hd => by
    obtain ⟨f, hf, rfl⟩ := List.mem_map.1 hd
    obtain ⟨g, hg⟩ := h f hf
    obtain ⟨r, hr, -⟩ := map_eq_ok.1 hg
    exact ⟨hflat f hf, r, hr⟩
  rw [reduceFilter, Draft.ofJson_conjunction, Draft.reduce_op, hparts]
  exact ⟨_, rfl⟩

/-! ## Truth -/

theorem filterTruth_conjunction {v : Draft.Reading} :
    filterTruth v (conjunction filters) = true ↔ ∀ f ∈ filters, filterTruth v f = true := by
  rw [filterTruth, Draft.ofJson_conjunction, Draft.truth_op, quantify_map, Bool.bne_false]
  exact List.all_eq_true

/-- **The reduced conjunction of filters is true iff all of them are**, if every leaf that its reduction meets has the
value of its own reduction. -/
theorem filterTruth_of_reduced {g : Json} (h : reduceFilter s (conjunction filters) = .ok g) {v : Draft.Reading}
    (hv : Draft.Reading.Respects s (Draft.Meets s (Draft.ofJson (conjunction filters))) v) :
    filterTruth v g = true ↔ ∀ f ∈ filters, filterTruth v f = true := by
  obtain ⟨r, hr, rfl⟩ := map_eq_ok.1 h
  rw [← filterTruth_conjunction, filterTruth, filterTruth, Draft.ofJson_toJson_of_reduce hr,
    Draft.truth_reduce (Draft.closed_meets s _) hv (fun _ hl => .own hl) hr]

end TableQuery
