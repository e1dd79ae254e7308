import Mathlib.Data.Finset.Basic
import TableQuery.Proofs.Filter.ColumnReduction
import TableQuery.Proofs.Filter.Shortened

/-!
# What lists of texts ask of cells

A cell has a text or none, or a set of texts (`TextCell`). A filter with a list of texts asks for a relation between
the list and the cell (`TextCell.answer?`): that the text is in the list, or that the list is the set, is part of it,
meets it or covers it. Reduction leaves repeated texts out of a list, and texts that no row can have, and writes short
lists as constants, as filters for missing values or with other operators. None of this changes what is asked of a
cell that a row can have, inverted or not: `TextCell.truth?_reduceFilter`.
-/

set_option autoImplicit false

namespace TableQuery

/-- What a row has in a column: a text or none, or a set of texts. -/
inductive TextCell where
  | value (text : Option String)
  | members (texts : Finset String)
  deriving DecidableEq

namespace TextCell

/-- Texts in a cell are trimmed and not empty, and a cell without a text is one of a nullable column. -/
def Sound (nullable : Bool) : TextCell → Prop
  | value none => nullable = true
  | value (some text) => text ≠ "" ∧ Text.isTrimmed text = true
  | members texts => (texts = ∅ → nullable = true) ∧ ∀ t ∈ texts, t ≠ "" ∧ Text.isTrimmed t = true

/-- Whether a cell is as an operator with a list of texts asks for, if it can be asked that. -/
def answerList? : TextCell → Operator → List String → Option Bool
  | value text, .oneOf, list => some (decide (∃ t ∈ list, text = some t))
  | members texts, .equal, list => some (decide (texts = list.toFinset))
  | members texts, .hasAll, list => some (decide (list.toFinset ⊆ texts))
  | members texts, .hasAny, list => some (decide (∃ t ∈ list, t ∈ texts))
  | members texts, .hasOnly, list => some (decide (texts ⊆ list.toFinset))
  | _, _, _ => none

/-- Whether a cell is as an operator with an operand asks for, if it can be asked that. -/
def answer? : TextCell → Operator → Json → Option Bool
  | value text, .null, _ => some (decide (text = none))
  | members texts, .null, _ => some (decide (texts = ∅))
  | value text, .equal, .str t => some (decide (text = some t))
  | members texts, .has, .str t => some (decide (t ∈ texts))
  | cell, o, .arr items => (items.mapM Json.str?).bind (cell.answerList? o)
  | _, _, _ => none

/-- The truth value of a filter on a column in a row that has a cell there, if that is what the filter is. -/
def truth? (cell : TextCell) (name : String) : Json → Option Bool
  | .obj fields =>
    if (Fields.value fields "type").isText "column" && (Fields.value fields "column").isText name then
      (((Fields.value fields "op").str?.bind Operator.ofSymbol?).bind fun o =>
        cell.answer? o (Fields.value fields "val")).map (· != Fields.isInverted fields)
    else none
  | j => const? j

/-- The operators that ask for a relation between a list and cells of some kind. -/
def TakesList : TextCell → Operator → Prop
  | value _, o => o = .oneOf
  | members _, o => o ∈ [.equal, .hasAll, .hasAny, .hasOnly]

variable {cell : TextCell} {name : String} {column fields : Fields} {texts : List String}

/-! ## Filters without parts -/

/-- The truth value of a filter without parts. -/
def truthOf? (cell : TextCell) (name : String) : Simple → Option Bool
  | .const b => some b
  | .leaf .column fields => cell.truth? name (.obj fields)
  | .leaf _ _ => none

theorem truthOf?_make (o : Operator) (v : Option Json) :
    cell.truthOf? name (ColumnFilter.make (.str name) o.symbol v) = cell.answer? o (v.getD .null) := by
  have hop : (Json.str o.symbol).str?.bind Operator.ofSymbol? = some o := Operator.ofSymbol?_symbol o
  cases v <;>
    simp [truthOf?, truth?, ColumnFilter.make, Fields.value, Fields.isInverted, Json.isText, Json.truthy,
      List.lookup_cons, hop]

theorem truth?_toJson {r : Simple} {b : Bool} (h : cell.truthOf? name r = some b) (invert : Bool) :
    cell.truth? name (r.invertedIf invert).stripped.toDraft.toJson = some (b != invert) := by
  cases r with
  | const value =>
    cases h
    cases b <;> cases invert <;> rfl
  | leaf kind fields =>
    cases kind with
    | custom => cases h
    | global => cases h
    | column =>
      have hvalue : ∀ k ∈ LeafKind.column.keys, k ≠ "inv" → Fields.value (Fields.tidy
          (Fields.select (if invert then fields.inverted else fields) LeafKind.column.keys)) k = fields.value k := by
        intro k hk hinv
        rw [Draft.value_stripped hk hinv]
        cases invert with
        | true => exact Fields.value_inverted_ne hinv
        | false => rfl
      have hflag : Fields.isInverted (Fields.tidy
          (Fields.select (if invert then fields.inverted else fields) LeafKind.column.keys)) =
            (fields.isInverted != invert) := by
        rw [Draft.isInverted_stripped]
        cases invert with
        | true => rw [if_pos rfl, Fields.isInverted_inverted, Bool.bne_true]
        | false => rw [if_neg (by simp), Bool.bne_false]
      rw [truthOf?, truth?] at h
      show cell.truth? name (.obj (Fields.tidy
        (Fields.select (if invert then fields.inverted else fields) LeafKind.column.keys))) = _
      rw [truth?, hvalue "type" (by decide) (by decide), hvalue "column" (by decide) (by decide),
        hvalue "op" (by decide) (by decide), hvalue "val" (by decide) (by decide), hflag]
      split at h
      next hcolumn =>
        rw [if_pos hcolumn]
        obtain ⟨answer, hanswer, rfl⟩ := Option.map_eq_some_iff.1 h
        rw [hanswer, Option.map_some, Bool.bne_assoc]
      next => cases h

theorem truthOf?_nullFilter {set : Finset String} (h : (members set).Sound (ColumnFilter.isNullable column)) :
    (members set).truthOf? name (ColumnFilter.nullFilter column (.str name)) = some (decide (set = ∅)) := by
  rw [ColumnFilter.nullFilter]
  cases hnullable : ColumnFilter.isNullable column with
  | true => exact truthOf?_make .null none
  | false =>
    have hne : set ≠ ∅ := by
      intro hempty
      rw [h.1 hempty] at hnullable
      cases hnullable
    rw [decide_eq_false hne]
    rfl

/-! ## Lists of texts -/

/-- What is left of a list of texts are those that a row can have; whether there were others is told. -/
theorem exists_cleaned (texts : List String) :
    ∃ kept : List String, (ColumnFilter.cleaned (texts.map .str)).1 = kept.map .str ∧
      (∀ t, t ∈ kept ↔ t ∈ texts ∧ t ≠ "" ∧ Text.isTrimmed t = true) ∧
      ((ColumnFilter.cleaned (texts.map .str)).2 = true → ∃ t ∈ texts, ¬ (t ≠ "" ∧ Text.isTrimmed t = true)) ∧
      ((ColumnFilter.cleaned (texts.map .str)).2 = false → kept.toFinset = texts.toFinset) := by
  have hclean : ∀ t, ColumnFilter.isClean t = true ↔ t ≠ "" ∧ Text.isTrimmed t = true := by
    simp [ColumnFilter.isClean]
  have htakes : ∀ j ∈ texts.map Json.str, Rule.string.Takes j := by
    intro j hj
    obtain ⟨t, -, rfl⟩ := List.mem_map.1 hj
    exact ⟨.text t, rfl⟩
  have hdropped := ColumnFilter.dropped_cleaned htakes
  obtain ⟨kept, hkept⟩ : ∃ kept : List String, (ColumnFilter.cleaned (texts.map .str)).1 = kept.map .str := by
    refine ColumnFilter.exists_texts fun j hj => ?_
    obtain ⟨t, -, rfl⟩ := List.mem_map.1 (ColumnFilter.cleaned_subset _ hj)
    exact ⟨t, rfl⟩
  have hmem : ∀ t, t ∈ kept ↔ t ∈ texts ∧ t ≠ "" ∧ Text.isTrimmed t = true := by
    intro t
    have hmem := ColumnFilter.mem_cleaned htakes (j := .str t)
    rw [hkept] at hmem
    simpa [← hclean] using hmem
  refine ⟨kept, hkept, hmem, fun h => ?_, fun h => ?_⟩
  · obtain ⟨t, ht, hnot⟩ := hdropped.1 h
    exact ⟨t, by simpa using ht, fun h => by rw [(hclean t).2 h] at hnot; cases hnot⟩
  · ext t
    rw [List.mem_toFinset, List.mem_toFinset, hmem]
    refine ⟨And.left, fun ht => ⟨ht, ?_⟩⟩
    by_contra hnot
    rw [hdropped.2 ⟨t, List.mem_map_of_mem ht, Bool.eq_false_iff.2 (mt (hclean t).1 hnot)⟩] at h
    cases h

theorem answer?_texts (o : Operator) (h : o ≠ .null) :
    cell.answer? o (.arr (texts.map .str)) = cell.answerList? o texts := by
  have hlist : ((texts.map Json.str).mapM Json.str?).bind (cell.answerList? o) = cell.answerList? o texts := by
    rw [ColumnFilter.mapM_str?, Option.bind_some]
  cases cell <;> cases o <;> first | exact absurd rfl h | exact hlist

/-- A list that is written as a constant if it is empty, and with another operator if it has one text. -/
theorem truthOf?_listed (one many : Operator) {b : Bool} (hempty : cell.answerList? many [] = some b)
    (hone : ∀ t, cell.answer? one (.str t) = cell.answerList? many [t]) (hmany : many ≠ .null) :
    cell.truthOf? name (match texts.map Json.str with
      | [] => .const b
      | [v] => ColumnFilter.make (.str name) one.symbol (some v)
      | vs => ColumnFilter.make (.str name) many.symbol (some (.arr vs))) = cell.answerList? many texts := by
  match texts with
  | [] => exact hempty.symm
  | [t] => exact (truthOf?_make one (some (.str t))).trans (hone t)
  | t :: u :: texts =>
    exact (truthOf?_make many (some (.arr ((t :: u :: texts).map .str)))).trans (answer?_texts many hmany)

/-- A list that is written as a filter for missing values if it is empty. -/
theorem truthOf?_whole {set : Finset String} {o : Operator}
    (hcell : (members set).Sound (ColumnFilter.isNullable column))
    (hempty : (members set).answerList? o [] = some (decide (set = ∅))) (ho : o ≠ .null) :
    (members set).truthOf? name (if (texts.map Json.str).isEmpty then ColumnFilter.nullFilter column (.str name)
      else ColumnFilter.make (.str name) o.symbol (some (.arr (texts.map .str)))) =
        (members set).answerList? o texts := by
  cases texts with
  | nil => exact (truthOf?_nullFilter hcell).trans hempty.symm
  | cons t texts => exact (truthOf?_make o (some (.arr ((t :: texts).map .str)))).trans (answer?_texts o ho)

/-- What is asked of a text with a list is asked with the texts that are left. -/
theorem truthOf?_oneOf {text : Option String} (hop : fields.value "op" = .str Operator.oneOf.symbol)
    (hname : fields.value "column" = .str name) (hcell : (value text).Sound (ColumnFilter.isNullable column)) :
    ∃ r, ColumnFilter.reduceList column fields (texts.map .str) = some r ∧
      (value text).truthOf? name r = (value text).answerList? .oneOf texts := by
  obtain ⟨kept, hkept, hmem, -, -⟩ := exists_cleaned texts
  have hsame : (∃ t ∈ kept, text = some t) ↔ ∃ t ∈ texts, text = some t := by
    refine exists_congr fun t => ⟨fun ⟨ht, htext⟩ => ⟨((hmem t).1 ht).1, htext⟩, ?_⟩
    rintro ⟨ht, rfl⟩
    exact ⟨(hmem t).2 ⟨ht, hcell⟩, rfl⟩
  rw [ColumnFilter.reduceList_eq_oneOf hop, hkept, hname]
  refine ⟨_, rfl, (truthOf?_listed .equal .oneOf (b := false) ?_ ?_ (by decide)).trans ?_⟩
  · simp [answerList?]
  · simp [answer?, answerList?]
  · exact congrArg some (decide_eq_decide.2 hsame)

section Members

variable {set : Finset String}

theorem Sound.not_subset {nullable : Bool} (h : (members set).Sound nullable)
    (hother : ∃ t ∈ texts, ¬ (t ≠ "" ∧ Text.isTrimmed t = true)) : ¬ texts.toFinset ⊆ set := by
  obtain ⟨t, ht, hnot⟩ := hother
  exact fun hsub => hnot (h.2 t (hsub (List.mem_toFinset.2 ht)))

theorem truthOf?_equal (hop : fields.value "op" = .str Operator.equal.symbol)
    (hname : fields.value "column" = .str name) (hcell : (members set).Sound (ColumnFilter.isNullable column)) :
    ∃ r, ColumnFilter.reduceList column fields (texts.map .str) = some r ∧
      (members set).truthOf? name r = (members set).answerList? .equal texts := by
  obtain ⟨kept, hkept, -, hdropped, hsame⟩ := exists_cleaned texts
  rw [ColumnFilter.reduceList_eq_equal hop, hkept, hname]
  refine ⟨_, rfl, ?_⟩
  cases hd : (ColumnFilter.cleaned (texts.map .str)).2 with
  | true =>
    have hne : set ≠ texts.toFinset := fun h => hcell.not_subset (hdropped hd) (h ▸ Finset.Subset.refl _)
    exact congrArg some (decide_eq_false hne).symm
  | false =>
    refine (truthOf?_whole (o := .equal) hcell ?_ (by decide)).trans ?_
    · rfl
    · rw [answerList?, answerList?, hsame hd]

theorem truthOf?_hasAll (hop : fields.value "op" = .str Operator.hasAll.symbol)
    (hname : fields.value "column" = .str name) (hcell : (members set).Sound (ColumnFilter.isNullable column)) :
    ∃ r, ColumnFilter.reduceList column fields (texts.map .str) = some r ∧
      (members set).truthOf? name r = (members set).answerList? .hasAll texts := by
  obtain ⟨kept, hkept, -, hdropped, hsame⟩ := exists_cleaned texts
  rw [ColumnFilter.reduceList_eq_hasAll hop, hkept, hname]
  refine ⟨_, rfl, ?_⟩
  cases hd : (ColumnFilter.cleaned (texts.map .str)).2 with
  | true =>
    exact congrArg some (decide_eq_false (hcell.not_subset (hdropped hd))).symm
  | false =>
    refine (truthOf?_listed .has .hasAll (b := true) ?_ ?_ (by decide)).trans ?_
    · simp [answerList?]
    · simp [answer?, answerList?]
    · rw [answerList?, answerList?, hsame hd]

theorem truthOf?_hasAny (hop : fields.value "op" = .str Operator.hasAny.symbol)
    (hname : fields.value "column" = .str name) (hcell : (members set).Sound (ColumnFilter.isNullable column)) :
    ∃ r, ColumnFilter.reduceList column fields (texts.map .str) = some r ∧
      (members set).truthOf? name r = (members set).answerList? .hasAny texts := by
  obtain ⟨kept, hkept, hmem, -, -⟩ := exists_cleaned texts
  have hsame : (∃ t ∈ kept, t ∈ set) ↔ ∃ t ∈ texts, t ∈ set :=
    exists_congr fun t => ⟨fun ⟨ht, hset⟩ => ⟨((hmem t).1 ht).1, hset⟩,
      fun ⟨ht, hset⟩ => ⟨(hmem t).2 ⟨ht, hcell.2 t hset⟩, hset⟩⟩
  rw [ColumnFilter.reduceList_eq_hasAny hop, hkept, hname]
  refine ⟨_, rfl, (truthOf?_listed .has .hasAny (b := false) ?_ ?_ (by decide)).trans ?_⟩
  · simp [answerList?]
  · simp [answer?, answerList?]
  · exact congrArg some (decide_eq_decide.2 hsame)

theorem truthOf?_hasOnly (hop : fields.value "op" = .str Operator.hasOnly.symbol)
    (hname : fields.value "column" = .str name) (hcell : (members set).Sound (ColumnFilter.isNullable column)) :
    ∃ r, ColumnFilter.reduceList column fields (texts.map .str) = some r ∧
      (members set).truthOf? name r = (members set).answerList? .hasOnly texts := by
  obtain ⟨kept, hkept, hmem, -, -⟩ := exists_cleaned texts
  have hsame : set ⊆ kept.toFinset ↔ set ⊆ texts.toFinset := by
    simp only [Finset.subset_iff, List.mem_toFinset, hmem]
    exact ⟨fun h t ht => (h ht).1, fun h t ht => ⟨h ht, hcell.2 t ht⟩⟩
  rw [ColumnFilter.reduceList_eq_hasOnly hop, hkept, hname]
  refine ⟨_, rfl, (truthOf?_whole (o := .hasOnly) hcell ?_ (by decide)).trans ?_⟩
  · simp [answerList?, Finset.subset_empty]
  · exact congrArg some (decide_eq_decide.2 hsame)

end Members

/-! ## Reduction -/

/-- The reduced filter with a list asks of a cell what the filter asks, its inversion left aside. -/
theorem truthOf?_reduceList (texts : List String) {o : Operator} (hop : fields.value "op" = .str o.symbol)
    (hname : fields.value "column" = .str name) (hcell : cell.Sound (ColumnFilter.isNullable column))
    (ho : cell.TakesList o) : ∃ r, ColumnFilter.reduceList column fields (texts.map .str) = some r ∧
      cell.truthOf? name r = cell.answerList? o texts := by
  cases cell with
  | value text =>
    cases ho
    exact truthOf?_oneOf hop hname hcell
  | members set =>
    simp only [TakesList, List.mem_cons, List.not_mem_nil, or_false] at ho
    rcases ho with rfl | rfl | rfl | rfl
    · exact truthOf?_equal hop hname hcell
    · exact truthOf?_hasAll hop hname hcell
    · exact truthOf?_hasAny hop hname hcell
    · exact truthOf?_hasOnly hop hname hcell

theorem exists_answerList? (texts : List String) {o : Operator} (ho : cell.TakesList o) :
    ∃ b, cell.answerList? o texts = some b := by
  cases cell with
  | value text =>
    cases ho
    exact ⟨_, rfl⟩
  | members set =>
    simp only [TakesList, List.mem_cons, List.not_mem_nil, or_false] at ho
    rcases ho with rfl | rfl | rfl | rfl <;> exact ⟨_, rfl⟩

/-- **Reduction keeps what a list of texts asks of cells.** Whatever is repeated in the list, empty or not trimmed: the
filter is reduced to one that has the same value for every cell that a row can have, inverted or not. -/
theorem truth?_reduceFilter {s : ColumnSchemas} {o : Operator} (hfind : s.find? (.str name) = some column)
    (htype : fields.value "type" = .str "column") (hname : fields.value "column" = .str name)
    (hop : fields.value "op" = .str o.symbol) (hval : fields.value "val" = .arr (texts.map .str))
    (hcell : cell.Sound (ColumnFilter.isNullable column)) (ho : cell.TakesList o) :
    ∃ f b, reduceFilter s (.obj fields) = .ok f ∧
      cell.answerList? o texts = some b ∧
      cell.truth? name (.obj fields) = some (b != fields.isInverted) ∧
      cell.truth? name f = some (b != fields.isInverted) := by
  have hnull : o ≠ .null := by
    rintro rfl
    cases cell <;> simp [TakesList] at ho
  obtain ⟨r, hr, htruth⟩ := truthOf?_reduceList texts hop hname hcell ho
  obtain ⟨b, hb⟩ := exists_answerList? texts ho
  have hon : ColumnFilter.reduceOn column fields = .ok (some r) := by
    have hnot : ColumnFilter.hasOp fields ["null"] = false := by
      rw [ColumnFilter.hasOp_eq hop]
      cases o <;> first | exact absurd rfl hnull | rfl
    rw [ColumnFilter.reduceOn, hnot, hval]
    simp [hr]
  have hreduced : ColumnFilter.reduce s fields = .ok (r.invertedIf fields.isInverted) :=
    ColumnFilter.reduce_eq_ok.2 ⟨by rw [hname]; rfl, column, some r, by rw [hname]; exact hfind, hon, rfl⟩
  refine ⟨(r.invertedIf fields.isInverted).stripped.toDraft.toJson, b, ?_, hb, ?_, ?_⟩
  · have hdraft : Draft.ofJson (.obj fields) = .leaf .column fields := Draft.ofJson_leaf htype
    rw [reduceFilter, hdraft, Draft.reduce_leaf, reduceLeaf, hreduced]
    rfl
  · have hsymbol : (Json.str o.symbol).str?.bind Operator.ofSymbol? = some o := Operator.ofSymbol?_symbol o
    rw [truth?, htype, hname, hop, hval, if_pos (by simp [Json.isText]), hsymbol, Option.bind_some,
      answer?_texts o hnull, hb]
    rfl
  · exact truth?_toJson (htruth.trans hb) _

theorem truth?_reduceFilter_tags :
    let tags : Fields := [("name", .str "tags"), ("type", .str "uuid_list"), ("nullable", .bool true)]
    let fields : Fields := [("type", .str "column"), ("column", .str "tags"), ("op", .str "has_only"),
      ("val", .arr [.str "a", .str " b", .str "a", .str ""]), ("inv", .bool true)]
    ∃ f b, reduceFilter ⟨[(.str "tags", tags)]⟩ (.obj fields) = .ok f ∧
      (members {"a", "b"}).answerList? .hasOnly ["a", " b", "a", ""] = some b ∧
      (members {"a", "b"}).truth? "tags" (.obj fields) = some (b != true) ∧
      (members {"a", "b"}).truth? "tags" f = some (b != true) :=
  truth?_reduceFilter (o := .hasOnly) rfl rfl rfl rfl rfl
    ⟨fun _ => rfl, fun t ht => by
      rcases Finset.mem_insert.1 ht with rfl | ht
      · exact ⟨by decide, by decide +kernel⟩
      · rw [Finset.mem_singleton.1 ht]
        exact ⟨by decide, by decide +kernel⟩⟩
    (by simp [TakesList])

end TextCell

end TableQuery
