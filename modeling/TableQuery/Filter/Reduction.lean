import TableQuery.Fault
import TableQuery.Filter.Draft
import TableQuery.Text.Blank

/-!
# Reducing filters

`Draft.reduce` turns a filter into a simpler one that lets the same rows pass, with what the schema tells about
the columns. Constants disappear or decide; an operation inside the same operation, or inside the opposite of
the dual one, is taken apart; an operation on one filter is that filter. Empty texts and lists have meanings of
their own, and values that no row can have are dropped.

The parts of an operation are worked off one by one. A part that is taken apart is reduced first, and what it
consists of is reduced again: it has fewer constants, leaves and operations than the part (`Draft.weight`),
which is why the work ends. Nothing is looked at after a part that decides.
-/

set_option autoImplicit false

namespace TableQuery

/-- What a client knows of the columns: the fields of each under its name. -/
structure ColumnSchemas where
  columns : List (Json × Fields) := []
  deriving Repr, Inhabited

namespace ColumnSchemas

/-- The name and the fields of a column. -/
def entry : Json → Except Fault (Json × Fields)
  | .obj fields =>
    match fields.lookup "name" with
    | none => .error .missingKey
    | some name => if name.isContainer then .error .wrongKind else .ok (name, fields)
  | _ => .error .wrongKind

/-- The items of a schema's list of columns. What has items but is no list of objects cannot be used, unless it is
empty. -/
def itemsOf (schema : Fields) : Except Fault (List Json) :=
  match schema.lookup "columns" with
  | none | some (.str "") | some (.obj []) => .ok []
  | some (.arr items) => .ok items
  | some _ => .error .wrongKind

def ofFields (schema : Fields) : Except Fault ColumnSchemas := do
  return ⟨← (← itemsOf schema).mapM entry⟩

/-- The latest column with a name. -/
def find? (s : ColumnSchemas) (name : Json) : Option Fields :=
  (s.columns.reverse.find? (·.1.same name)).map (·.2)

end ColumnSchemas

/-- Why a filter cannot be reduced. -/
inductive ReductionError where
  | bad (b : BadFilter)
  /-- A list or an object stands for a name. -/
  | fault (f : Fault)
  deriving Repr

/-- A filter without parts: a constant or a leaf. -/
inductive Simple where
  | const (value : Bool)
  | leaf (kind : LeafKind) (fields : Fields)
  deriving Repr

namespace Simple

/-- The draft of a filter without parts. -/
def toDraft : Simple → Draft
  | const value => .const value
  | leaf kind fields => .leaf kind fields

/-- A filter without parts weighs one. -/
theorem weight_toDraft (s : Simple) : s.toDraft.weight = 1 := by
  cases s <;> simp [toDraft, Draft.weight]

def invertedIf (invert : Bool) : Simple → Simple
  | const value => const (value != invert)
  | leaf kind fields => leaf kind (if invert then fields.inverted else fields)

/-- The fields that matter, without an inversion that is none. -/
def stripped : Simple → Simple
  | const value => const value
  | leaf kind fields => leaf kind (fields.select kind.keys).tidy

end Simple

/-! ## Leaves -/

namespace ColumnFilter

/-- Whether a column's values may be missing; those of a count never are. -/
def isNullable (column : Fields) : Bool :=
  !(column.value "type").isText "count" && (column.value "nullable").truthy

/-- The operator of a filter is among those with the given symbols. -/
def hasOp (fields : Fields) (symbols : List String) : Bool :=
  symbols.any (fields.value "op").isText

/-- A filter on the same column with an operator and possibly a value. -/
def make (name : Json) (op : String) (value : Option Json) : Simple :=
  .leaf .column ([("type", .str "column"), ("column", name), ("op", .str op)] ++ (value.map ("val", ·)).toList)

/-- The filter for rows without a value. -/
def nullFilter (column : Fields) (name : Json) : Simple :=
  if isNullable column then make name "null" none else .const false

/-- The values without those that came before. -/
def unique : List Json → List Json → List Json
  | _, [] => []
  | seen, v :: vs => if seen.any (·.same v) then unique seen vs else v :: unique (seen ++ [v]) vs

/-- A text that a row can have: not empty, and trimmed. -/
def isClean (s : String) : Bool :=
  s != "" && Text.isTrimmed s

/-- The different values of a list, those that no row can have left out if all are texts, and whether some were. -/
def cleaned (values : List Json) : List Json × Bool :=
  let values := unique [] values
  match values.mapM Json.str? with
  | some texts => ((texts.filter isClean).map .str, !texts.all isClean)
  | none => (values, false)

/-- A filter with a list of values, its inversion left aside; none if its operator takes no list. -/
def reduceList (column fields : Fields) (values : List Json) : Option Simple :=
  let name := fields.value "column"
  let (values, dropped) := cleaned values
  if hasOp fields ["in"] then
    some (match values with
      | [] => .const false
      | [v] => make name "=" (some v)
      | vs => make name "in" (some (.arr vs)))
  else if hasOp fields ["="] then
    some (if dropped then .const false
      else if values.isEmpty then nullFilter column name
      else make name "=" (some (.arr values)))
  else if hasOp fields ["has_all"] then
    some (if dropped then .const false
      else match values with
        | [] => .const true
        | [v] => make name "has" (some v)
        | vs => make name "has_all" (some (.arr vs)))
  else if hasOp fields ["has_any"] then
    some (match values with
      | [] => .const false
      | [v] => make name "has" (some v)
      | vs => make name "has_any" (some (.arr vs)))
  else if hasOp fields ["has_only"] then
    some (if values.isEmpty then nullFilter column name else make name "has_only" (some (.arr values)))
  else none

/-- A filter with an empty text, its inversion left aside; none if its operator takes no empty text. -/
def reduceEmpty (column fields : Fields) : Option Simple :=
  let missing := nullFilter column (fields.value "column")
  if hasOp fields ["=", "==", "lv", "<="] then some missing
  else if hasOp fields [">"] then some (missing.invertedIf true)
  else if hasOp fields [">=", "v%", "%v", "%v%", "/v/"] then some (.const true)
  else if hasOp fields ["<", "has"] then some (.const false)
  else none

/-- A filter on a column, its inversion left aside; the inner `none` leaves it as it is. -/
def reduceOn (column fields : Fields) : Except BadFilterReason (Option Simple) :=
  if hasOp fields ["null"] then .ok (if isNullable column then none else some (.const false))
  else match fields.value "val" with
    | .str s =>
      if s == "" then
        match reduceEmpty column fields with
        | some r => .ok (some r)
        | none => .error .emptyValue
      else if hasOp fields ["=", "==", "has"] && !Text.isTrimmed s then .ok (some (.const false))
      else .ok none
    | .arr values =>
      match reduceList column fields values with
      | some r => .ok (some r)
      | none => .error .unexpectedList
    | _ => .ok none

def reduce (s : ColumnSchemas) (fields : Fields) : Except ReductionError Simple :=
  let name := fields.value "column"
  if name.isContainer then .error (.fault .wrongKind)
  else match s.find? name with
    | none => .error (.bad ⟨.obj fields, .unknownColumn⟩)
    | some column =>
      match reduceOn column fields with
      | .error reason => .error (.bad ⟨.obj fields, reason⟩)
      | .ok none => .ok (.leaf .column fields)
      | .ok (some r) => .ok (r.invertedIf fields.isInverted)

end ColumnFilter

/-- A search for a text; one without words lets everything pass. -/
def reduceGlobal (fields : Fields) : Except ReductionError Simple :=
  match fields.value "val" with
  | .str text =>
    .ok (if (Text.trim text).isEmpty then (Simple.const true).invertedIf fields.isInverted else .leaf .global fields)
  | _ => .error (.bad ⟨.obj fields, .globalValue⟩)

def reduceLeaf (s : ColumnSchemas) : LeafKind → Fields → Except ReductionError Simple
  | .column, fields => (ColumnFilter.reduce s fields).map (·.stripped)
  | .custom, fields => .ok (Simple.leaf .custom fields).stripped
  | .global, fields => (reduceGlobal fields).map (·.stripped)

/-! ## Operations -/

namespace Draft

/-- What a reduced part is to the operation that it is part of. -/
inductive Part where
  /-- It decides alone. -/
  | deciding
  /-- It changes nothing. -/
  | neutral
  /-- It stands for other parts. -/
  | splits (parts : List Draft)
  | stays

/-- What a reduced draft is to an operation that asks for all its parts, or for some. -/
def partOf (all : Bool) : Draft → Part
  | const value => if value == all then .neutral else .deciding
  | op inner ds inverse =>
    if inner == all && !inverse then .splits ds
    else if inner != all && inverse then .splits (ds.map inverted)
    else .stays
  | _ => .stays

/-- A part that stands for others weighs more than they do. -/
theorem weightOfAll_lt_of_partOf {all : Bool} {d : Draft} {ds : List Draft} (h : d.partOf all = .splits ds) :
    weightOfAll ds < d.weight := by
  unfold partOf at h
  split at h
  · split at h <;> cases h
  · split at h
    · cases h; simp [weight]
    · split at h
      · cases h; simp [weight, weightOfAll_map_inverted]
      · cases h
  · cases h

/-- The operation on reduced parts, of which none is left if one decided. -/
def assemble (all : Bool) : Option (List Draft) → Draft
  | none => const !all
  | some [] => const all
  | some [d] => d
  | some ds => op all ds false

/-- The operation weighs at most one more than its parts. -/
theorem weight_assemble_le (all : Bool) (parts : Option (List Draft)) (n : Nat)
    (h : ∀ ds, parts = some ds → weightOfAll ds ≤ n) : (assemble all parts).weight ≤ n + 1 := by
  match parts with
  | none => simp [assemble, weight]
  | some [] => simp [assemble, weight]
  | some [d] =>
    have := h [d] rfl
    simp only [weightOfAll, assemble] at *
    omega
  | some (d :: e :: ds) =>
    have := h (d :: e :: ds) rfl
    simp only [assemble, weight] at *
    omega

mutual

/-- The reduced filter, with the proof that it is no heavier. -/
def reduceBounded (s : ColumnSchemas) : (d : Draft) → Except ReductionError { r : Draft // r.weight ≤ d.weight }
  | const value => .ok ⟨const value, Nat.le_refl _⟩
  | bad b => .error (.bad b)
  | leaf kind fields =>
    match reduceLeaf s kind fields with
    | .error e => .error e
    | .ok r => .ok ⟨r.toDraft, by simp [Simple.weight_toDraft, weight]⟩
  | op all ds inverse =>
    match reduceParts s all ds with
    | .error e => .error e
    | .ok ⟨parts, h⟩ =>
      .ok ⟨(assemble all parts).invertedIf inverse, by
        rw [weight_invertedIf, weight]
        exact weight_assemble_le all parts _ h⟩
termination_by d => 2 * d.weight
decreasing_by simp only [weight]; omega

/-- The reduced parts of an operation, none if one of them decides. -/
def reduceParts (s : ColumnSchemas) (all : Bool) :
    (pending : List Draft) →
      Except ReductionError { r : Option (List Draft) // ∀ ds, r = some ds → weightOfAll ds ≤ weightOfAll pending }
  | [] => .ok ⟨some [], by simp [weightOfAll]⟩
  | d :: rest =>
    match reduceBounded s d with
    | .error e => .error e
    | .ok ⟨r, hr⟩ =>
      match hp : partOf all r with
      | .deciding => .ok ⟨none, by simp⟩
      | .neutral =>
        match reduceParts s all rest with
        | .error e => .error e
        | .ok ⟨parts, h⟩ => .ok ⟨parts, fun ds hd => by have := h ds hd; simp only [weightOfAll]; omega⟩
      | .splits ds =>
        have hs := weightOfAll_lt_of_partOf hp
        match reduceParts s all (ds ++ rest) with
        | .error e => .error e
        | .ok ⟨parts, h⟩ => .ok ⟨parts, fun es he => by
            have := h es he
            simp only [weightOfAll, weightOfAll_append] at *
            omega⟩
      | .stays =>
        match reduceParts s all rest with
        | .error e => .error e
        | .ok ⟨parts, h⟩ => .ok ⟨parts.map (r :: ·), fun ds hd => by
            obtain ⟨es, he, rfl⟩ := Option.map_eq_some_iff.1 hd
            have := h es he
            simp only [weightOfAll]
            omega⟩
termination_by pending => 2 * weightOfAll pending + 1
decreasing_by
  all_goals
    have := weight_pos d
    simp only [weightOfAll, weightOfAll_append] at *
    omega

end

def reduce (s : ColumnSchemas) (d : Draft) : Except ReductionError Draft :=
  (d.reduceBounded s).map (·.1)

end Draft

/-- A filter reduced with what a schema tells about the columns. -/
def reduceFilter (s : ColumnSchemas) (filter : Json) : Except ReductionError Json :=
  ((Draft.ofJson filter).reduce s).map (·.toJson)

end TableQuery
