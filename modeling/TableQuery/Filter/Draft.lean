import TableQuery.Json.Display

/-!
# Drafts of filters

A client builds filters as JSON without knowing all about them. A `Draft` is such a filter taken apart as far as
its operations go: constants, operations on filters, and leaves that keep their fields as they are. What cannot
be taken apart becomes `Draft.bad`, which only does harm when it is looked at.

`Draft.inverted` is the opposite of a draft; `invertFilter` is the same on filters that have not been taken apart.
-/

set_option autoImplicit false

namespace TableQuery

/-- Why a filter is no good. -/
inductive BadFilterReason where
  /-- It is neither a constant nor an object. -/
  | noFilter
  | constValue
  | globalValue
  | unknownType
  | unknownOperation
  | noFilterList
  | unknownColumn
  | emptyValue
  | unexpectedList
  deriving DecidableEq, Repr

def BadFilterReason.explanation? : BadFilterReason → Option String
  | noFilter => none
  | constValue => some "const filter value must be \"always\" or \"never\""
  | globalValue => some "global filter value must be a string"
  | unknownType => some "unknown filter type"
  | unknownOperation => some "unknown bool operator"
  | noFilterList => some "bool operator requires a list of filters"
  | unknownColumn => some "unknown column"
  | emptyValue => some "empty value"
  | unexpectedList => some "operator does not take a list"

/-- A filter that is no good, as it was written. -/
structure BadFilter where
  filter : Json
  reason : BadFilterReason
  deriving Repr

def BadFilter.message (b : BadFilter) : String :=
  "Bad filter: " ++ b.filter.display ++ ((b.reason.explanation?.map fun s => " (" ++ s ++ ")").getD "")

/-- The kinds of filters that contain no filters. -/
inductive LeafKind where
  | column
  | custom
  | global
  deriving DecidableEq, Repr

def LeafKind.name : LeafKind → String
  | column => "column"
  | custom => "custom"
  | global => "global"

/-- The fields that matter in a filter of some kind, in the order in which they are written. -/
def LeafKind.keys : LeafKind → List String
  | column => ["type", "column", "op", "val", "inv"]
  | custom => ["type", "customFilter", "params", "inv"]
  | global => ["type", "op", "val", "inv"]

/-- The symbol of the operation on filters that asks for all of them, or for some of them. -/
def operationSymbol (all : Bool) : String :=
  if all then "&" else "|"

def constText (value : Bool) : String :=
  if value then "always" else "never"

def const? (j : Json) : Option Bool :=
  if j.isText "always" then some true else if j.isText "never" then some false else none

/-- Whether fields tell that their filter is inverted. -/
def Fields.isInverted (fields : Fields) : Bool :=
  (fields.value "inv").truthy

def Fields.inverted (fields : Fields) : Fields :=
  if fields.isInverted then fields.erase "inv" else fields.set "inv" (.bool true)

def Fields.tidy (fields : Fields) : Fields :=
  if fields.isInverted then fields else fields.erase "inv"

/-- The opposite of a filter that has not been taken apart. -/
def invertFilter (j : Json) : Except BadFilter Json :=
  match const? j, j with
  | some value, _ => .ok (.str (constText !value))
  | none, .obj fields => .ok (.obj (Fields.inverted fields))
  | none, j => .error ⟨j, .noFilter⟩

/-- A filter taken apart. -/
inductive Draft where
  | const (value : Bool)
  /-- All filters, or some of them if `all` is not set. -/
  | op (all : Bool) (filters : List Draft) (inverse : Bool)
  | leaf (kind : LeafKind) (fields : Fields)
  | bad (b : BadFilter)
  deriving Repr, Inhabited

namespace Draft

mutual

/-- The number of constants, leaves and operations in a draft. -/
def weight : Draft → Nat
  | op _ fs _ => weightOfAll fs + 1
  | _ => 1

/-- The number of constants, leaves and operations in drafts. -/
def weightOfAll : List Draft → Nat
  | [] => 0
  | d :: ds => weight d + weightOfAll ds

end

/-- A draft has at least one part. -/
theorem weight_pos (d : Draft) : 0 < d.weight := by
  cases d <;> simp [weight]

/-- Nothing is lost when lists are put together. -/
theorem weightOfAll_append (ds es : List Draft) : weightOfAll (ds ++ es) = weightOfAll ds + weightOfAll es := by
  induction ds with
  | nil => simp [weightOfAll]
  | cons d ds ih => simp [weightOfAll, ih]; omega

/-- A draft of the opposite filter. -/
def inverted : Draft → Draft
  | const value => const !value
  | op all fs inverse => op all fs !inverse
  | leaf kind fields => leaf kind fields.inverted
  | bad b => bad b

def invertedIf (invert : Bool) (d : Draft) : Draft :=
  if invert then d.inverted else d

/-- The opposite has as many parts. -/
theorem weight_inverted (d : Draft) : d.inverted.weight = d.weight := by
  cases d <;> simp [inverted, weight]

/-- A draft inverted or not has as many parts. -/
theorem weight_invertedIf (invert : Bool) (d : Draft) : (d.invertedIf invert).weight = d.weight := by
  cases invert <;> simp [invertedIf, weight_inverted]

/-- Opposites have as many parts. -/
theorem weightOfAll_map_inverted (ds : List Draft) : weightOfAll (ds.map inverted) = weightOfAll ds := by
  induction ds with
  | nil => rfl
  | cons d ds ih => simp [weightOfAll, weight_inverted, ih]

def ofConst (fields : Fields) : Draft :=
  match const? (fields.value "val") with
  | some value => const (value != fields.isInverted)
  | none => bad ⟨.obj fields, .constValue⟩

/-- An operation on drafts, or on no list. -/
def ofOperation (fields : Fields) (parts : Option (List Draft)) : Draft :=
  let op? := fields.value "op"
  if op?.isText "&" || op?.isText "|" then
    match parts with
    | some ds => op (op?.isText "&") ds fields.isInverted
    | none => bad ⟨.obj fields, .noFilterList⟩
  else bad ⟨.obj fields, .unknownOperation⟩

mutual

def ofJson : Json → Draft
  | .str s => if s == "always" then const true else if s == "never" then const false else bad ⟨.str s, .noFilter⟩
  | .obj fields =>
    let type := Fields.value fields "type"
    if type.isText "const" then ofConst fields
    else if type.isText "op" then ofOperation fields (partsOf fields)
    else if type.isText "column" then leaf .column fields
    else if type.isText "custom" then leaf .custom fields
    else if type.isText "global" then leaf .global fields
    else bad ⟨.obj fields, .unknownType⟩
  | j => bad ⟨j, .noFilter⟩

/-- The drafts in the list that is the value of an operation. -/
def partsOf : Fields → Option (List Draft)
  | [] => none
  | (k, v) :: rest =>
    if k == "val" then
      match v with
      | .arr items => some (ofItems items)
      | _ => none
    else partsOf rest

def ofItems : List Json → List Draft
  | [] => []
  | j :: js => ofJson j :: ofItems js

end

mutual

def toJson : Draft → Json
  | const value => .str (constText value)
  | op all fs inverse =>
    .obj ([("type", .str "op"), ("op", .str (operationSymbol all)), ("val", .arr (toItems fs))] ++
      if inverse then [("inv", .bool true)] else [])
  | leaf _ fields => .obj fields
  | bad b => b.filter

def toItems : List Draft → List Json
  | [] => []
  | d :: ds => toJson d :: toItems ds

end

end Draft

end TableQuery
