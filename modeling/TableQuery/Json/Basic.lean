import TableQuery.Number.Basic

/-!
# JSON values

Requests, responses and filters travel as JSON. An object keeps its fields in the order in which they were
written, because messages show it, while two objects are the same (`Json.same`) whatever the order of their
fields. Numbers and truth values are the same if they have the same numeric value, `true` counting as one and
`false` as zero.
-/

set_option autoImplicit false

namespace TableQuery

open Number (Numeric Double)

/-- A JSON value; an object is the list of its fields in the order written, with distinct names. -/
inductive Json where
  | null
  | bool (b : Bool)
  | num (n : Numeric)
  | str (s : String)
  | arr (items : List Json)
  | obj (fields : List (String × Json))
  deriving Repr, Inhabited

namespace Json

abbrev int (n : Int) : Json := num (.int n)

abbrev double (x : Double) : Json := num (.double x)

def number? : Json → Option Numeric
  | num n => some n
  | bool b => some (.int (if b then 1 else 0))
  | _ => none

/-- Whether a value counts as true: all do but `null`, `false`, zero and what is empty. -/
def truthy : Json → Bool
  | null => false
  | bool b => b
  | num n => n.isNonzero
  | str s => s != ""
  | arr items => !items.isEmpty
  | obj fields => !fields.isEmpty

def str? : Json → Option String
  | str s => some s
  | _ => none

def items? : Json → Option (List Json)
  | arr items => some items
  | _ => none

/-- The elements of a value that has some: the items of a list, the characters of a text, the field names of an
object. -/
def elements? : Json → Option (List Json)
  | arr items => some items
  | str s => some (s.toList.map fun c => str c.toString)
  | obj fields => some (fields.map fun p => str p.1)
  | _ => none

def fields? : Json → Option (List (String × Json))
  | obj fields => some fields
  | _ => none

def isContainer : Json → Bool
  | arr _ | obj _ => true
  | _ => false

/-- The named field of an object. -/
def get? (key : String) : Json → Option Json
  | obj fields => fields.lookup key
  | _ => none

mutual

def same : Json → Json → Bool
  | arr xs, arr ys => sameItems xs ys
  | obj xs, obj ys => xs.length == ys.length && sameFields xs ys
  | str s, str t => s == t
  | null, null => true
  | a, b => match a.number?, b.number? with
    | some m, some n => m.same n
    | _, _ => false

def sameItems : List Json → List Json → Bool
  | [], [] => true
  | x :: xs, y :: ys => same x y && sameItems xs ys
  | _, _ => false

/-- Every field of the first object is in the second. -/
def sameFields : List (String × Json) → List (String × Json) → Bool
  | [], _ => true
  | (k, v) :: rest, ys =>
    (match ys.lookup k with
      | some w => same v w
      | none => false) && sameFields rest ys

end

mutual

/-- Whether a value comes before another one, if the two can be compared: texts by code point, numbers by value,
lists by the first items that differ. -/
def less? : Json → Json → Option Bool
  | arr xs, arr ys => lessItems? xs ys
  | str s, str t => some (s < t)
  | a, b => match a.number?, b.number? with
    | some m, some n => some (m.less n)
    | _, _ => none

/-- Whether a list comes before another one; a list comes before those that go on after it. -/
def lessItems? : List Json → List Json → Option Bool
  | x :: xs, y :: ys => if same x y then lessItems? xs ys else less? x y
  | [], _ :: _ => some true
  | _, [] => some false

end

def isIn (j : Json) (values : List Json) : Bool := values.any (·.same j)

def isText (s : String) : Json → Bool
  | str t => t == s
  | _ => false

end Json

abbrev Fields := List (String × Json)

namespace Fields

def value (fields : Fields) (key : String) : Json :=
  (fields.lookup key).getD .null

/-- The fields with one of them set: in its place if it was there, else at the end. -/
def set (fields : Fields) (key : String) (v : Json) : Fields :=
  if fields.any (·.1 == key) then fields.map fun p => if p.1 == key then (key, v) else p
  else fields ++ [(key, v)]

/-- The fields without the named one. -/
def erase (fields : Fields) (key : String) : Fields :=
  fields.filter (·.1 != key)

/-- The named fields in the order of the names, as far as they exist. -/
def select (fields : Fields) (keys : List String) : Fields :=
  keys.filterMap fun k => (fields.lookup k).map (k, ·)

def keys (fields : Fields) : List String :=
  fields.map (·.1)

end Fields

/-- Values under distinct names, which need not be texts. -/
abbrev NameMap := List (Json × Json)

namespace NameMap

def get? (m : NameMap) (name : Json) : Option Json :=
  (m.find? (·.1.same name)).map (·.2)

/-- The map with the value of a name set: in its place if the name was there, else at the end. -/
def set (m : NameMap) (name v : Json) : NameMap :=
  if m.any (·.1.same name) then m.map fun p => if p.1.same name then (p.1, v) else p
  else m ++ [(name, v)]

/-- The map with one value under all the given names. -/
def constant (names : List Json) (v : Json) : NameMap :=
  names.foldl (fun m name => m.set name v) []

end NameMap

end TableQuery
