import TableQuery.Json.Basic
import TableQuery.Text.Quoted

/-!
# Written JSON

One printer, three layouts: `Layout.compact` for responses, `Layout.spaced` for the cells of a rendered table and
`Layout.indented` for the request log, which also escapes everything beyond ASCII.
-/

set_option autoImplicit false

namespace TableQuery.Json

/-- The spacing of written JSON and its treatment of characters beyond ASCII. -/
structure Layout where
  /-- What stands between two items on one line. -/
  comma : String
  /-- What stands between a field name and its value. -/
  colon : String
  /-- The indentation of a nested line, `none` to write everything on one line. -/
  indent : Option Nat
  /-- Characters beyond ASCII are escaped. -/
  asciiOnly : Bool

namespace Layout

def compact : Layout := ⟨",", ":", none, false⟩

/-- A blank after every comma and colon. -/
def spaced : Layout := ⟨", ", ": ", none, false⟩

/-- An item per line, indented by two, in ASCII. -/
def indented : Layout := ⟨",", ": ", some 2, true⟩

def unitEscape (n : Nat) : List Char := '\\' :: 'u' :: Text.hexPadded 4 n

def writeChar (layout : Layout) (c : Char) : List Char :=
  if c = '"' then ['\\', '"']
  else if c = '\\' then ['\\', '\\']
  else if c = '\n' then ['\\', 'n']
  else if c = '\r' then ['\\', 'r']
  else if c = '\t' then ['\\', 't']
  else if c.toNat = 8 then ['\\', 'b']
  else if c.toNat = 12 then ['\\', 'f']
  else if c.toNat < 32 then unitEscape c.toNat
  else if layout.asciiOnly && 127 ≤ c.toNat then
    match Text.half? c with
    | some unit => unitEscape unit
    | none =>
      if c.toNat < 0x10000 then unitEscape c.toNat
      else unitEscape (0xD800 + (c.toNat - 0x10000) / 0x400) ++ unitEscape (0xDC00 + (c.toNat - 0x10000) % 0x400)
  else [c]

def writeText (layout : Layout) (s : String) : String :=
  String.ofList ('"' :: s.toList.flatMap layout.writeChar ++ ['"'])

/-- The written items between the brackets of a list or an object at some depth. -/
def enclose (layout : Layout) (depth : Nat) (opening closing : String) (items : List String) : String :=
  if items.isEmpty then opening ++ closing
  else match layout.indent with
    | none => opening ++ layout.comma.intercalate items ++ closing
    | some width =>
      let newline := fun d => "\n" ++ String.ofList (List.replicate (width * d) ' ')
      opening ++ newline (depth + 1) ++ (layout.comma ++ newline (depth + 1)).intercalate items ++
        newline depth ++ closing

mutual

def writeAt (layout : Layout) (depth : Nat) : Json → String
  | .null => "null"
  | .bool b => if b then "true" else "false"
  | .num (.int n) => toString n
  | .num (.double x) => Number.Style.json.text Number.Digits.shortest x
  | .str s => layout.writeText s
  | .arr items => layout.enclose depth "[" "]" (writeItems layout (depth + 1) items)
  | .obj fields => layout.enclose depth "\x7b" "\x7d" (writeFields layout (depth + 1) fields)

def writeItems (layout : Layout) (depth : Nat) : List Json → List String
  | [] => []
  | x :: xs => writeAt layout depth x :: writeItems layout depth xs

def writeFields (layout : Layout) (depth : Nat) : List (String × Json) → List String
  | [] => []
  | (k, v) :: rest =>
    (layout.writeText k ++ layout.colon ++ writeAt layout depth v) :: writeFields layout depth rest

end

end Layout

def write (layout : Layout) (j : Json) : String :=
  layout.writeAt 0 j

/-- Inserts a field into fields that are sorted by name. -/
def insertField (p : String × Json) : List (String × Json) → List (String × Json)
  | [] => [p]
  | q :: rest => if p.1 ≤ q.1 then p :: q :: rest else q :: insertField p rest

mutual

/-- The value with the fields of all its objects sorted by name. -/
def sorted : Json → Json
  | arr items => arr (sortedItems items)
  | obj fields => obj (sortedFields fields)
  | j => j

def sortedItems : List Json → List Json
  | [] => []
  | x :: xs => sorted x :: sortedItems xs

/-- The fields sorted by name, each value with its own fields sorted. -/
def sortedFields : List (String × Json) → List (String × Json)
  | [] => []
  | (k, v) :: rest => insertField (k, sorted v) (sortedFields rest)

end

end TableQuery.Json
