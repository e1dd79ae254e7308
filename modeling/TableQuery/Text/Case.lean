import TableQuery.Text.CaseTable
import TableQuery.Text.Printable

/-!
# Case mapping

Two case mappings live side by side. `lower` and `upper` are the full ones of Unicode, in which one character
may become several and a sigma at the end of a word takes its final form. `foldAscii` touches the letters of
ASCII only: it is the one that stored texts are compared under.
-/

set_option autoImplicit false

namespace TableQuery.Text

/-- The image of a code point under the run that holds it, or the code point itself. -/
def throughRuns (runs : List (Nat × Nat × Nat × Int)) (c : Char) : Char :=
  match runs.find? fun (first, last, step, _) =>
      first ≤ c.toNat && c.toNat ≤ last && (c.toNat - first) % step == 0 with
  | some (_, _, _, distance) => Char.ofNat (c.toNat + distance).toNat
  | none => c

/-- A character that is skipped when the case context of a sigma is looked for. -/
def isCaseIgnorable (c : Char) : Bool := inClass caseIgnorableChanges c

def isCased (c : Char) : Bool := inClass casedChanges c

/-- The nearest character that is not ignorable is a cased letter. -/
def nextIsCased (cs : List Char) : Bool :=
  match cs.dropWhile isCaseIgnorable with
  | [] => false
  | c :: _ => isCased c

/-- The lower case form of a character between the characters before it, nearest first, and those after it. -/
def lowerChar (before : List Char) (c : Char) (after : List Char) : List Char :=
  if c.toNat < 128 then [c.toLower]
  else if c = 'Σ' then
    [if nextIsCased before && !nextIsCased after then 'ς' else 'σ']
  else if c = 'İ' then ['i', '\u0307']
  else [throughRuns lowerRuns c]

/-- Lower case of the characters `cs` that follow `before`, nearest first. -/
def lowerAfter : List Char → List Char → List Char
  | _, [] => []
  | before, c :: r => lowerChar before c r ++ lowerAfter (c :: before) r

/-- The lower case form of a text. -/
def lower (s : String) : String :=
  String.ofList (lowerAfter [] s.toList)

def upperChar (c : Char) : List Char :=
  if c.toNat < 128 then [c.toUpper]
  else match upperSequences.lookup c.toNat with
    | some ns => ns.map Char.ofNat
    | none => [throughRuns upperRuns c]

/-- The code points whose image under some runs is that of a character, the character itself aside. -/
def sources (runs : List (Nat × Nat × Nat × Int)) (c : Char) : List Char :=
  runs.filterMap fun (first, last, step, distance) =>
    let n := (c.toNat - distance).toNat
    if first ≤ n && n ≤ last && (n - first) % step == 0 then some (Char.ofNat n) else none

/-- The lower case form of a character by itself, as a single character. -/
def lowerSingle (c : Char) : Char :=
  if c.toNat < 128 then c.toLower else if c = 'İ' then 'i' else throughRuns lowerRuns c

/-- The upper case form of a character that is a single character. -/
def upperSingle (c : Char) : Char :=
  if c.toNat < 128 then c.toUpper else throughRuns upperRuns c

/-- The characters that are the same as a small letter where case does not count: the small letters with its upper
case form, such as the two forms of a sigma, and all that have one of those as lower case form. -/
def caseless (small : Char) : List Char :=
  let capital := upperChar small
  let sequences := (upperSequences.filter fun (_, ns) => ns.map Char.ofNat == capital).map fun (n, _) => Char.ofNat n
  let peers := sequences ++ capital ++ capital.flatMap (sources upperRuns)
  (small :: peers.filter fun c => upperChar c == capital && lowerSingle c == c).flatMap fun c =>
    c :: sources lowerRuns c ++ if c = 'i' then ['İ'] else []

/-- The upper case form of a text. -/
def upper (s : String) : String :=
  String.ofList (s.toList.flatMap upperChar)

/-- The text with its ASCII letters in lower case. -/
def foldAscii (s : String) : String :=
  String.ofList (s.toList.map Char.toLower)

end TableQuery.Text
