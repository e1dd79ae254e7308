import TableQuery.Text.Blank
import TableQuery.Text.Digit
import TableQuery.Text.Encoding

/-!
# The target of a request

What a client asks for (`resolve?`): of the address that it is given, the path and the query. The fragment is
left out, and so are a scheme and the name of a host; the path starts with a slash, and the steps `.` and `..`
in it are taken. Percent escapes stay as they are and are taken out later (`unescape`).
-/

set_option autoImplicit false

namespace TableQuery.Http

/-! ## Percent escapes -/

/-- The bytes of a text with percent escapes. -/
def unescapedBytes : List Char → List Nat
  | '%' :: a :: b :: r =>
    match Text.hexDigit? a, Text.hexDigit? b with
    | some x, some y => (16 * x + y) :: unescapedBytes r
    | _, _ => '%'.toNat :: unescapedBytes (a :: b :: r)
  | c :: r => Text.utf8Bytes c.toString ++ unescapedBytes r
  | [] => []
termination_by cs => cs.length

/-- A text without percent escapes. -/
def unescape (s : String) : String := Text.decodeLeniently (unescapedBytes s.toList)

/-! ## Addresses -/

/-- Takes the steps of a path that lead nowhere or back; the steps so far are given in reverse. A step back from
the start stays there. -/
def takeSteps (soFar : List (List Char)) : List (List Char) → List (List Char)
  | [] => soFar.reverse
  | step :: rest =>
    if step = ['.'] then takeSteps soFar rest
    else if step = ['.', '.'] then
      takeSteps (if soFar = [[]] then soFar else soFar.drop 1) rest
    else takeSteps (step :: soFar) rest

def directPath (path : List Char) : List Char :=
  ['/'].intercalate (takeSteps [] (Text.pieces (· == '/') path))

/-- The characters of a scheme at the front and those after its colon. -/
def splitScheme (cs : List Char) : Option (List Char) × List Char :=
  let isInner := fun (c : Char) => c.isAlphanum || c == '+' || c == '.' || c == '-'
  match cs.dropWhile isInner with
  | ':' :: r => if cs.head?.any Char.isAlpha then (some (cs.takeWhile isInner), r) else (none, cs)
  | _ => (none, cs)

/-- The name of a host after two slashes, and the characters after it. -/
def splitHost (cs : List Char) : List Char × List Char :=
  match cs with
  | '/' :: '/' :: r => (r.takeWhile (· != '/'), r.dropWhile (· != '/'))
  | _ => ([], cs)

/-- Whether a path can be written without a host before it. -/
def isBarePath (hasScheme : Bool) (path : List Char) : Bool :=
  hasScheme || !("//".toList.isPrefixOf path || path.head? == some ':')

def addressLimit : Nat := 65536

/-- The path and the query that a client asks for at an address; none for an address that it refuses. -/
def resolve? (address : String) : Option String :=
  let cs := address.toList
  if addressLimit < cs.length || cs.any fun c => c.toNat < 32 || c.toNat = 127 then none
  else
    let (front, query) := (cs.takeWhile (· != '#')).span (· != '?')
    let (scheme, afterScheme) := splitScheme front
    let (host, path) := splitHost afterScheme
    if host.isEmpty && !isBarePath scheme.isSome path then none
    else
      let isWhole := scheme.isSome && !host.isEmpty
      let direct := directPath (if isWhole then path else '/' :: path.dropWhile (· == '/'))
      some (String.ofList ((if direct.isEmpty then ['/'] else direct) ++ query))

end TableQuery.Http
