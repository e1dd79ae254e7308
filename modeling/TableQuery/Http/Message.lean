import TableQuery.Http.Target
import TableQuery.Json.Printer
import TableQuery.Text.Case

/-!
# Requests and answers

An HTTP request with the parts of its target and the text of its body, and an answer with its body.
-/

set_option autoImplicit false

namespace TableQuery.Http

/-- A request. The target is the path with the query after a question mark, percent escapes still in it. -/
structure HttpRequest where
  method : String
  target : String
  headers : List (String × String) := []
  body : String := ""
  /-- The address that the request came from. -/
  client : Option String := none
  deriving Repr

mutual

/-- Some text in a value, or the name of some field, has a lone half of a surrogate pair. -/
def hasHalf : Json → Bool
  | .str s => Text.hasHalf s
  | .arr items => itemsHaveHalf items
  | .obj fields => fieldsHaveHalf fields
  | _ => false

/-- Some item has a lone half. -/
def itemsHaveHalf : List Json → Bool
  | [] => false
  | j :: js => hasHalf j || itemsHaveHalf js

/-- Some field has a lone half. -/
def fieldsHaveHalf : List (String × Json) → Bool
  | [] => false
  | (k, v) :: rest => Text.hasHalf k || hasHalf v || fieldsHaveHalf rest

end

/-- The body of an answer. -/
inductive Body where
  | empty
  | json (j : Json)
  | text (s : String)
  /-- A sheet with the given cells. -/
  | sheet (cells : List (List Json))

/-- A body can be sent as bytes. -/
def Body.isEncodable : Body → Bool
  | empty | sheet _ => true
  | json j => !hasHalf j
  | text s => !Text.hasHalf s

/-- An answer. -/
structure HttpAnswer where
  status : Nat
  contentType : Option String
  disposition : Option String := none
  body : Body

def HttpAnswer.json (status : Nat) (j : Json) : HttpAnswer :=
  { status, contentType := some "application/json", body := .json j }

def HttpAnswer.detail (status : Nat) (reason : String) : HttpAnswer :=
  .json status (.obj [("detail", .str reason)])

namespace HttpRequest

/-- The request that a client sends: its method is in upper case. None if the client refuses the address. -/
def ofClient? (method address : String) (headers : List (String × String)) (body : String) : Option HttpRequest :=
  (resolve? address).map fun target => { method := Text.upper method, target, headers, body }

def rawPath (r : HttpRequest) : String :=
  String.ofList (r.target.toList.takeWhile (· != '?'))

/-- The path. Escapes are taken out twice, so that an escaped percent sign may start another one. -/
def path (r : HttpRequest) : String := unescape (unescape r.rawPath)

/-- The path as it is told to others: it ends before a question mark or a hash, even one that was escaped. -/
def shownPath (r : HttpRequest) : String :=
  String.ofList <|
    (r.path.toList.takeWhile fun c => c != '?' && c != '#').filter fun c => c != '\n' && c != '\r' && c != '\t'

/-- A part of a query: a blank is written as a plus sign. -/
def queryText (cs : List Char) : String :=
  unescape (String.ofList (cs.map fun c => if c = '+' then ' ' else c))

/-- The latest value of a parameter of the query. -/
def parameter? (r : HttpRequest) (name : String) : Option String :=
  let query := (r.target.toList.dropWhile (· != '?')).drop 1
  let pairs := (Text.pieces (· == '&') (query.takeWhile (· != '#'))).map fun piece =>
    (queryText (piece.takeWhile (· != '=')), queryText ((piece.dropWhile (· != '=')).drop 1))
  pairs.reverse.lookup name

def header? (r : HttpRequest) (name : String) : Option String :=
  (r.headers.find? fun h => Text.foldAscii h.1 == name).map (·.2)

/-- The characters of the body, in the encoding that its first bytes tell, without a byte order mark. -/
def bodyChars? (r : HttpRequest) : Option (List Char) :=
  let bytes := Text.utf8Bytes r.body
  match r.body.toList with
  | '\ufeff' :: rest => some rest
  | cs => match Text.Encoding.guess bytes with
    | .utf8 => some cs
    | encoding => encoding.decode? bytes

def hasJsonBody (r : HttpRequest) : Bool :=
  match r.header? "content-type" with
  | none => false
  | some type =>
    let media := Text.trim (Text.foldAscii (String.ofList (type.toList.takeWhile (· != ';'))))
    match Text.pieces (· == '/') media.toList with
    | [main, sub] =>
      main == "application".toList && (sub == "json".toList || "+json".toList.isSuffixOf sub)
    | _ => false

end HttpRequest

end TableQuery.Http
