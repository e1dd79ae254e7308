import TableQuery.Text.Blank

/-!
# Routes

The paths under which the service can be reached, and the methods that each of them takes.
-/

set_option autoImplicit false

namespace TableQuery.Http

/-- What a path leads to. -/
inductive Route where
  /-- An entity, of a facility or of none. -/
  | entity (facility : Option String) (entity : String)
  | «export» (facility entity : String)
  | row (facility entity id : String)
  deriving DecidableEq, Repr

namespace Route

def methods : Route → List String
  | entity _ _ => ["GET", "POST"]
  | «export» _ _ => ["POST"]
  | row _ _ _ => ["GET"]

/-- The parts of a path between slashes. -/
def segments (path : String) : List String :=
  (Text.pieces (· == '/') path.toList).map String.ofList

/-- The last part of a path is the given word; a line feed may follow. -/
def ends (word segment : String) : Bool :=
  segment == word || segment == word ++ "\n"

def ofPath? (path : String) : Option Route :=
  match segments path with
  | ["", "api", "facility", f, e, t] =>
    if f != "" && e != "" && ends "tquery" t then some (.entity (some f) e) else none
  | ["", "api", "facility", f, e, "tquery", x] =>
    if f != "" && e != "" && ends "export" x then some (.export f e) else none
  | ["", "api", "facility", f, e, "tquery", "row", id] =>
    if f != "" && e != "" && id != "" then some (.row f e id) else none
  | ["", "api", "admin", e, t] => if e != "" && ends "tquery" t then some (.entity none e) else none
  | _ => none

/-- The path without the slashes at its end, if it has some. -/
def withoutSlash? (path : String) : Option String :=
  if path.endsWith "/" && path != "/" then
    some (String.ofList (path.toList.reverse.dropWhile (· == '/')).reverse)
  else none

/-- The facility and the entity that a path is about, as far as can be told from its beginning. -/
def subject (path : String) : Option String × Option String :=
  match segments path with
  | "" :: "api" :: "facility" :: f :: e :: t :: _ =>
    if f != "" && e != "" && t.startsWith "tquery" then (some f, some e) else (none, none)
  | "" :: "api" :: "admin" :: e :: t :: _ =>
    if e != "" && t.startsWith "tquery" then (none, some e) else (none, none)
  | _ => (none, none)

end Route

end TableQuery.Http
