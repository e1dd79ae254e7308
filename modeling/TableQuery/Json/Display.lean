import TableQuery.Json.Basic
import TableQuery.Text.Quoted

/-!
# Values in messages

How a message shows a JSON value: `None`, `True`, numbers in their shortest text, texts quoted, lists in brackets,
objects in braces with their fields in the order written. `Json.bare` is the same except that a text stands without
quotes.
-/

set_option autoImplicit false

namespace TableQuery.Json

mutual

/-- The text of a value in a message. -/
def display : Json → String
  | null => "None"
  | bool b => if b then "True" else "False"
  | num n => n.toText
  | str s => Text.quoted s
  | arr items => "[" ++ ", ".intercalate (displayItems items) ++ "]"
  | obj fields => "\x7b" ++ ", ".intercalate (displayFields fields) ++ "\x7d"

def displayItems : List Json → List String
  | [] => []
  | x :: xs => display x :: displayItems xs

def displayFields : List (String × Json) → List String
  | [] => []
  | (k, v) :: rest => (Text.quoted k ++ ": " ++ display v) :: displayFields rest

end

/-- The text of a value that stands alone: a text is shown without quotes. -/
def bare : Json → String
  | str s => s
  | j => j.display

end TableQuery.Json
