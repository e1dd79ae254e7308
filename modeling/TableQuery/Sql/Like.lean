import TableQuery.Text.Case

/-!
# Like patterns

In a like pattern a percent sign stands for any text and an underscore for any character; with `escaped` set, a
backslash takes the meaning from the character after it. `escapeLike` makes a pattern that stands for a text and
nothing else. Pattern and text both end before the first null character, and two code points that are not meant
for interchange are read as the replacement character.
-/

set_option autoImplicit false

namespace TableQuery.Sql

/-- The characters that have a meaning in an escaped like pattern. -/
def isLikeSpecial (c : Char) : Bool :=
  c == '\\' || c == '%' || c == '_'

/-- The characters of a text with a backslash before each one that has a meaning. -/
def escapeChars : List Char → List Char
  | [] => []
  | c :: r => if isLikeSpecial c then '\\' :: c :: escapeChars r else c :: escapeChars r

/-- The like pattern that stands for a text. -/
def escapeLike (s : String) : String :=
  String.ofList (escapeChars s.toList)

/-- A part of a like pattern. -/
inductive LikePart where
  | anyText
  | anyChar
  | only (c : Char)
  /-- An escape with nothing after it, which nothing matches. -/
  | nothing
  deriving DecidableEq, Repr

def likeParts (escaped : Bool) : List Char → List LikePart
  | [] => []
  | '%' :: r => .anyText :: likeParts escaped r
  | '_' :: r => .anyChar :: likeParts escaped r
  | '\\' :: c :: r => if escaped then .only c :: likeParts escaped r else .only '\\' :: likeParts escaped (c :: r)
  | ['\\'] => if escaped then [.nothing] else [.only '\\']
  | c :: r => .only c :: likeParts escaped r

/-- Whether some part of the characters from the front to the end satisfies `p`. -/
def anySuffix (p : List Char → Bool) : List Char → Bool
  | [] => p []
  | c :: r => p (c :: r) || anySuffix p r

/-- Whether the parts of a pattern match a whole text. -/
def matchParts : List LikePart → List Char → Bool
  | [], cs => cs.isEmpty
  | .anyText :: ps, cs => anySuffix (matchParts ps) cs
  | .anyChar :: ps, cs => match cs with
    | [] => false
    | _ :: r => matchParts ps r
  | .only c :: ps, cs => match cs with
    | [] => false
    | d :: r => c == d && matchParts ps r
  | .nothing :: _, _ => false

/-- A character as a like test reads it: the last two code points of the basic plane, which are no characters, are
taken for the replacement character. -/
def readLikeChar (c : Char) : Char :=
  if c == '\uFFFE' || c == '\uFFFF' then '\uFFFD' else c

/-- The characters that count in a like test: those before the first null character, ASCII letters in lower
case. -/
def likeChars (s : String) : List Char :=
  ((Text.foldAscii s).toList.takeWhile (· != '\x00')).map readLikeChar

/-- Whether a pattern matches a text. -/
def likes (escaped : Bool) (pattern text : String) : Bool :=
  matchParts (likeParts escaped (likeChars pattern)) (likeChars text)

end TableQuery.Sql
