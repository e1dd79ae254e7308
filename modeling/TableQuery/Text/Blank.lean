/-!
# Blank characters

Which characters count as blank (`isBlank`), and the two operations that the filter language builds on them:
cutting blanks off both ends of a text (`trim`) and cutting a text into its words (`words`). A text is trimmed
when `trim` leaves it alone.
-/

set_option autoImplicit false

namespace TableQuery.Text

/-- The blank characters: the ASCII layout and separator controls, and the space separators of Unicode. The
zero-width characters (U+200B, U+FEFF, U+180E) are not blank. -/
def isBlank (c : Char) : Bool :=
  let n := c.toNat
  (9 ≤ n && n ≤ 13) || (28 ≤ n && n ≤ 32) || n == 0x85 || n == 0xA0 || n == 0x1680 ||
    (0x2000 ≤ n && n ≤ 0x200A) || n == 0x2028 || n == 0x2029 || n == 0x202F || n == 0x205F || n == 0x3000

/-- A blank of ASCII: a space, a tab, or the end of a line or a page. -/
def isAsciiBlank (c : Char) : Bool := c == ' ' || (9 ≤ c.toNat && c.toNat ≤ 13)

/-- The characters without the ones at the end that satisfy `p`. -/
def dropEndWhile (p : Char → Bool) (cs : List Char) : List Char :=
  (cs.reverse.dropWhile p).reverse

/-- The characters between the first and the last one that fail `p`. -/
def strip (p : Char → Bool) (cs : List Char) : List Char :=
  dropEndWhile p (cs.dropWhile p)

/-- The text without blanks at its ends. -/
def trim (s : String) : String :=
  String.ofList (strip isBlank s.toList)

/-- A text that neither starts nor ends with a blank. -/
def isTrimmed (s : String) : Bool :=
  s == trim s

/-- The pieces between the separators: `n` separators make `n + 1` pieces, some of them possibly empty. -/
def pieces (p : Char → Bool) : List Char → List (List Char)
  | [] => [[]]
  | c :: r =>
    if p c then [] :: pieces p r
    else match pieces p r with
      | [] => [[c]]
      | w :: ws => (c :: w) :: ws

/-- The nonempty pieces between the separators. -/
def fields (p : Char → Bool) (s : String) : List String :=
  ((pieces p s.toList).filter (!·.isEmpty)).map String.ofList

/-- The words of a text: its longest runs without blanks. -/
def words (s : String) : List String :=
  fields isBlank s

/-- Whether some characters stand somewhere among others. -/
def isPart (part : List Char) : List Char → Bool
  | [] => part.isEmpty
  | c :: r => part.isPrefixOf (c :: r) || isPart part r

/-- Cutting a text into pieces always gives at least one. -/
theorem pieces_ne_nil (p : Char → Bool) (cs : List Char) : pieces p cs ≠ [] := by
  cases cs with
  | nil => simp [pieces]
  | cons c r =>
    by_cases h : p c
    · simp [pieces, h]
    · simp only [pieces, h]
      cases pieces p r <;> simp

/-- Every blank of ASCII text layout is blank here. -/
theorem isBlank_of_isWhitespace {c : Char} (h : c.isWhitespace = true) : isBlank c = true := by
  simp only [Char.isWhitespace, Bool.or_eq_true, decide_eq_true_eq] at h
  rcases h with ((h | h) | h) | h <;> subst h <;> decide

end TableQuery.Text
