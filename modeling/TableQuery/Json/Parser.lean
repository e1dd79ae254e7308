import TableQuery.Json.Basic
import TableQuery.Number.Numeral
import TableQuery.Text.Encoding

/-!
# Reading JSON

`Json.parse` reads one value with nothing but layout around it. A fault in the text is told by the number of
characters from the place where reading stopped to the end of the text, so that it does not depend on how that
place was reached; `Json.parse` turns it into a position from the start. Every reader returns the characters
that follow with a proof that they are fewer, which is why reading ends. Apart from that, reading stops at an
integer with too many digits and at lists and objects that are nested too deeply.

Of two fields with one name the later one gives the value. Besides standard JSON, `NaN`, `Infinity` and
`-Infinity` are numbers.
-/

set_option autoImplicit false

namespace TableQuery.Json

/-- Why reading stopped. -/
inductive Stop where
  /-- The text does not go on as it should, so many characters before its end. -/
  | malformed (left : Nat)
  /-- An integer has too many digits. -/
  | longInteger
  /-- Lists and objects are nested too deeply. -/
  | deepNesting
  deriving DecidableEq, Repr, Inhabited

/-- How deeply lists and objects may be nested. -/
def nestingLimit : Nat := 960

/-- Something read from the front of `cs`, and the fewer characters after it. -/
abbrev Front (α : Type) (cs : List Char) := { p : α × List Char // p.2.length < cs.length }

/-- The characters after the layout at the front. -/
def skipLayout (cs : List Char) : List Char :=
  cs.dropWhile fun c => c == ' ' || c == '\t' || c == '\n' || c == '\r'

/-- Skipping layout adds nothing. -/
theorem length_skipLayout_le (cs : List Char) : (skipLayout cs).length ≤ cs.length :=
  (List.dropWhile_sublist _).length_le

/-- The character of a one-letter escape. -/
def simpleEscape? : Char → Option Char
  | '"' => some '"'
  | '\\' => some '\\'
  | '/' => some '/'
  | 'b' => some '\x08'
  | 'f' => some '\x0c'
  | 'n' => some '\n'
  | 'r' => some '\r'
  | 't' => some '\t'
  | _ => none

/-- The number that four hexadecimal digits write. -/
def hexUnit? (a b c d : Char) : Option Nat :=
  ([a, b, c, d].mapM Text.hexDigit?).map (Text.ofDigits 16)

/-- The second half of a pair of 16-bit units, written as an escape of its own that something follows. -/
def pairedEscape? (high : Nat) : List Char → Option (Char × List Char)
  | '\\' :: 'u' :: a :: b :: c :: d :: e :: r =>
    ((hexUnit? a b c d).bind (Text.joinUnits? high)).map fun n => (Char.ofNat n, e :: r)
  | _ => none

/-- The character of an escape by number, whose digits are at the front and followed by something. -/
def numberedEscape? : List Char → Option (Char × List Char)
  | a :: b :: c :: d :: e :: r =>
    (hexUnit? a b c d).map fun n => (pairedEscape? n (e :: r)).getD (Text.charOfUnit n, e :: r)
  | _ => none

/-- The rest after the second half of a pair is shorter. -/
theorem length_pairedEscape {high : Nat} {cs : List Char} {p : Char × List Char}
    (h : pairedEscape? high cs = some p) : p.2.length ≤ cs.length := by
  unfold pairedEscape? at h
  split at h
  · obtain ⟨n, _, rfl⟩ := Option.map_eq_some_iff.1 h
    simp only [List.length_cons]; omega
  · cases h

/-- The rest after an escape by number is shorter. -/
theorem length_numberedEscape {cs : List Char} {p : Char × List Char}
    (h : numberedEscape? cs = some p) : p.2.length ≤ cs.length := by
  unfold numberedEscape? at h
  split at h
  · rename_i e r
    obtain ⟨n, _, rfl⟩ := Option.map_eq_some_iff.1 h
    cases hp : pairedEscape? n (e :: r) with
    | none => simp only [Option.getD_none, List.length_cons]; omega
    | some q =>
      have := length_pairedEscape hp
      simp only [Option.getD_some, List.length_cons] at this ⊢; omega
  · cases h

/-- The characters of a text up to its closing quote, in reverse before `acc`, and what follows the quote. A
text without end is a fault at its start, `opening` characters before the end. -/
def scanText (opening : Nat) (cs acc : List Char) : Except Stop (List Char × List Char) :=
  match cs with
  | [] => .error (.malformed opening)
  | '"' :: r => .ok (acc.reverse, r)
  | ['\\'] => .error (.malformed opening)
  | '\\' :: 'u' :: r =>
    match h : numberedEscape? r with
    | none => .error (.malformed (r.length + 1))
    | some (x, rest) => scanText opening rest (x :: acc)
  | '\\' :: c :: r =>
    match simpleEscape? c with
    | some x => scanText opening r (x :: acc)
    | none => .error (.malformed (r.length + 2))
  | c :: r => if c.toNat < 32 then .error (.malformed (r.length + 1)) else scanText opening r (c :: acc)
termination_by cs.length
decreasing_by
  · have := length_numberedEscape h
    simp only [List.length_cons] at this ⊢; omega
  · simp only [List.length_cons]; omega
  · simp only [List.length_cons]; omega

/-- A text ends at a quote, so fewer characters follow it. -/
theorem length_scanText (opening : Nat) (cs acc s rest : List Char)
    (h : scanText opening cs acc = .ok (s, rest)) : rest.length < cs.length := by
  fun_induction scanText opening cs acc with
  | case1 | case3 | case4 | case7 | case8 => cases h
  | case2 => cases h; simp
  | case5 _ _ _ _ hn ih =>
    have h1 := ih h
    have h2 := length_numberedEscape hn
    simp only [List.length_cons] at h2 ⊢; omega
  | case6 _ _ _ _ _ _ ih => have := ih h; simp only [List.length_cons]; omega
  | case9 _ _ _ _ _ _ _ _ ih => have := ih h; simp only [List.length_cons]; omega

def digitRun (cs : List Char) : List Char × List Char :=
  (cs.takeWhile Char.isDigit, cs.dropWhile Char.isDigit)

/-- The number that decimal digits write. -/
def decimalValue (ds : List Char) : Nat :=
  Text.ofDigits 10 (ds.map fun c => c.toNat - 48)

/-- The fraction at the front, if a digit follows the point. -/
def fractionRun (cs : List Char) : Option (List Char) × List Char :=
  match cs with
  | '.' :: r => if (digitRun r).1.isEmpty then (none, cs) else (some (digitRun r).1, (digitRun r).2)
  | _ => (none, cs)

/-- The exponent at the front, if it has a digit. -/
def exponentRun (cs : List Char) : Option Int × List Char :=
  match cs with
  | c :: r =>
    if c = 'e' ∨ c = 'E' then
      let (negative, ds) := match r with
        | '-' :: s => (true, s)
        | '+' :: s => (false, s)
        | s => (false, s)
      if (digitRun ds).1.isEmpty then (none, cs)
      else
        (some (Number.withSign negative (decimalValue (digitRun ds).1)), (digitRun ds).2)
    else (none, cs)
  | [] => (none, cs)

/-- The number with the given parts: an integer unless it has a fraction or an exponent. -/
def numberOf (negative : Bool) (whole : List Char) (fraction : Option (List Char)) (exponent : Option Int) :
    Except Stop Json :=
  match fraction, exponent with
  | none, none =>
    if Number.digitLimit < whole.length then .error .longInteger
    else .ok (int (Number.withSign negative (decimalValue whole)))
  | _, _ =>
    let f := fraction.getD []
    .ok (double (Number.Double.ofScientific negative (decimalValue (whole ++ f)) (exponent.getD 0 - f.length)))

/-- The number at the front, after its sign; without a digit there is a fault `left` characters before the end. -/
def numberRun (left : Nat) (negative : Bool) (cs : List Char) : Except Stop (Json × List Char) :=
  match cs with
  | '0' :: r => finish ['0'] r
  | c :: _ => if c.isDigit then finish (digitRun cs).1 (digitRun cs).2 else .error (.malformed left)
  | [] => .error (.malformed left)
where
  /-- The number whose whole part is read already. -/
  finish (whole r : List Char) : Except Stop (Json × List Char) :=
    let (fraction, r) := fractionRun r
    let (exponent, r) := exponentRun r
    (numberOf negative whole fraction exponent).map (·, r)

/-- The characters after a word at the front. -/
def afterWord? (word : String) (cs : List Char) : Option (List Char) :=
  if word.toList.isPrefixOf cs then some (cs.drop word.length) else none

def wordValues : List (String × Json) :=
  [("null", .null), ("true", .bool true), ("false", .bool false), ("NaN", double .nan),
    ("Infinity", double (.infinite false)), ("-Infinity", double (.infinite true))]

/-- The value that a word at the front stands for. -/
def word? (cs : List Char) : Option (Json × List Char) :=
  wordValues.findSome? fun (w, j) => (afterWord? w cs).map (j, ·)

/-- A value without parts at the front: a word or a number. -/
def atom (cs : List Char) : Except Stop (Json × List Char) :=
  match word? cs with
  | some p => .ok p
  | none =>
    match cs with
    | '-' :: r => numberRun cs.length true r
    | _ => numberRun cs.length false cs

/-- What is read, as long as it took something from the front. -/
def front {α : Type} (cs : List Char) (p : α × List Char) : Except Stop (Front α cs) :=
  if h : p.2.length < cs.length then .ok ⟨p, h⟩ else .error (.malformed cs.length)

/-- A name or a text at the front. -/
def text (cs : List Char) : Except Stop (Front String cs) :=
  match cs with
  | '"' :: r =>
    match h : scanText (r.length + 1) r [] with
    | .ok (s, rest) => .ok ⟨(String.ofList s, rest), by
        have := length_scanText _ _ _ _ _ h
        simp only [List.length_cons]; omega⟩
    | .error e => .error e
  | _ => .error (.malformed cs.length)

/-- What stands between a field name and its value. -/
def colon (cs : List Char) : Except Stop (Front Unit cs) :=
  match h : skipLayout cs with
  | ':' :: r => .ok ⟨((), skipLayout r), by
      have h1 := length_skipLayout_le cs
      have h2 := length_skipLayout_le r
      rw [h] at h1
      simp only [List.length_cons] at h1
      show (skipLayout r).length < cs.length
      omega⟩
  | r => .error (.malformed r.length)

/-- Whether a list or an object goes on after an item: a comma, or its closing bracket. -/
def separator (closing : Char) (cs : List Char) : Except Stop (Front Bool cs) :=
  match h : skipLayout cs with
  | c :: r =>
    have h1 : r.length < cs.length := by
      have := length_skipLayout_le cs
      rw [h] at this
      simp only [List.length_cons] at this
      omega
    if c = closing then .ok ⟨(false, r), h1⟩
    else if c = ',' then .ok ⟨(true, skipLayout r), by
      have h2 := length_skipLayout_le r
      show (skipLayout r).length < cs.length
      omega⟩
    else .error (.malformed (r.length + 1))
  | [] => .error (.malformed 0)

mutual

/-- The value at the front, with room for so many levels of lists and objects. -/
def value (room : Nat) (cs : List Char) : Except Stop (Front Json cs) :=
  match cs with
  | '"' :: r =>
    match text ('"' :: r) with
    | .ok ⟨(s, rest), h⟩ => .ok ⟨(str s, rest), h⟩
    | .error e => .error e
  | '[' :: r =>
    have h0 := length_skipLayout_le r
    match h : skipLayout r with
    | ']' :: rest => .ok ⟨(arr [], rest), by
        rw [h] at h0
        simp only [List.length_cons] at h0 ⊢
        omega⟩
    | first =>
      if room = 0 then .error .deepNesting else
      match items (room - 1) first [] with
      | .ok ⟨(xs, rest), h2⟩ => .ok ⟨(arr xs, rest), by
          rw [h] at h0
          simp only [List.length_cons] at h2 ⊢; omega⟩
      | .error e => .error e
  | '\x7b' :: r =>
    have h0 := length_skipLayout_le r
    match h : skipLayout r with
    | '\x7d' :: rest => .ok ⟨(obj [], rest), by
        rw [h] at h0
        simp only [List.length_cons] at h0 ⊢
        omega⟩
    | first =>
      if room = 0 then .error .deepNesting else
      match members (room - 1) first [] with
      | .ok ⟨(ms, rest), h2⟩ => .ok ⟨(obj ms, rest), by
          rw [h] at h0
          simp only [List.length_cons] at h2 ⊢; omega⟩
      | .error e => .error e
  | other =>
    match atom other with
    | .ok p => front other p
    | .error e => .error e
termination_by 2 * cs.length
decreasing_by
  · rw [h] at h0; simp only [List.length_cons]; omega
  · rw [h] at h0; simp only [List.length_cons]; omega

/-- The items of a list after `acc`, up to the closing bracket. -/
def items (room : Nat) (cs : List Char) (acc : List Json) : Except Stop (Front (List Json) cs) :=
  match value room cs with
  | .error e => .error e
  | .ok ⟨(x, r), h1⟩ =>
    match separator ']' r with
    | .error e => .error e
    | .ok ⟨(false, rest), h2⟩ => .ok ⟨((x :: acc).reverse, rest), Nat.lt_trans h2 h1⟩
    | .ok ⟨(true, next), h2⟩ =>
      match items room next (x :: acc) with
      | .ok ⟨p, h3⟩ => .ok ⟨p, Nat.lt_trans h3 (Nat.lt_trans h2 h1)⟩
      | .error e => .error e
termination_by 2 * cs.length + 1
decreasing_by
  · omega
  · simp only at h1 h2; omega

/-- The fields of an object after `acc`, up to the closing brace. -/
def members (room : Nat) (cs : List Char) (acc : Fields) : Except Stop (Front Fields cs) :=
  match text cs with
  | .error e => .error e
  | .ok ⟨(k, r1), h1⟩ =>
    match colon r1 with
    | .error e => .error e
    | .ok ⟨(_, r2), h2⟩ =>
      match value room r2 with
      | .error e => .error e
      | .ok ⟨(v, r3), h3⟩ =>
        match separator '\x7d' r3 with
        | .error e => .error e
        | .ok ⟨(false, rest), h4⟩ =>
          .ok ⟨(acc.set k v, rest), Nat.lt_trans h4 (Nat.lt_trans h3 (Nat.lt_trans h2 h1))⟩
        | .ok ⟨(true, next), h4⟩ =>
          match members room next (acc.set k v) with
          | .ok ⟨p, h5⟩ =>
            .ok ⟨p, Nat.lt_trans h5 (Nat.lt_trans h4 (Nat.lt_trans h3 (Nat.lt_trans h2 h1)))⟩
          | .error e => .error e
termination_by 2 * cs.length + 1
decreasing_by
  · simp only at h1 h2; omega
  · simp only at h1 h2 h3 h4; omega

end

/-- Why a text is not read as JSON. -/
inductive ParseFault where
  /-- It is not JSON at this position. -/
  | malformed (position : Nat)
  /-- An integer in it has too many digits. -/
  | longInteger
  /-- Lists and objects in it are nested too deeply. -/
  | deepNesting
  deriving DecidableEq, Repr, Inhabited

/-- The fault of a text of some length at which reading stopped. -/
def Stop.fault (length : Nat) : Stop → ParseFault
  | .malformed left => .malformed (length - left)
  | .longInteger => .longInteger
  | .deepNesting => .deepNesting

/-- The value that a text writes, or why there is none. -/
def parse (s : String) : Except ParseFault Json :=
  let cs := s.toList
  match value nestingLimit (skipLayout cs) with
  | .error e => .error (e.fault cs.length)
  | .ok ⟨(j, rest), _⟩ =>
    match skipLayout rest with
    | [] => .ok j
    | r => .error (.malformed (cs.length - r.length))

end TableQuery.Json
