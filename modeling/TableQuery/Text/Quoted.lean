import TableQuery.Text.Digit
import TableQuery.Text.Printable
import TableQuery.Text.Surrogate

/-!
# Quoted text

How messages quote a text: between single quotes, or between double quotes when it holds a single quote and no
double one. The delimiter, the backslash, what cannot be printed and halves of surrogate pairs are escaped; all
else stands as it is.
-/

set_option autoImplicit false

namespace TableQuery.Text

/-- A number in lower case hexadecimal digits, with zeros in front up to a width. -/
def hexPadded (width n : Nat) : List Char :=
  let ds := Nat.toDigits 16 n
  List.replicate (width - ds.length) '0' ++ ds

/-- One character of a quoted text between the delimiters `quote`. -/
def quoteChar (quote c : Char) : List Char :=
  if c = quote ∨ c = '\\' then ['\\', c]
  else if c = '\n' then ['\\', 'n']
  else if c = '\r' then ['\\', 'r']
  else if c = '\t' then ['\\', 't']
  else if isPrintable c then [c]
  else if c.toNat < 0x100 then '\\' :: 'x' :: hexPadded 2 c.toNat
  else match half? c with
    | some unit => '\\' :: 'u' :: hexPadded 4 unit
    | none =>
      if c.toNat < 0x10000 then '\\' :: 'u' :: hexPadded 4 c.toNat
      else '\\' :: 'U' :: hexPadded 8 c.toNat

def delimiter (s : String) : Char :=
  if s.toList.contains '\'' && !s.toList.contains '"' then '"' else '\''

/-- The text between delimiters, with escapes where they are needed. -/
def quoted (s : String) : String :=
  let quote := delimiter s
  String.ofList (quote :: s.toList.flatMap (quoteChar quote) ++ [quote])

end TableQuery.Text
