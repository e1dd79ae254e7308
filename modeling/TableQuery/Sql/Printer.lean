import TableQuery.Number.Numeral
import TableQuery.Sql.Query
import TableQuery.Text.Blank
import TableQuery.Text.Case

/-!
# Query text

The SQL text of clauses and queries. Operands are written in place if all of them can be (`Query.isWritable`);
otherwise a question mark stands for each. A disjunction inside a conjunction stands in parentheses, and so does
what a negation applies to. A subquery names its result; such names are numbered in the order in which they
appear, so printing carries the numbers used so far (`Printer`). `Query.text` and `Query.totalText` are the
results, with runs of blanks made one blank.
-/

set_option autoImplicit false

namespace TableQuery.Sql

/-- The words that cannot name anything without quotes. -/
def reservedWords : List String :=
  ["add", "after", "all", "alter", "analyze", "and", "as", "asc", "attach", "autoincrement", "before", "begin",
    "between", "by", "cascade", "case", "cast", "check", "collate", "column", "commit", "conflict", "constraint",
    "create", "cross", "current_date", "current_time", "current_timestamp", "database", "default", "deferrable",
    "deferred", "delete", "desc", "detach", "distinct", "drop", "each", "else", "end", "escape", "except",
    "exclusive", "exists", "explain", "false", "fail", "for", "foreign", "from", "full", "glob", "group", "having",
    "if", "ignore", "immediate", "in", "index", "indexed", "initially", "inner", "insert", "instead", "intersect",
    "into", "is", "isnull", "join", "key", "left", "like", "limit", "match", "natural", "not", "notnull", "null",
    "of", "offset", "on", "or", "order", "outer", "plan", "pragma", "primary", "query", "raise", "references",
    "reindex", "rename", "replace", "restrict", "right", "rollback", "row", "select", "set", "table", "temp",
    "temporary", "then", "to", "transaction", "trigger", "true", "union", "unique", "update", "using", "vacuum",
    "values", "view", "virtual", "when", "where"]

/-- A character of a name that needs no quotes: a small letter, a digit, an underscore or a dollar sign. Beyond
ASCII there are two small letters whose capital is an ASCII letter. -/
def isPlainNameChar (c : Char) : Bool :=
  c.isLower || c.isDigit || c == '_' || c == '$' || c == 'ı' || c == 'ſ'

/-- The characters without one line feed at their end. -/
def withoutLineEnd (cs : List Char) : List Char :=
  if cs.getLast? = some '\n' then cs.dropLast else cs

/-- Whether a name stands without quotes. A line feed may follow it. -/
def isPlainName (s : String) : Bool :=
  match withoutLineEnd s.toList with
  | [] => false
  | c :: r => !(c.isDigit || c == '$') && (c :: r).all isPlainNameChar && !reservedWords.contains s

/-- The text between quotes `q`, a quote in it written twice. -/
def between (q : Char) (s : String) : String :=
  String.ofList (q :: s.toList.flatMap (fun c => if c = q then [q, q] else [c]) ++ [q])

/-- A name, in quotes where it needs them. -/
def nameText (s : String) : String :=
  if isPlainName s then s else between '"' s

def textLiteral (s : String) : String := between '\'' s

/-- An operand written in place, if it can be. -/
def operandText? : Operand → Option String
  | .null => some "NULL"
  | .bool b => some (if b then "1" else "0")
  | .int n => some (toString n)
  | .real x => some x.toText
  | .text s => some (textLiteral s)
  | .date d => some (textLiteral d.toText)
  | .moment m => some (textLiteral m.toStored)
  | .structured => none

/-- A member of a list written in place, if it can be: in the way of the first member. -/
def memberText? (first : Operand) (v : Operand) : Option String :=
  match first, v with
  | .int _, .int n => some (toString n)
  | .int _, .bool b => some (if b then "1" else "0")
  | .int _, .real x => x.truncate?.map toString
  | .int _, .text s => (Number.readInteger? s).map toString
  | .real _, .int n => some (toString n)
  | .real _, .bool b => some (if b then "True" else "False")
  | .real _, .real x => some x.toText
  | .bool _, .bool b => some (if b then "1" else "0")
  | .bool _, .int n => if n = 0 then some "0" else if n = 1 then some "1" else none
  | .bool _, .real x => match x.toInt? with
    | some 0 => some "0"
    | some 1 => some "1"
    | _ => none
  | .text _, .text s => some (textLiteral s)
  | .date _, .date d => some (textLiteral d.toText)
  | .moment _, .moment m => some (textLiteral m.toStored)
  | _, _ => none

/-- The members of a list written in place, if all of them can be. Beside a missing one each is written in its
own way. -/
def memberTexts? (vs : List Operand) : Option (List String) :=
  if vs.contains .null then vs.mapM operandText?
  else match vs with
    | [] => some []
    | first :: _ => vs.mapM (memberText? first)

/-! ## What can be written in place -/

/-- The operands of a condition can be written in place. -/
def Condition.isWritable : Condition → Bool
  | sameAs _ _ => true
  | equals _ v => (operandText? v).isSome
  | among _ vs _ => (memberTexts? vs).isSome

mutual

/-- The operands of a clause can be written in place. -/
def Clause.isWritable : Clause → Bool
  | .compare _ _ v | .like _ v _ _ | .regexp _ v _ => (operandText? v).isSome
  | .among _ vs _ => (memberTexts? vs).isSome
  | .anyMember m | .memberCount m _ _ => m.criteria.all Condition.isWritable
  | .not c => Clause.isWritable c
  | .and cs | .or cs => Clause.areWritable cs
  | _ => true

/-- The operands of all clauses can be written in place. -/
def Clause.areWritable : List Clause → Bool
  | [] => true
  | c :: cs => Clause.isWritable c && Clause.areWritable cs

end

/-- The operands of a query can be written in place. -/
def Query.isWritable (q : Query) : Bool :=
  Clause.areWritable q.clauses

/-! ## Numbered names -/

/-- What printing carries: how many names of each kind there are so far, and whether operands are written in
place. -/
structure Names where
  used : List (String × Nat) := []
  inPlace : Bool := true

/-- Text that is written with numbered names. -/
abbrev Printer := StateM Names

def freshName (kind : String) : Printer String := do
  let n := ((← get).used.lookup kind).getD 0 + 1
  modify fun names => { names with used := (kind, n) :: names.used }
  return kind ++ "_" ++ toString n

/-- A text that is written in place, or the question mark that stands for it. -/
def placed (text : Option String) : Printer String := do
  return if (← get).inPlace then text.getD "?" else "?"

/-- A text after printing, runs of blanks made one blank. -/
def printed (inPlace : Bool) (p : Printer String) : String :=
  " ".intercalate (Text.words (p.run { inPlace }).run.1)

/-! ## Clauses -/

def Ref.text (r : Ref) : String :=
  nameText r.source ++ "." ++ nameText r.column

def Table.text (t : Table) : String :=
  match t.rename with
  | some a => nameText t.table ++ " AS " ++ nameText a
  | none => nameText t.table

/-- The list of operands of a membership test on a value of some name. -/
def membersText (name : String) (vs : List Operand) : Printer String := do
  if (← get).inPlace then
    return if vs.isEmpty then "(SELECT 1 FROM (SELECT 1) WHERE 1!=1)"
      else "(" ++ ", ".intercalate ((memberTexts? vs).getD []) ++ ")"
  else return "(__[POSTCOMPILE_" ++ (← freshName name) ++ "])"

/-- A membership test on a value of some name. -/
def amongText (name t : String) (vs : List Operand) (negated : Bool) : Printer String := do
  let members ← membersText name vs
  return if negated then "(" ++ t ++ " NOT IN " ++ members ++ ")" else t ++ " IN " ++ members

/-- An equality or another comparison. Nothing and truth values are constants, which stand in place in any case. -/
def comparedText (t symbol : String) (v : Operand) : Printer String := do
  match v with
  | .null => return t ++ " IS NULL"
  | .bool b => return t ++ " " ++ symbol ++ (if b then " 1" else " 0")
  | v => return t ++ " " ++ symbol ++ " " ++ (← placed (operandText? v))

def Condition.text : Condition → Printer String
  | sameAs l r => return l.text ++ " = " ++ r.text
  | equals r v => comparedText r.text "=" v
  | among r vs n => amongText r.column r.text vs n

/-- The source of a list's members and the conditions on them. -/
def Members.fromText (m : Members) : Printer String := do
  return " FROM " ++ m.table.text ++ " WHERE " ++
    " AND ".intercalate ((m.child.text ++ " = " ++ m.parent.text) :: (← m.criteria.mapM Condition.text))

def nullTestText (s : String) (negated : Bool) : String :=
  s ++ (if negated then " IS NOT NULL" else " IS NULL")

/-- A value, as it is selected, grouped or sorted by. -/
def Scalar.text : Scalar → Printer String
  | column r => return r.text
  | nullTest r n => return nullTestText r.text n
  | rowCount => return "count(*)"
  | joined m =>
    return "(SELECT group_concat(" ++ m.value.text ++ ", ',') AS " ++ (← freshName "aggregate_strings") ++
      (← m.fromText) ++ ")"

def Scalar.operandText (s : Scalar) : Printer String :=
  match s with
  | nullTest _ _ => return "(" ++ (← s.text) ++ ")"
  | s => s.text

/-- A value in the form that a comparison needs. -/
def Term.text : Term → Printer String
  | plain s => s.operandText
  | lower s => return "lower(" ++ (← s.text) ++ ")"
  | asText s => return "CAST(" ++ (← s.text) ++ " AS VARCHAR)"
  | orEmpty s => return "coalesce(" ++ (← s.text) ++ ", '')"

def Scalar.kindName : Scalar → String
  | column r => r.column
  | rowCount => "count"
  | nullTest _ _ | joined _ => "anon"

def Term.kindName : Term → String
  | plain s | asText s => s.kindName
  | lower _ => "lower"
  | orEmpty _ => "coalesce"

def Comparison.symbol : Comparison → String
  | eq => "="
  | ne => "!="
  | lt => "<"
  | le => "<="
  | gt => ">"
  | ge => ">="

/-- Where a clause stands, which decides about its parentheses. -/
inductive Place where
  | alone
  | inAnd
  | inOr
  | inNot
  deriving DecidableEq

/-- The text in parentheses, if needed. -/
def enclosedIf (needed : Bool) (s : String) : String :=
  if needed then "(" ++ s ++ ")" else s

namespace Clause

mutual

def text (place : Place) : Clause → Printer String
  | const b | decided b => return enclosedIf (place = .inNot) (if b then "1 = 1" else "0 = 1")
  | nullTest s n => return enclosedIf (place = .inNot) (nullTestText (← s.operandText) n)
  | compare c t v =>
    return enclosedIf (place = .inNot) (← comparedText (← t.text) c.symbol v)
  | among t vs n => return enclosedIf (place = .inNot) (← amongText t.kindName (← t.text) vs n)
  | like t p e n =>
    return enclosedIf (place = .inNot) ("lower(" ++ (← t.text) ++
      (if n then ") NOT LIKE lower(" else ") LIKE lower(") ++
      (← placed (operandText? p)) ++ ")" ++ (if e then " ESCAPE '\\'" else ""))
  | regexp t p n =>
    return enclosedIf (place = .inNot) ((← t.text) ++ (if n then " NOT REGEXP " else " REGEXP ") ++
      (← placed (operandText? p)))
  | anyMember m =>
    return enclosedIf (place != .alone) ("EXISTS (SELECT " ++ m.value.text ++ (← m.fromText) ++ ")")
  | memberCount m k n =>
    return enclosedIf (place = .inNot) ("(SELECT count(DISTINCT " ++ m.value.text ++ ") AS " ++ (← freshName "count") ++
      (← m.fromText) ++ ") " ++ (if n then "!= " else "= ") ++ (← placed (some (toString k))))
  | not c => return enclosedIf (place = .inNot) ("NOT " ++ (← text .inNot c))
  | and cs => return enclosedIf (place = .inNot) (" AND ".intercalate (← texts .inAnd cs))
  | or cs => return enclosedIf (place = .inNot || place = .inAnd) (" OR ".intercalate (← texts .inOr cs))

/-- Clauses at one place. -/
def texts (place : Place) : List Clause → Printer (List String)
  | [] => return []
  | c :: cs => return (← text place c) :: (← texts place cs)

end

end Clause

namespace Query

def joinText (j : Join) : Printer String := do
  return (if j.left then " LEFT OUTER JOIN " else " JOIN ") ++ j.table.text ++ " ON " ++
    " AND ".intercalate (← j.on.mapM Condition.text)

/-- The tables that a query reads. -/
def fromText (q : Query) : Printer String := do
  return " FROM " ++
    ", ".intercalate ((q.base.text ++ String.join (← q.joins.mapM joinText)) :: q.crossed.map Table.text)

/-- A list of texts after a keyword, nothing if it is empty. -/
def listText (keyword : String) (items : List String) : String :=
  if items.isEmpty then "" else " " ++ keyword ++ " " ++ ", ".intercalate items

/-- The paging. A limit without an offset has the offset zero; an offset without a limit has an unwritten limit. -/
def pagingText (q : Query) : Printer String := do
  let offset := q.offset.filter (· != 0)
  if q.limit.isNone && offset.isNone then return ""
  else
    return " LIMIT " ++ (← placed (q.limit.map toString)) ++ " OFFSET " ++ (← placed (some (toString (offset.getD 0))))

/-- The clauses, after their keyword. -/
def filterText (q : Query) : Printer String :=
  match q.filter? with
  | none => return ""
  | some c => return " WHERE " ++ (← c.text .alone)

/-- A selected value under its label; an empty label is replaced by a numbered name. -/
def columnText (s : Scalar) (label : String) : Printer String := do
  let value ← s.text
  let name ← if label.isEmpty then freshName s.kindName else pure (nameText label)
  return value ++ " AS " ++ name

def print (q : Query) : Printer String := do
  let columns ← q.columns.mapM fun (s, label) => columnText s label
  let tables ← q.fromText
  let filter ← q.filterText
  let groups ← q.groupBy.mapM Scalar.text
  let order ← q.orderBy.mapM fun (s, desc) => return (← s.text) ++ (if desc then " DESC" else " ASC")
  return "SELECT " ++ ", ".intercalate columns ++ tables ++ filter ++ listText "GROUP BY" groups ++
    listText "ORDER BY" order ++ (← q.pagingText)

/-- The text of a query on one line. -/
def text (q : Query) : String :=
  printed q.isWritable q.print

def totalText (q : Query) : String :=
  printed q.isWritable (match q.counting with
    | .rows plain => do
      let name ← freshName "count"
      { plain with columns := [(.rowCount, name)] }.print
    | .groups plain => do
      let name ← freshName "count"
      return "SELECT count(*) AS " ++ name ++ " FROM (" ++ (← plain.print) ++ ") AS grouped")

end Query

/-- The text of a clause that stands alone, on one line. -/
def Clause.toText (c : Clause) : String :=
  printed c.isWritable (c.text .alone)

end TableQuery.Sql
