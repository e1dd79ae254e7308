import TableQuery.Regex.Basic

/-!
# Searching with regular expressions

`Regex.run` tries the ways in which an expression matches at a place, in the order of preference, and gives the
first one that lets the rest of the search succeed; `Regex.search` tells whether there is one anywhere in a
text. A repetition goes on, beyond the number of times that it must, only from a place other than the one where
it went on before.
-/

set_option autoImplicit false

namespace TableQuery

/-- A place in a text, with the texts that groups remember. -/
structure Place where
  /-- The characters before the place, nearest first. -/
  before : List Char := []
  after : List Char
  groups : List (Nat × List Char) := []
  deriving Repr

namespace Place

/-- The place some characters further. -/
def advance : Nat → Place → Place
  | n + 1, ⟨before, c :: after, groups⟩ => advance n ⟨c :: before, after, groups⟩
  | _, p => p

/-- The place some characters back, if there are so many. -/
def back? : Nat → Place → Option Place
  | 0, p => some p
  | n + 1, ⟨c :: before, after, groups⟩ => back? n ⟨before, c :: after, groups⟩
  | _ + 1, ⟨[], _, _⟩ => none

/-- What is remembered under a number. -/
def group? (p : Place) (number : Nat) : Option (List Char) := p.groups.lookup number

/-- The place with the characters up to it, from an earlier place, remembered under a number. -/
def remember (p : Place) (number : Nat) (start : Place) : Place :=
  { p with groups := (number, start.after.take (start.after.length - p.after.length)) ::
      p.groups.filter (·.1 != number) }

/-- The place at which another one is, with what this one remembers. -/
def moved (p target : Place) : Place := { target with groups := p.groups }

/-- Whether an assertion holds. There is no edge of a word in an empty text, nor a place that is none. -/
def satisfies (p : Place) : PlaceTest → Bool
  | .textStart => p.before.isEmpty
  | .lineStart => p.before.isEmpty || p.before.head? == some '\n'
  | .textEnd => p.after.isEmpty
  | .lastLineEnd => p.after.isEmpty || p.after == ['\n']
  | .lineEnd => p.after.isEmpty || p.after.head? == some '\n'
  | .wordEdge negated ascii =>
    let isWord (c : Option Char) := (c.map (isWordChar ascii)).getD false
    !(p.before.isEmpty && p.after.isEmpty) && (isWord p.before.head? != isWord p.after.head?) != negated

end Place

namespace Regex

/-- What follows an expression: it takes the place where the expression ends. -/
abbrev Rest := Place → Option Place

/-- A body matched `least` times and up to `extra` times more, as often as it can be. -/
def repeatMost (body : Place → Rest → Option Place) : Nat → Nat → Option Nat → Place → Rest → Option Place
  | least + 1, extra, last, p, rest => body p fun q => repeatMost body least extra last q rest
  | 0, 0, _, p, rest => rest p
  | 0, extra + 1, last, p, rest =>
    if last == some p.after.length then rest p
    else match body p fun q => repeatMost body 0 extra (some p.after.length) q rest with
      | some q => some q
      | none => rest p

/-- A body matched `least` times and up to `extra` times more, as seldom as it can be. -/
def repeatLeast (body : Place → Rest → Option Place) : Nat → Nat → Option Nat → Place → Rest → Option Place
  | least + 1, extra, last, p, rest => body p fun q => repeatLeast body least extra last q rest
  | 0, 0, _, p, rest => rest p
  | 0, extra + 1, last, p, rest =>
    match rest p with
    | some q => some q
    | none =>
      if last == some p.after.length then none
      else body p fun q => repeatLeast body 0 extra (some p.after.length) q rest

/-- The place after a body matched `least` times and up to `extra` times more, each time in the first way. -/
def repeatFirst (body : Place → Option Place) : Nat → Nat → Option Nat → Place → Option Place
  | least + 1, extra, last, p => (body p).bind (repeatFirst body least extra last)
  | 0, 0, _, p => some p
  | 0, extra + 1, last, p =>
    if last == some p.after.length then some p
    else match body p with
      | some q => repeatFirst body 0 extra (some p.after.length) q
      | none => some p

/-- The result of the rest after the first match of the expression at a place that makes the rest succeed. -/
def run : Regex → Place → Rest → Option Place
  | empty, p, rest => rest p
  | oneOf k, p, rest =>
    match p.after with
    | c :: after => if k.admits c then rest { p with before := c :: p.before, after } else none
    | [] => none
  | place test, p, rest => if p.satisfies test then rest p else none
  | seq a b, p, rest => run a p fun q => run b q rest
  | alt a b, p, rest =>
    match run a p rest with
    | some q => some q
    | none => run b p rest
  | rep a least most greed, p, rest =>
    let possible := p.after.length + 2
    let extra := match most with
      | some m => min (m - least) possible
      | none => possible
    match greed with
    | .greedy => repeatMost (run a) least extra none p rest
    | .lazy => repeatLeast (run a) least extra none p rest
    | .possessive => (repeatFirst (fun q => run a q some) least extra none p).bind rest
  | group n a, p, rest => run a p fun q => rest (q.remember n p)
  | again n mode, p, rest =>
    match p.group? n with
    | some text =>
      if (p.after.take text.length).map mode.fold = text.map mode.fold then rest (p.advance text.length) else none
    | none => none
  | atomic a, p, rest => (run a p some).bind rest
  | ahead negated a, p, rest =>
    match run a p some, negated with
    | some q, false => rest (q.moved p)
    | none, true => rest p
    | _, _ => none
  | behind negated width a, p, rest =>
    match (p.back? width).bind fun q => run a q some, negated with
    | some q, false => rest (q.moved p)
    | none, true => rest p
    | _, _ => none
  | ifGroup n yes no, p, rest => if (p.group? n).isSome then run yes p rest else run no p rest

/-- Whether the expression matches somewhere in `after`, which stands after `before`. -/
def searchFrom (r : Regex) (before : List Char) (after : List Char) : Bool :=
  if (r.run { before, after } some).isSome then true
  else match after with
    | [] => false
    | c :: rest => searchFrom r (c :: before) rest
termination_by structural after

/-- Whether the expression matches some part of a text. -/
def search (r : Regex) (s : String) : Bool :=
  searchFrom r [] s.toList

end Regex

end TableQuery
