import TableQuery.Regex.Basic

/-!
# Reading regular expressions

`Regex.parse?` reads the expression that a pattern writes and refuses a pattern that is not well formed. A
pattern is read from left to right; groups that are not closed yet wait on a stack, each with what has been read
of it, so that one pass does for any nesting. Letters in a group's head, or at the very front of a pattern,
change how the characters of classes are compared, what the assertions for lines mean, whether blanks and
comments are skipped, and whether anything may be repeated. The one escape that is refused although it is well
formed is that of a character by its name, `\N`.
-/

set_option autoImplicit false

namespace TableQuery.Regex

/-! ## Modes -/

/-- How the rest of a group is read. -/
structure Mode where
  caseless : Bool := false
  /-- The assertions for lines hold at all lines. -/
  multiLine : Bool := false
  /-- The point takes line feeds as well. -/
  dotAll : Bool := false
  /-- Blanks and comments are skipped. -/
  verbose : Bool := false
  ascii : Bool := false
  /-- The letter for the opposite of `ascii` was given. -/
  unicode : Bool := false
  /-- Nothing is repeated. -/
  template : Bool := false
  deriving DecidableEq, Repr, Inhabited

namespace Mode

def chars (m : Mode) : CharMode := ⟨m.caseless, m.ascii⟩

/-- The mode with what a letter stands for switched on or off. -/
def switch (m : Mode) (on : Bool) : Char → Option Mode
  | 'i' => some { m with caseless := on }
  | 'm' => some { m with multiLine := on }
  | 's' => some { m with dotAll := on }
  | 'x' => some { m with verbose := on }
  | 'a' => if on then some { m with ascii := true } else none
  | 'u' => if on then some { m with unicode := true } else none
  | 't' => if on then some { m with template := true } else none
  | _ => none

/-- The mode with what all letters stand for switched on or off. -/
def switchAll (m : Mode) (on : Bool) (letters : List Char) : Option Mode :=
  letters.foldlM (fun m c => m.switch on c) m

/-- A mode for a whole pattern: it cannot be both ASCII and not. -/
def isConsistent (m : Mode) : Bool := !(m.ascii && m.unicode)

end Mode

/-! ## What has been read -/

/-- What a part is to a repetition after it. -/
inductive PartRole where
  /-- It can be repeated. -/
  | item
  | assertion
  | repetition
  deriving DecidableEq, Repr

/-- A part of an alternative. -/
structure Part where
  regex : Regex
  role : PartRole := .item
  deriving Repr

/-- What a group does with what stands in it. -/
inductive GroupKind where
  | plain
  | capture (number : Nat)
  | atomic
  | ahead (negated : Bool)
  /-- The bound is the one that held outside on the groups to refer to. -/
  | behind (negated : Bool) (outerBound : Option Nat)
  | choice (number : Nat)
  deriving DecidableEq, Repr

/-- What has been read of a group: finished alternatives and the parts of the current one, the latest first. -/
structure OpenGroup where
  kind : GroupKind := .plain
  mode : Mode := {}
  alternatives : List Regex := []
  parts : List Part := []
  deriving Repr

/-- What is known of the groups that remember something. -/
structure Groups where
  /-- The number of them that were begun. -/
  count : Nat := 0
  /-- The widths of those that are closed. -/
  closed : List (Nat × Width) := []
  names : List (List Char × Nat) := []
  /-- In a look behind, only groups with smaller numbers can be referred to. -/
  bound : Option Nat := none
  /-- The greatest number that a choice asked for. -/
  asked : Nat := 0
  deriving Repr

namespace Groups

def width (g : Groups) (number : Nat) : Width := (g.closed.lookup number).getD default

/-- Whether the text of a group can be asked for. -/
def canRefer (g : Groups) (number : Nat) : Bool :=
  (g.closed.lookup number).isSome && g.bound.all (number < ·)

/-- Whether a choice can ask for a group; outside a look behind, also for one that comes later. -/
def canAsk (g : Groups) (number : Nat) : Bool :=
  g.bound.isNone || g.canRefer number

end Groups

namespace OpenGroup

/-- The parts of the current alternative as one expression. -/
def current (g : OpenGroup) : Regex :=
  g.parts.foldl (fun acc p => seq p.regex acc) empty

def all (g : OpenGroup) : Regex :=
  g.alternatives.foldl (fun acc r => alt r acc) g.current

/-- The group with one more part. -/
def push (g : OpenGroup) (p : Part) : OpenGroup := { g with parts := p :: g.parts }

/-- The group with a new alternative begun; a choice has two at most. -/
def split? (g : OpenGroup) : Option OpenGroup :=
  match g.kind, g.alternatives with
  | .choice _, _ :: _ => none
  | _, _ => some { g with alternatives := g.current :: g.alternatives, parts := [] }

/-- The part that a group is when it is closed, and what is known of groups then. -/
def close? (g : OpenGroup) (known : Groups) : Option (Part × Groups) :=
  match g.kind with
  | .plain => some (⟨g.all, .item⟩, known)
  | .capture n =>
    some (⟨group n g.all, .item⟩, { known with closed := (n, g.all.width known.width) :: known.closed })
  | .atomic => some (⟨.atomic g.all, .item⟩, known)
  | .ahead negated => some (⟨.ahead negated g.all, .item⟩, known)
  | .behind negated outerBound =>
    (g.all.width known.width).fixed?.map fun n =>
      (⟨.behind negated n g.all, .item⟩, { known with bound := outerBound })
  | .choice n =>
    some (⟨match g.alternatives with
      | yes :: _ => ifGroup n yes g.current
      | [] => ifGroup n g.current empty, .item⟩, known)

/-- Whether nothing has been read of the group. -/
def isFresh (g : OpenGroup) : Bool := g.alternatives.isEmpty && g.parts.isEmpty

end OpenGroup

/-! ## Characters and classes -/

def codePoint (mode : Mode) (n : Nat) : Part := ⟨oneOf { items := [.range n n], mode := mode.chars }, .item⟩

/-- The number that some hexadecimal digits at the front write, all of which must be there. -/
def hexCode? (digits : Nat) (cs : List Char) : Option (Nat × List Char) :=
  let front := cs.take digits
  if front.length = digits then (front.mapM Text.hexDigit?).map fun ds => (Text.ofDigits 16 ds, cs.drop digits)
  else none

def maxCodePoint : Nat := 0x10ffff

def isOctal (c : Char) : Bool := '0' ≤ c && c ≤ '7'

/-- The number that ASCII digits write. -/
def number (base : Nat) (digits : List Char) : Nat :=
  Text.ofDigits base (digits.map fun c => c.toNat - 48)

/-- The character that a letter after a backslash stands for. -/
def controlCode? : Char → Option Nat
  | 'a' => some 7
  | 't' => some 9
  | 'n' => some 10
  | 'v' => some 11
  | 'f' => some 12
  | 'r' => some 13
  | _ => none

/-- The code point that is written after a backslash without the use of numbers in decimal or octal. -/
def escapedCode? : List Char → Option (Nat × List Char)
  | 'x' :: r => hexCode? 2 r
  | 'u' :: r => hexCode? 4 r
  | 'U' :: r => (hexCode? 8 r).filter (·.1 ≤ maxCodePoint)
  | c :: r =>
    match controlCode? c with
    | some n => some (n, r)
    | none => if c.isAlphanum then none else some (c.toNat, r)
  | [] => none

/-- The class that a letter after a backslash stands for. -/
def escapedClass? : Char → Option ClassItem
  | 'd' => some (.digit false)
  | 'D' => some (.digit true)
  | 's' => some (.space false)
  | 'S' => some (.space true)
  | 'w' => some (.word false)
  | 'W' => some (.word true)
  | _ => none

/-- The assertion that a letter after a backslash stands for. -/
def escapedTest? (mode : Mode) : Char → Option PlaceTest
  | 'A' => some .textStart
  | 'Z' => some .textEnd
  | 'b' => some (.wordEdge false mode.ascii)
  | 'B' => some (.wordEdge true mode.ascii)
  | _ => none

/-- A number after a backslash: an octal code point if it starts with a zero or has three octal digits, else a
group. -/
def escapedNumber? (mode : Mode) (known : Groups) (cs : List Char) : Option (Part × List Char) :=
  let octal := (cs.take 3).takeWhile isOctal
  if cs.head? == some '0' || octal.length = 3 then
    let n := number 8 octal
    if n ≤ 0o377 then some (codePoint mode n, cs.drop octal.length) else none
  else
    let digits := (cs.take 2).takeWhile Char.isDigit
    let n := number 10 digits
    if known.canRefer n then some (⟨again n mode.chars, .item⟩, cs.drop digits.length) else none

/-- The part that is written after a backslash. -/
def escaped? (mode : Mode) (known : Groups) (cs : List Char) : Option (Part × List Char) :=
  match cs with
  | [] => none
  | c :: r =>
    match escapedClass? c, escapedTest? mode c with
    | some item, _ => some (⟨oneOf { items := [item], mode := mode.chars }, .item⟩, r)
    | none, some test => some (⟨place test, .assertion⟩, r)
    | none, none =>
      if c.isDigit then escapedNumber? mode known cs
      else (escapedCode? cs).map fun (n, r) => (codePoint mode n, r)

/-- One member of a class at the front: a code point or a class letter. In a class a backslash and `b` are a
backspace, and numbers are octal. -/
def classAtom? : List Char → Option (ClassItem × List Char)
  | '\\' :: 'b' :: r => some (.range 8 8, r)
  | '\\' :: c :: r =>
    match escapedClass? c with
    | some item => some (item, r)
    | none =>
      if c.isDigit then
        let octal := (c :: r.take 2).takeWhile isOctal
        let n := number 8 octal
        if octal.isEmpty || 0o377 < n then none else some (.range n n, (c :: r).drop octal.length)
      else (escapedCode? (c :: r)).map fun (n, r) => (.range n n, r)
  | ['\\'] => none
  | c :: r => some (.range c.toNat c.toNat, r)
  | [] => none

/-- The members of a class up to its closing bracket, after `acc`, and what follows. A closing bracket that
comes first is a member. As long as `fuel` lasts, each step takes a character. -/
def classItems? : Nat → List ClassItem → List Char → Option (List ClassItem × List Char)
  | 0, _, _ => none
  | fuel + 1, acc, cs =>
    if cs.head? == some ']' && !acc.isEmpty then some (acc, cs.drop 1)
    else match classAtom? cs with
      | none => none
      | some (item, '-' :: ']' :: r) => some (acc ++ [item, .range 45 45], r)
      | some (item, '-' :: r) =>
        match item, classAtom? r with
        | .range a _, some (.range b _, r) => if a ≤ b then classItems? fuel (acc ++ [.range a b]) r else none
        | _, _ => none
      | some (item, r) => classItems? fuel (acc ++ [item]) r

/-- The class after its opening bracket. -/
def class? (mode : Mode) (cs : List Char) : Option (Part × List Char) :=
  let negated := cs.head? == some '^'
  (classItems? (cs.length + 1) [] (if negated then cs.drop 1 else cs)).map fun (items, r) =>
    (⟨oneOf { items, negated, mode := mode.chars }, .item⟩, r)

/-! ## Repetitions -/

/-- The least number that is too large for a repetition. -/
def repetitionLimit : Nat := 4294967295

/-- What stands at a place where a repetition can be written. -/
inductive Quantifier where
  | none
  | malformed
  | times (least : Nat) (most : Option Nat) (rest : List Char)

/-- The bounds of a counted repetition after its opening brace, which without such bounds stands for itself. -/
def Quantifier.ofBounds (cs : List Char) : Quantifier :=
  let low := cs.takeWhile Char.isDigit
  let r := cs.dropWhile Char.isDigit
  let (high, r) := if r.head? == some ',' then ((r.drop 1).takeWhile Char.isDigit, (r.drop 1).dropWhile Char.isDigit)
    else (low, r)
  if cs.head? == some '\x7d' || r.head? != some '\x7d' then .none
  else
    let least := number 10 low
    let most := if high.isEmpty then Option.none else some (number 10 high)
    if repetitionLimit ≤ least || most.any fun m => repetitionLimit ≤ m || m < least then .malformed
    else .times least most (r.drop 1)

def Quantifier.read : List Char → Quantifier
  | '*' :: r => .times 0 Option.none r
  | '+' :: r => .times 1 Option.none r
  | '?' :: r => .times 0 (some 1) r
  | '\x7b' :: r => ofBounds r
  | _ => .none

/-- How much a repetition takes, by the mark after it. -/
def greedMark : List Char → Greed × List Char
  | '?' :: r => (.lazy, r)
  | '+' :: r => (.possessive, r)
  | r => (.greedy, r)

/-- The group with its latest part repeated, if there is one that can be. -/
def OpenGroup.repeat? (g : OpenGroup) (least : Nat) (most : Option Nat) (greed : Greed) : Option OpenGroup :=
  match g.parts with
  | ⟨regex, .item⟩ :: parts => some { g with parts := ⟨rep regex least most greed, .repetition⟩ :: parts }
  | _ => none

/-! ## Heads of groups -/

/-- What an opening bracket and the characters after it begin. -/
inductive Head where
  | group (kind : GroupKind) (mode : Mode) (known : Groups) (rest : List Char)
  | part (p : Part) (rest : List Char)
  /-- Another mode for the whole pattern. -/
  | mode (m : Mode) (rest : List Char)
  | comment (rest : List Char)

/-- The characters up to a closing one, and what follows it. -/
def upTo? (close : Char) (cs : List Char) : Option (List Char × List Char) :=
  match cs.dropWhile (· != close) with
  | _ :: r => some (cs.takeWhile (· != close), r)
  | [] => none

/-- What follows a comment, in which a backslash hides the character after it. -/
def afterComment? (close : Char) : List Char → Option (List Char)
  | '\\' :: _ :: r => afterComment? close r
  | ['\\'] => none
  | c :: r => if c = close then some r else afterComment? close r
  | [] => none

/-- A name of a group: of letters, digits and underscores, without a digit in front. -/
def isGroupName : List Char → Bool
  | c :: cs => isWordChar false c && (Text.digitValue? c).isNone && cs.all (isWordChar false)
  | [] => false

/-- The head of a group that remembers, possibly under a name. -/
def Groups.capture? (known : Groups) (mode : Mode) (name : Option (List Char)) (rest : List Char) : Option Head :=
  let n := known.count + 1
  match name with
  | none => some (.group (.capture n) mode { known with count := n } rest)
  | some name =>
    if isGroupName name && (known.names.lookup name).isNone then
      some (.group (.capture n) mode { known with count := n, names := (name, n) :: known.names } rest)
    else none

/-- The number of the group that a choice asks for, by its name or its number. -/
def Groups.asked? (known : Groups) (name : List Char) : Option Nat :=
  if isGroupName name then known.names.lookup name
  else if !name.isEmpty && name.all Char.isDigit && number 10 name != 0 then some (number 10 name)
  else none

/-- The head that letters for modes make: for the whole pattern, or for a group of its own. -/
def modeHead? (mode : Mode) (known : Groups) (cs : List Char) : Option Head :=
  let on := cs.takeWhile Char.isAlpha
  match cs.dropWhile Char.isAlpha with
  | ')' :: r => if on.isEmpty then none else (mode.switchAll true on).map fun m => .mode m r
  | ':' :: r => if on.isEmpty then none else withLetters on [] r
  | '-' :: r =>
    let off := r.takeWhile Char.isAlpha
    match r.dropWhile Char.isAlpha with
    | ':' :: r => if off.isEmpty || off.any on.contains then none else withLetters on off r
    | _ => none
  | _ => none
where
  /-- A group with a mode of its own. Whether anything is repeated is a matter of the whole pattern. -/
  withLetters (on off : List Char) (rest : List Char) : Option Head :=
    if on.contains 'a' && on.contains 'u' || on.contains 't' then none
    else do
      let m ← ({ mode with unicode := false } : Mode).switchAll true on
      let m ← m.switchAll false off
      return .group .plain { m with ascii := m.ascii && !m.unicode, unicode := mode.unicode } known rest

/-- What an opening bracket begins, with what stands after it. -/
def Head.read? (mode : Mode) (known : Groups) (cs : List Char) : Option Head :=
  match cs with
  | '?' :: 'P' :: '<' :: r => (upTo? '>' r).bind fun (name, r) => known.capture? mode (some name) r
  | '?' :: 'P' :: '=' :: r =>
    (upTo? ')' r).bind fun (name, r) =>
      ((known.names.lookup name).filter known.canRefer).map fun n => .part ⟨again n mode.chars, .item⟩ r
  | '?' :: ':' :: r => some (.group .plain mode known r)
  | '?' :: '#' :: r => (afterComment? ')' r).map .comment
  | '?' :: '=' :: r => some (.group (.ahead false) mode known r)
  | '?' :: '!' :: r => some (.group (.ahead true) mode known r)
  | '?' :: '<' :: '=' :: r => some (behind false r)
  | '?' :: '<' :: '!' :: r => some (behind true r)
  | '?' :: '(' :: r =>
    (upTo? ')' r).bind fun (name, r) =>
      ((known.asked? name).filter known.canAsk).map fun n =>
        .group (.choice n) mode { known with asked := max known.asked n } r
  | '?' :: '>' :: r => some (.group .atomic mode known r)
  | '?' :: r => modeHead? mode known r
  | r => known.capture? mode none r
where
  /-- A look behind. The bound on the groups to refer to is that of the outermost one. -/
  behind (negated : Bool) (r : List Char) : Head :=
    .group (.behind negated known.bound) mode { known with bound := some (known.bound.getD (known.count + 1)) } r

/-! ## Patterns -/

/-- The expression that the rest of a pattern completes: `inner` is being read, and `outer` are the groups
around it. As long as `fuel` lasts, each step takes a character. -/
def read? : Nat → List Char → Groups → OpenGroup → List OpenGroup → Option Regex
  | 0, _, _, _, _ => none
  | fuel + 1, cs, known, inner, outer =>
    let mode := inner.mode
    let push (p : Part × List Char) := read? fuel p.2 known (inner.push p.1) outer
    let assert (test : PlaceTest) (r : List Char) := push (⟨place test, .assertion⟩, r)
    match cs with
    | [] => if outer.isEmpty && known.asked ≤ known.count && mode.isConsistent then some inner.all else none
    | c :: r =>
      if mode.verbose && Text.isAsciiBlank c then read? fuel r known inner outer
      else if mode.verbose && c == '#' then
        (skipLine r).bind fun r => read? fuel r known inner outer
      else match Quantifier.read cs with
        | .malformed => none
        | .times least most r =>
          let (greed, r) := greedMark r
          if mode.template then none
          else (inner.repeat? least most greed).bind fun inner => read? fuel r known inner outer
        | .none =>
          match c with
          | '(' =>
            (Head.read? mode known r).bind fun
              | .group kind mode known r => read? fuel r known { kind, mode } (inner :: outer)
              | .part p r => push (p, r)
              | .mode m r => if outer.isEmpty && inner.isFresh then
                  read? fuel r known { inner with mode := m } outer
                else none
              | .comment r => read? fuel r known inner outer
          | ')' =>
            match outer with
            | g :: gs => (inner.close? known).bind fun (p, known) => read? fuel r known (g.push p) gs
            | [] => none
          | '|' => inner.split?.bind fun inner => read? fuel r known inner outer
          | '^' => assert (if mode.multiLine then .lineStart else .textStart) r
          | '$' => assert (if mode.multiLine then .lineEnd else .lastLineEnd) r
          | '.' => push (⟨oneOf { items := if mode.dotAll then [] else [.range 10 10], negated := true }, .item⟩, r)
          | '[' => (class? mode r).bind push
          | '\\' => (escaped? mode known r).bind push
          | c => push (codePoint mode c.toNat, r)
where
  /-- What follows a comment up to the end of its line. -/
  skipLine (cs : List Char) : Option (List Char) :=
    if endsHidden cs then none else some ((afterComment? '\n' cs).getD [])
  /-- Whether the text ends in a backslash that hides nothing. -/
  endsHidden : List Char → Bool
    | '\\' :: _ :: r => endsHidden r
    | ['\\'] => true
    | _ :: r => endsHidden r
    | [] => false

/-- The expression that a pattern writes, if it is well formed. -/
def parse? (pattern : String) : Option Regex :=
  let cs := pattern.toList
  read? (cs.length + 1) cs {} {} []

end TableQuery.Regex
