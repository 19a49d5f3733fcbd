import ElementMetadata.Pattern.Sign

/-!
Sets of characters in brackets. They are read for how deeply they nest.
-/
namespace ElementMetadata.Pattern

/-- The depth of parts that stand side by side. One alone needs no list around it. -/
def sideBySide : List Nat → Nat
  | [] => 0
  | [depth] => depth
  | depths => depths.foldl max 0 + 1

structure OpenSet where
  /-- Whether a hyphen or a closing bracket still stands for itself. -/
  atStart : Bool := true
  /-- The depth of what stands before the last operator. -/
  operand : Option Nat := none
  members : List Nat := []

namespace OpenSet

def add (s : OpenSet) (depth : Nat) : OpenSet :=
  { s with atStart := false, members := depth :: s.members }

def content (s : OpenSet) : Nat :=
  let last := sideBySide s.members
  s.operand.elim last (max · last + 1)

def depth (s : OpenSet) : Nat := s.content + 1

def operate (s : OpenSet) : OpenSet := { atStart := false, operand := some s.content }

end OpenSet

def setNames : List String :=
  ["alnum", "alpha", "ascii", "blank", "cntrl", "digit", "graph", "lower", "print", "punct", "space", "upper",
    "word", "xdigit"]

/-- A set of ASCII that is named between colons, behind its first bracket: whether it is negated, and what
follows it. -/
def namedSet? : List Char → Option (Bool × List Char)
  | ':' :: text =>
    let negated := text.head? == some '^'
    let text := if negated then text.drop 1 else text
    match text.dropWhile (· != ':') with
    | ':' :: ']' :: rest =>
      if setNames.contains (String.ofList (text.takeWhile (· != ':'))) then some (negated, rest) else none
    | _ => none
  | _ => none

def mayNegate (m : Modes) (negated : Bool) : Bool := m.unicode || !negated

def memberSign? (m : Modes) : List Char → Option (Sign × List Char)
  | [] => none
  | '\\' :: rest => escape? m rest
  | c :: rest => some (.character c, rest)

def afterMember? (m : Modes) (text : List Char) : Option (List Char) := do
  let (first, rest) ← memberSign? m text
  let rest := m.skip rest
  let next := m.peek (rest.drop 1)
  if rest.head? == some '-' && next != some ']' && next != some '-' then
    let (last, rest) ← memberSign? m (m.skip (rest.drop 1))
    if first.isMember m && last.isMember m && (← first.character?) ≤ (← last.character?) then some rest
    else none
  else if first.isMember m then some rest
  else none

/-- Reads on in a set and the ones around it, up to the end of the outermost one. -/
def readSet (m : Modes) : Nat → OpenSet → List OpenSet → List Char → Option (Nat × List Char)
  | 0, _, _, _ => none
  | fuel + 1, here, around, text =>
    let literal (atStart : Bool) (rest : List Char) : Option (Nat × List Char) :=
      if (Sign.character '-').isMember m then
        readSet m fuel { here.add 0 with atStart } around rest
      else none
    match m.skip text with
    | [] => none
    | ']' :: rest =>
      if here.atStart && here.members.isEmpty then literal false rest
      else
        match around with
        | [] => some (here.depth, rest)
        | outer :: around => readSet m fuel (outer.add here.depth) around rest
    | '[' :: rest =>
      match namedSet? rest with
      | some (negated, rest) =>
        if mayNegate m negated && !(m.unicode && m.anyCase) then readSet m fuel (here.add 0) around rest
        else none
      | none =>
        let rest := m.skip rest
        let negated := rest.head? == some '^'
        if mayNegate m negated then
          readSet m fuel {} ({ here with atStart := false } :: around)
            (if negated then rest.drop 1 else rest)
        else none
    | '-' :: rest =>
      if here.atStart then literal true rest
      else if rest.head? == some '-' then readSet m fuel here.operate around (rest.drop 1)
      else do readSet m fuel (here.add 0) around (← afterMember? m ('-' :: rest))
    | '&' :: '&' :: rest | '~' :: '~' :: rest => readSet m fuel here.operate around rest
    | text => do readSet m fuel (here.add 0) around (← afterMember? m text)

def set? (m : Modes) (text : List Char) : Option (Nat × List Char) :=
  let text := m.skip text
  let negated := text.head? == some '^'
  let text := if negated then text.drop 1 else text
  if mayNegate m negated then readSet m (text.length + 1) {} [] text else none

end ElementMetadata.Pattern
