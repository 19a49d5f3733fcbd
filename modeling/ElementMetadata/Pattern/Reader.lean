import ElementMetadata.Pattern.Set
import ElementMetadata.Text.Numeral

/-!
Regular expressions, read for whether a matcher can be built from them. A pattern may nest `maxDepth` deep.
Braces hold no number of repetitions, since a closing one ends the field that a pattern is written in.
-/
namespace ElementMetadata.Pattern

def maxDepth : Nat := 250

/-- What has been read of a group or of the whole pattern, as the depths of its parts. -/
structure Part where
  /-- The modes that hold again behind it. -/
  outside : Modes := {}
  alternatives : List Nat := []
  /-- The pieces of the last alternative, last first; none for a change of modes, which is not repeated. -/
  pieces : List (Option Nat) := []

namespace Part

def add (p : Part) (depth : Nat) : Part := { p with pieces := some depth :: p.pieces }

def alternative (p : Part) : Nat := sideBySide (p.pieces.map (·.getD 0))

def depth (p : Part) : Nat := sideBySide (p.alternative :: p.alternatives)

def orElse (p : Part) : Part :=
  { p with alternatives := p.alternative :: p.alternatives, pieces := [] }

def repeat? (p : Part) : Option Part :=
  match p.pieces with
  | some depth :: pieces => some { p with pieces := some (depth + 1) :: pieces }
  | _ => none

end Part

structure Reading where
  modes : Modes := {}
  here : Part := {}
  around : List Part := []
  names : List (List Char) := []
  /-- Whether ends of words of any script have been asked for. -/
  wordEdges : Bool := false

def startsName (c : Char) : Bool := c == '_' || isAlphanumeric c && !isNumeral c

def isNameChar (c : Char) : Bool := isAlphanumeric c || ['_', '.', '[', ']'].contains c

def isName : List Char → Bool
  | [] => false
  | c :: rest => startsName c && rest.all isNameChar

namespace Reading

def add (r : Reading) (depth : Nat) : Reading := { r with here := r.here.add depth }

def addSign (r : Reading) (sign : Sign) : Option Reading :=
  if sign.isAllowed r.modes then
    some { r.add 0 with wordEdges := r.wordEdges || sign == .wordEdge && r.modes.unicode }
  else none

def enter (r : Reading) (modes : Modes) : Reading :=
  { r with modes, here := { outside := r.modes }, around := r.here :: r.around }

def leave? (r : Reading) : Option Reading :=
  match r.around with
  | [] => none
  | outer :: around =>
    some { r with modes := r.here.outside, here := outer.add (r.here.depth + 1), around }

def named? (r : Reading) (text : List Char) : Option (Reading × List Char) :=
  let name := text.takeWhile (· != '>')
  match text.dropWhile (· != '>') with
  | _ :: rest =>
    if isName name && !r.names.contains name then
      some ({ r.enter r.modes with names := name :: r.names }, rest)
    else none
  | [] => none

def changeModes? (r : Reading) (text : List Char) : Option (Reading × List Char) :=
  let letters := text.takeWhile fun c => c != ':' && c != ')'
  let modes := r.modes.change letters
  if isModeChange letters then
    match text.drop letters.length with
    | ':' :: rest => some (r.enter modes, rest)
    | ')' :: rest =>
      if letters.isEmpty then none
      else some ({ r with modes, here := { r.here with pieces := none :: r.here.pieces } }, rest)
    | _ => none
  else none

def open? (r : Reading) (text : List Char) : Option (Reading × List Char) :=
  match r.modes.skip text with
  | '?' :: 'P' :: '<' :: rest | '?' :: '<' :: rest => r.named? rest
  | '?' :: rest => r.changeModes? rest
  | rest => some (r.enter r.modes, rest)

def step? (r : Reading) : List Char → Option (Reading × List Char)
  | [] => none
  | c :: rest =>
    match c with
    | '(' => r.open? rest
    | ')' => do return (← r.leave?, rest)
    | '|' => some ({ r with here := r.here.orElse }, rest)
    | '[' => do
      let (depth, rest) ← set? r.modes rest
      return (r.add depth, rest)
    | '?' | '*' | '+' => do
      let here ← r.here.repeat?
      return ({ r with here }, if rest.head? == some '?' then rest.drop 1 else rest)
    | '\x7b' => none
    | '\\' => do
      let (sign, rest) ← escape? r.modes rest
      return (← r.addSign sign, rest)
    | '.' => if r.modes.unicode then some (r.add 0, rest) else none
    | '^' | '$' => do return (← r.addSign .edge, rest)
    | c => do return (← r.addSign (.character c), rest)

def readAll (r : Reading) : Nat → List Char → Option Reading
  | 0, _ => none
  | fuel + 1, text =>
    match r.modes.skip text with
    | [] => if r.around.isEmpty then some r else none
    | text => do
      let (r, rest) ← r.step? text
      r.readAll fuel rest

end Reading

inductive Fault where
  | malformed
  | wordEdge
deriving DecidableEq

def Fault.message : Fault → String
  | .malformed => "error building NFA"
  | .wordEdge => "unsupported regex feature for DFAs: cannot build DFAs for regexes with Unicode word " ++
    "boundaries; switch to ASCII word boundaries, or heuristically enable Unicode word boundaries or use a " ++
    "different regex engine"

def fault? (text : List Char) : Option Fault :=
  match ({} : Reading).readAll (text.length + 1) text with
  | none => some .malformed
  | some r =>
    if maxDepth < r.here.depth then some .malformed
    else if r.wordEdges then some .wordEdge
    else none

end ElementMetadata.Pattern
