import ElementMetadata.Pattern.Modes
import ElementMetadata.Text.Alphanumeric
import ElementMetadata.Text.Digits

/-!
Signs of a pattern: single characters and what is written with a backslash. The tables that tell letters,
digits and cases of all scripts apart are not at hand, so signs that need them are refused.
-/
namespace ElementMetadata.Pattern

inductive Sign where
  | character (c : Char)
  /-- A character that is written as the two digits of a byte. -/
  | byte (c : Char)
  /-- The digits, the white space or the characters of a word, or all others. -/
  | kind (negated : Bool)
  | edge
  | wordEdge
deriving DecidableEq

def hexNumber? (m : Modes) : Nat → Nat → List Char → Option (Nat × List Char)
  | 0, value, text => some (value, text)
  | count + 1, value, text =>
    match m.skip text with
    | [] => none
    | c :: rest => do hexNumber? m count (value * 16 + (← hexDigit? c)) rest

def hexCharacter? (m : Modes) (count : Nat) (text : List Char) : Option (Char × List Char) := do
  let (code, rest) ← hexNumber? m count 0 text
  if code.isValidChar then some (Char.ofNat code, rest) else none

/-- The sign whose backslash stands before a text. Each mark of ASCII stands for itself. -/
def escape? (m : Modes) : List Char → Option (Sign × List Char)
  | [] => none
  | c :: rest =>
    match c with
    | 'x' => (hexCharacter? m 2 rest).map fun (c, rest) => (.byte c, rest)
    | 'u' => (hexCharacter? m 4 rest).map fun (c, rest) => (.character c, rest)
    | 'U' => (hexCharacter? m 8 rest).map fun (c, rest) => (.character c, rest)
    | 'd' | 's' | 'w' => some (.kind false, rest)
    | 'D' | 'S' | 'W' => some (.kind true, rest)
    | 'A' | 'z' => some (.edge, rest)
    | 'b' | 'B' | '<' | '>' => some (.wordEdge, rest)
    | 'a' => some (.character '\x07', rest)
    | 'f' => some (.character '\x0c', rest)
    | 'n' => some (.character '\n', rest)
    | 'r' => some (.character '\r', rest)
    | 't' => some (.character '\t', rest)
    | 'v' => some (.character '\x0b', rest)
    | c => if c.toNat < 0x80 && !isAlphanumeric c then some (.character c, rest) else none

namespace Sign

def character? : Sign → Option Char
  | .character c | .byte c => some c
  | _ => none

/-- Whether a sign may stand by itself. Without Unicode nothing may stand for a single byte of a character
that is not in ASCII. -/
def isAllowed (m : Modes) : Sign → Bool
  | .character _ => !(m.unicode && m.anyCase)
  | .byte c => if m.unicode then !m.anyCase else c.toNat < 0x80
  | .kind negated => !m.unicode && !negated
  | .edge | .wordEdge => true

def isMember (m : Modes) : Sign → Bool
  | .character c | .byte c => if m.unicode then !m.anyCase else c.toNat < 0x80
  | .kind negated => !m.unicode && !negated
  | .edge | .wordEdge => false

end Sign
end ElementMetadata.Pattern
