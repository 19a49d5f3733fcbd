import ElementMetadata.Json.Fault
import ElementMetadata.Text.Digits

/-!
Blanks, words and strings at the front of a JSON text. A string is read after its opening quote, up
to and with the closing one. Escapes of UTF-16 surrogates have to come in pairs.
-/
namespace ElementMetadata.Json
variable {ε : Type} [FromSyntax ε]

def isBlank (c : Char) : Bool := c == ' ' || c == '\n' || c == '\t' || c == '\r'

def skipBlanks (text : List Char) : List Char := text.dropWhile isBlank

def readWord : List Char → List Char → Scan ε (List Char)
  | [], text => .ok text
  | _ :: _, [] => stopAt .valueEnds []
  | letter :: letters, c :: rest =>
    if c = letter then readWord letters rest else stopNext .wordExpected (c :: rest)

def readName (text : List Char) : Scan ε (List Char) :=
  match text with
  | 'n' :: rest => readWord ['u', 'l', 'l'] rest
  | 't' :: rest => readWord ['r', 'u', 'e'] rest
  | 'f' :: rest => readWord ['a', 'l', 's', 'e'] rest
  | rest => stopNext .valueExpected rest

def hexUnit? (a b c d : Char) : Option Nat := do
  return (((← hexDigit? a) * 16 + (← hexDigit? b)) * 16 + (← hexDigit? c)) * 16 + (← hexDigit? d)

def isHighSurrogate (unit : Nat) : Bool := 0xD800 ≤ unit && unit ≤ 0xDBFF

def isLowSurrogate (unit : Nat) : Bool := 0xDC00 ≤ unit && unit ≤ 0xDFFF

def pairedChar (high low : Nat) : Char :=
  Char.ofNat ((high - 0xD800) * 0x400 + (low - 0xDC00) + 0x10000)

/-- Four bytes that are no hexadecimal digits, or a text that ends within them. -/
def badHex {α : Type} (text : List Char) : Scan ε α :=
  if byteCount text < 4 then stopAt .stringEnds []
  else .error ⟨FromSyntax.fromSyntax .badEscape, byteCount text - 4⟩

/-- What stands behind a high surrogate where the escape of a low one should. -/
def badPair {α : Type} (text : List Char) : Scan ε α :=
  match text with
  | [] => stopAt .stringEnds []
  | '\\' :: [] => stopAt .stringEnds []
  | '\\' :: 'u' :: rest => badHex rest
  | '\\' :: rest => stopNext .hexEscapeEnds rest
  | rest => stopNext .hexEscapeEnds rest

def escaped? (c : Char) : Option Char :=
  match c with
  | '\"' => some '\"'
  | '\\' => some '\\'
  | '/' => some '/'
  | 'b' => some '\x08'
  | 'f' => some '\x0c'
  | 'n' => some '\n'
  | 'r' => some '\r'
  | 't' => some '\t'
  | _ => none

def isControl (c : Char) : Bool := c.toNat < 0x20

def readChars : List Char → Scan ε (List Char × List Char)
  | [] => stopAt .stringEnds []
  | '\"' :: rest => .ok ([], rest)
  | '\\' :: 'u' :: a :: b :: c :: d :: rest =>
    match hexUnit? a b c d with
    | none => badHex (a :: b :: c :: d :: rest)
    | some unit =>
      if isLowSurrogate unit then stopAt .loneSurrogate rest
      else if isHighSurrogate unit then
        match rest with
        | '\\' :: 'u' :: e :: f :: g :: h :: rest =>
          match hexUnit? e f g h with
          | none => badHex (e :: f :: g :: h :: rest)
          | some low =>
            if isLowSurrogate low then
              (readChars rest).map fun (cs, rest) => (pairedChar unit low :: cs, rest)
            else stopAt .loneSurrogate rest
        | rest => badPair rest
      else (readChars rest).map fun (cs, rest) => (Char.ofNat unit :: cs, rest)
  | '\\' :: 'u' :: rest => badHex rest
  | '\\' :: c :: rest =>
    match escaped? c with
    | some x => (readChars rest).map fun (cs, rest) => (x :: cs, rest)
    | none => stopNext .badEscape (c :: rest)
  | '\\' :: [] => stopAt .stringEnds []
  | c :: rest =>
    if isControl c then stopAt .controlCharacter rest
    else (readChars rest).map fun (cs, rest) => (c :: cs, rest)

def readString (text : List Char) : Scan ε (String × List Char) :=
  (readChars text).map fun (cs, rest) => (String.ofList cs, rest)

end ElementMetadata.Json
