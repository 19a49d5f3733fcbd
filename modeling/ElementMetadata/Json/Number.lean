import ElementMetadata.Json.Basic
import ElementMetadata.Json.Token

/-!
Numbers at the front of a JSON text. An integer literal that a 64-bit word holds is exact. Any
other literal is a float: its leading digits, as many as 64 bits hold, scaled by a power of ten.
-/
namespace ElementMetadata.Json
variable {ε : Type} [FromSyntax ε]

/-- Reads digits as long as their value fits 64 bits; what is over stays. -/
def significand (value : Nat) : List Char → Nat × List Char
  | [] => (value, [])
  | c :: rest =>
    let next := value * 10 + digitValue c
    if next ≤ 18446744073709551615 then significand next rest else (value, c :: rest)

/-- `value / 10 ^ places`, at most 308 places in one division; once zero it stays zero. -/
def divideByTens (value : Float) (places : Nat) : Float :=
  if places ≤ 308 then value / Float.ofScientific 1 false places
  else if value == 0 then value
  else divideByTens (value / Float.ofScientific 1 false 308) (places - 308)
termination_by places

/-- `digits * 10 ^ exponent`, rounded at each step; none if it is too large for a float. -/
def scaled? (digits : Nat) (exponent : Int) : Option Float :=
  let value := (UInt64.ofNat digits).toFloat
  if exponent < 0 then some (divideByTens value exponent.natAbs)
  else if exponent ≤ 308 then
    let result := value * Float.ofScientific 1 false exponent.natAbs
    if result.isInf then none else some result
  else if value == 0 then some value
  else none

structure Literal where
  negative : Bool
  whole : List Char
  fraction : Option (List Char)
  /-- Whether the exponent is negative, and its digits. -/
  exponent : Option (Bool × List Char)

/-- An exponent beyond this makes a float zero or too large, whatever its digits are. -/
def exponentLimit : Nat := 2147483647

def overLimit? (value : Nat) : List Char → Option (List Char)
  | [] => none
  | c :: rest =>
    let next := value * 10 + digitValue c
    if next ≤ exponentLimit then overLimit? next rest else some rest

/-- An integer literal as a value; a negative zero and what no 64-bit word holds become floats. -/
def integerValue? (negative : Bool) (whole : List Char) : Option Json :=
  let (digits, excess) := significand 0 whole
  let sign (x : Float) : Float := if negative then -x else x
  if excess.isEmpty then
    if negative then
      if digits = 0 then some (.float (sign 0))
      else match WireInt.ofInt? (-digits) with
        | some n => some (.integer n)
        | none => some (.float (sign (UInt64.ofNat digits).toFloat))
    else (WireInt.ofInt? digits).map .integer
  else (scaled? digits excess.length).map fun x => .float (sign x)

/-- The value of a literal, or how many bytes of it lie behind the place where it proves too large
for a float. -/
def Literal.value (literal : Literal) : Except Nat Json :=
  let sign (x : Float) : Float := if literal.negative then -x else x
  let fraction := literal.fraction.getD []
  let (digits, excess) := significand 0 literal.whole
  let (digits, dropped) := significand digits fraction
  let exponent : Int := excess.length - (fraction.length - dropped.length : Nat)
  let result (x : Option Float) : Except Nat Json :=
    match x with
    | some x => .ok (.float (sign x))
    | none => .error 0
  match literal.fraction, literal.exponent with
  | none, none =>
    match integerValue? literal.negative literal.whole with
    | some v => .ok v
    | none => .error 0
  | _, none => result (scaled? digits exponent)
  | _, some (down, power) =>
    match overLimit? 0 power with
    | some behind =>
      if digits = 0 ∨ down then .ok (.float (sign 0)) else .error behind.length
    | none =>
      let power : Int := digitsValue 0 power
      result (scaled? digits (if down then exponent - power else exponent + power))

def readWhole (text : List Char) : Scan ε (List Char × List Char) :=
  match text with
  | [] => stopAt .valueEnds []
  | '0' :: rest =>
    match rest with
    | c :: _ => if isDigit c then stopNext .badNumber rest else .ok (['0'], rest)
    | [] => .ok (['0'], rest)
  | c :: rest =>
    if isDigit c then .ok (c :: rest.takeWhile isDigit, rest.dropWhile isDigit)
    else stopNext .badNumber (c :: rest)

def readFraction (text : List Char) : Scan ε (Option (List Char) × List Char) :=
  match text with
  | '.' :: rest =>
    match rest.takeWhile isDigit with
    | [] => if rest.isEmpty then stopAt .valueEnds [] else stopNext .badNumber rest
    | digits => .ok (some digits, rest.dropWhile isDigit)
  | _ => .ok (none, text)

def readExponentSign (text : List Char) : Bool × List Char :=
  match text with
  | '+' :: rest => (false, rest)
  | '-' :: rest => (true, rest)
  | _ => (false, text)

def readExponent (text : List Char) : Scan ε (Option (Bool × List Char) × List Char) :=
  match text with
  | c :: rest =>
    if c = 'e' ∨ c = 'E' then
      let (down, rest) := readExponentSign rest
      match rest.takeWhile isDigit with
      | [] => if rest.isEmpty then stopAt .valueEnds [] else stopNext .badNumber rest
      | digits => .ok (some (down, digits), rest.dropWhile isDigit)
    else .ok (none, text)
  | [] => .ok (none, text)

def readLiteral (text : List Char) : Scan ε (Literal × List Char) := do
  let (negative, text) := match text with
    | '-' :: rest => (true, rest)
    | _ => (false, text)
  let (whole, text) ← readWhole text
  let (fraction, text) ← readFraction text
  let (exponent, text) ← readExponent text
  return (⟨negative, whole, fraction, exponent⟩, text)

def readNumber (text : List Char) : Scan ε (Json × List Char) := do
  let (literal, rest) ← readLiteral text
  match literal.value with
  | .ok v => return (v, rest)
  | .error behind => .error ⟨FromSyntax.fromSyntax .numberTooLarge, byteCount rest + behind⟩

def beginsNumber (c : Char) : Bool := c == '-' || isDigit c

end ElementMetadata.Json
