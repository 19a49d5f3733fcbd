import ElementMetadata.Text.Digits
import ElementMetadata.Time.Calendar

/-!
Numbers and dates of TOML. Underscores may stand between the digits of a number. An integer has to fit
a signed 64-bit word, and a float must not exceed the greatest one.
-/
namespace ElementMetadata.Toml

/-- Digits, at least one, with no more than one underscore between two of them. -/
def isGrouped (digit : Char → Bool) : List Char → Bool
  | [] => false
  | [c] => digit c
  | c :: '_' :: rest => digit c && isGrouped digit rest
  | c :: rest => digit c && isGrouped digit rest

def isDecimal (digits : List Char) : Bool :=
  isGrouped isDigit digits && (digits.head? != some '0' || digits.length == 1)

def withoutGroups (digits : List Char) : List Char := digits.filter (· != '_')

def valueIn (radix : Nat) (digits : List Char) : Nat :=
  (withoutGroups digits).foldl (fun n c => n * radix + (hexDigit? c).getD 0) 0

def isRadixDigit (radix : Nat) (c : Char) : Bool := (hexDigit? c).any (· < radix)

def maxInteger : Nat := 9223372036854775807

def isRadixInteger (radix : Nat) (digits : List Char) : Bool :=
  isGrouped (isRadixDigit radix) digits && valueIn radix digits ≤ maxInteger

/-- Half a step above the greatest float; from there on a number is rounded to infinity. -/
def floatBound : Nat := 18014398509481983 * Nat.pow 2 970

def overflows (digits : Nat) (exponent : Int) : Bool :=
  let size := (Nat.toDigits 10 digits).length + exponent
  if digits = 0 ∨ size < 300 then false
  else if 320 < size then true
  else if exponent < 0 then floatBound * Nat.pow 10 exponent.natAbs ≤ digits
  else floatBound ≤ digits * Nat.pow 10 exponent.natAbs

def isGroupChar (c : Char) : Bool := isDigit c || c == '_'

def exponent? (text : List Char) : Option Int :=
  let (down, digits) := match text with
    | '+' :: rest => (false, rest)
    | '-' :: rest => (true, rest)
    | text => (false, text)
  if isGrouped isDigit digits then
    let value : Int := valueIn 10 digits
    some (if down then -value else value)
  else none

def isUnsigned (negative : Bool) (text : List Char) : Bool :=
  let whole := text.takeWhile isGroupChar
  let float (fraction : List Char) (exponent : Int) : Bool :=
    isDecimal whole && (negative ||
      !overflows (valueIn 10 (whole ++ fraction)) (exponent - (withoutGroups fraction).length))
  match text.dropWhile isGroupChar with
  | [] => isDecimal whole && valueIn 10 whole ≤ (if negative then maxInteger + 1 else maxInteger)
  | '.' :: rest =>
    let fraction := rest.takeWhile isGroupChar
    isGrouped isDigit fraction &&
      match rest.dropWhile isGroupChar with
      | [] => float fraction 0
      | c :: rest => (c == 'e' || c == 'E') && (exponent? rest).any (float fraction)
  | c :: rest => (c == 'e' || c == 'E') && (exponent? rest).any (float [])

def isUnsignedNumber (negative : Bool) (text : List Char) : Bool :=
  text == ['i', 'n', 'f'] || text == ['n', 'a', 'n'] || isUnsigned negative text

def isNumber (text : List Char) : Bool :=
  match text with
  | '0' :: 'x' :: digits => isRadixInteger 16 digits
  | '0' :: 'o' :: digits => isRadixInteger 8 digits
  | '0' :: 'b' :: digits => isRadixInteger 2 digits
  | '+' :: rest => isUnsignedNumber false rest
  | '-' :: rest => isUnsignedNumber true rest
  | text => isUnsignedNumber false text

def pair? (low high : Nat) (a b : Char) : Option Nat :=
  let value := digitsValue 0 [a, b]
  if isDigit a && isDigit b && low ≤ value && value ≤ high then some value else none

def afterDate? : List Char → Option (List Char)
  | a :: b :: c :: d :: '-' :: e :: f :: '-' :: g :: h :: rest => do
    let month ← pair? 1 12 e f
    let _ ← pair? 1 (daysInMonth (digitsValue 0 [a, b, c, d]) month) g h
    if [a, b, c, d].all isDigit then some rest else none
  | _ => none

def afterTime? : List Char → Option (List Char)
  | a :: b :: ':' :: c :: d :: ':' :: e :: f :: rest => do
    let _ ← pair? 0 23 a b
    let _ ← pair? 0 59 c d
    let _ ← pair? 0 60 e f
    match rest with
    | '.' :: g :: rest => if isDigit g then some (rest.dropWhile isDigit) else none
    | rest => some rest
  | _ => none

def isOffset : List Char → Bool
  | ['Z'] | ['z'] => true
  | [sign, a, b, ':', c, d] =>
    (sign == '+' || sign == '-') && (pair? 0 23 a b).isSome && (pair? 0 59 c d).isSome
  | _ => false

def isClockTime (text : List Char) : Bool :=
  (afterTime? text).any fun rest => rest.isEmpty || isOffset rest

def isDate (text : List Char) : Bool := afterDate? text == some []

def isMoment (text : List Char) : Bool :=
  afterTime? text == some [] ||
    match afterDate? text with
    | some [] => true
    | some (c :: rest) => (c == 'T' || c == 't') && isClockTime rest
    | none => false

end ElementMetadata.Toml
