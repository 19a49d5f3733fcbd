/-!
The shortest decimal that reads back as a given float. A float `m * 2 ^ q` stands for all reals
that round to it; of the decimals among them the one with the fewest digits is taken, and of several
such the nearest. All arithmetic is exact.
-/
namespace ElementMetadata

/-- A positive float as `mantissa * 2 ^ exponent`. -/
structure Binary where
  mantissa : Nat
  exponent : Int
  /-- Whether the next float below is only half as far away as the next one above. -/
  narrowBelow : Bool
deriving DecidableEq

def Binary.ofBits? (bits : UInt64) : Option Binary :=
  let fraction : Nat := bits.toNat % 4503599627370496
  let power : Nat := bits.toNat / 4503599627370496 % 2048
  if power = 0 then
    if fraction = 0 then none else some ⟨fraction, -1074, false⟩
  else some ⟨4503599627370496 + fraction, (power : Int) - 1075, fraction = 0 ∧ 1 < power⟩

structure Decimal where
  digits : Nat
  exponent : Int
deriving DecidableEq

namespace Decimal

def powerOfTwo (e : Int) : Nat × Nat :=
  if e < 0 then (1, Nat.pow 2 e.natAbs) else (Nat.pow 2 e.natAbs, 1)

def powerOfTen (e : Int) : Nat × Nat :=
  if e < 0 then (1, Nat.pow 10 e.natAbs) else (Nat.pow 10 e.natAbs, 1)

/-- A quarter of the float's last place, as a fraction over `10 ^ e`: numerator and denominator. -/
def quarterPlace (x : Binary) (e : Int) : Nat × Nat :=
  let two := powerOfTwo (x.exponent - 2)
  let ten := powerOfTen e
  (two.1 * ten.2, two.2 * ten.1)

def roundsTo (x : Binary) (e : Int) (digits : Nat) : Bool :=
  let (num, den) := quarterPlace x e
  let below := num * (4 * x.mantissa - if x.narrowBelow then 1 else 2)
  let above := num * (4 * x.mantissa + 2)
  let point := digits * den
  if x.mantissa % 2 = 0 then below ≤ point ∧ point ≤ above else below < point ∧ point < above

/-- The multiple of `10 ^ e` that rounds to the float, the nearer if both neighbours do. -/
def onGrid? (x : Binary) (e : Int) : Option Decimal :=
  let (num, den) := quarterPlace x e
  let value := num * 4 * x.mantissa
  let low := value / den
  let nearLow := 2 * (value % den) < den ∨ (2 * (value % den) = den ∧ low % 2 = 0)
  match roundsTo x e low, roundsTo x e (low + 1) with
  | true, true => some ⟨if nearLow then low else low + 1, e⟩
  | true, false => some ⟨low, e⟩
  | false, true => some ⟨low + 1, e⟩
  | false, false => none

def leadingExponent (x : Binary) : Int :=
  let bits : Int := x.mantissa.log2 + x.exponent
  let estimate : Int := bits * 30103 / 100000
  let reaches (e : Int) : Bool :=
    let (num, den) := quarterPlace x e
    den ≤ num * 4 * x.mantissa
  if reaches (estimate + 1) then estimate + 1
  else if reaches estimate then estimate
  else estimate - 1

def trimmed : Nat → Decimal → Decimal
  | 0, d => d
  | fuel + 1, d =>
    if d.digits % 10 = 0 ∧ d.digits ≠ 0 then trimmed fuel ⟨d.digits / 10, d.exponent + 1⟩ else d

def search (x : Binary) (leading : Int) : Nat → Nat → Option Decimal
  | 0, _ => none
  | fuel + 1, count => (onGrid? x (leading - count + 1)).or (search x leading fuel (count + 1))

/-- Seventeen digits are always enough. -/
def shortest (x : Binary) : Decimal :=
  trimmed 17 ((search x (leadingExponent x) 17 1).getD ⟨0, 0⟩)

end Decimal
end ElementMetadata
