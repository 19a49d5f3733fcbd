import ElementMetadata.Decimal.Shortest

/-!
How a float is written: which exponents are written out as zeros, and what an exponent looks like.
`FloatLayout.wire` is the layout of all floats that this library writes.
-/
namespace ElementMetadata

structure FloatLayout where
  /-- The exponents of the first digit from the first of which on, and below the second of which,
  a float is written without an exponent. -/
  plainFrom : Int
  plainBelow : Int
  wholeEnding : String
  positiveMark : String
  negativeMark : String

namespace FloatLayout

/-- Floats from a hundred-thousandth up to `10 ^ 16` are plain and have at least one decimal. -/
def wire : FloatLayout := ⟨-5, 16, ".0", "e+", "e-"⟩

def zeros (n : Nat) : String := String.ofList (List.replicate n '0')

def writeDecimal (layout : FloatLayout) (d : Decimal) : String :=
  let digits := toString d.digits
  let leading : Int := d.exponent + digits.length - 1
  if layout.plainFrom ≤ leading ∧ leading < layout.plainBelow then
    if 0 ≤ d.exponent then digits ++ zeros d.exponent.natAbs ++ layout.wholeEnding
    else if 0 ≤ leading then
      let whole := leading.natAbs + 1
      String.ofList (digits.toList.take whole) ++ "." ++ String.ofList (digits.toList.drop whole)
    else "0." ++ zeros (leading.natAbs - 1) ++ digits
  else
    let mantissa := match digits.toList with
      | [] | [_] => digits
      | c :: rest => String.ofList (c :: '.' :: rest)
    let mark := if leading < 0 then layout.negativeMark else layout.positiveMark
    mantissa ++ mark ++ toString leading.natAbs

def write (layout : FloatLayout) (x : Float) : String :=
  let sign := if x.toBits.toNat / 9223372036854775808 = 1 then "-" else ""
  match Binary.ofBits? x.toBits with
  | none => sign ++ "0" ++ layout.wholeEnding
  | some b => sign ++ layout.writeDecimal (Decimal.shortest b)

end FloatLayout
end ElementMetadata
