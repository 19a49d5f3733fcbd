/-!
Rounding to a number of significant binary digits, in exact arithmetic.
-/
namespace ElementMetadata

/-- The nearest integer, of two equally near ones the even one. -/
def roundHalfEven (x : Rat) : Int :=
  let k := x.floor
  if x - k < 1 / 2 then k
  else if 1 / 2 < x - k then k + 1
  else k + k % 2

def roundHalfUp (x : Rat) : Int := (x + 1 / 2).floor

/-- The place value of a number's last digit if it is written with so many binary digits; the number
is at least one. -/
def lastPlace (bits : Nat) (x : Rat) : Rat :=
  let leading := x.floor.toNat.log2
  if leading < bits then 1 / (Nat.pow 2 (bits - 1 - leading) : Nat)
  else (Nat.pow 2 (leading + 1 - bits) : Nat)

/-- The nearest number with so many significant binary digits, of two equally near ones the one that
ends in zero; the number is at least one. -/
def toPrecision (bits : Nat) (x : Rat) : Rat :=
  roundHalfEven (x / lastPlace bits x) * lastPlace bits x

end ElementMetadata
