/-!
The Gregorian calendar, carried on into the past.
-/
namespace ElementMetadata

def isLeapYear (year : Int) : Bool :=
  year % 4 = 0 && (year % 100 ≠ 0 || year % 400 = 0)

def daysInMonth (year : Int) (month : Nat) : Nat :=
  match month with
  | 2 => if isLeapYear year then 29 else 28
  | 4 | 6 | 9 | 11 => 30
  | _ => 31

def daysBeforeMonth (year : Int) : Nat → Nat
  | 0 | 1 => 0
  | month + 1 => daysBeforeMonth year month + daysInMonth year month

/-- The days from the first of January of the year one to a date. -/
def daysBefore (year : Int) (month day : Nat) : Int :=
  let past := year - 1
  past * 365 + past / 4 - past / 100 + past / 400 + daysBeforeMonth year month + day - 1

def epochDay : Int := 719162

end ElementMetadata
