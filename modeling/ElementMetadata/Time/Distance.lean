import ElementMetadata.Time.Precision

/-!
The text for a stretch of time: a whole number of its largest unit, months of 30 days and years of 365
days among them. It is worked out with 53 significant binary digits, each quotient rounded by itself.
-/
namespace ElementMetadata

/-- A stretch of time in nanoseconds, negative if it runs backwards. -/
structure Duration where
  nanoseconds : Int
deriving DecidableEq

inductive TimeUnit where
  | second
  | minute
  | hour
  | day
  | month
  | year
deriving DecidableEq

def TimeUnit.name : TimeUnit → String
  | .second => "second"
  | .minute => "minute"
  | .hour => "hour"
  | .day => "day"
  | .month => "month"
  | .year => "year"

namespace Duration

def wholeMilliseconds (d : Duration) : Nat := d.nanoseconds.natAbs / 1000000

def quotient (x : Rat) (divisor : Nat) : Rat := toPrecision 53 (x / divisor)

/-- The largest unit that so many milliseconds, at least a thousand, reach, and how many of them. -/
def inLargestUnit (milliseconds : Nat) : Rat × TimeUnit :=
  let seconds := quotient (toPrecision 53 milliseconds) 1000
  if seconds < 60 then (seconds, .second)
  else
    let minutes := quotient seconds 60
    if minutes < 60 then (minutes, .minute)
    else if minutes < 1440 then (quotient minutes 60, .hour)
    else if minutes < 43200 then (quotient minutes 1440, .day)
    else if minutes < 525600 then (quotient minutes 43200, .month)
    else (quotient minutes 525600, .year)

def countText (count : Nat) (unit : TimeUnit) : String :=
  toString count ++ " " ++ unit.name ++ if count = 1 then "" else "s"

def text (d : Duration) : String :=
  if d.wholeMilliseconds < 1000 then "Less than 1 second"
  else
    let (value, unit) := inLargestUnit d.wholeMilliseconds
    countText (roundHalfUp value).toNat unit

end Duration
end ElementMetadata
