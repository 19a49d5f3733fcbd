import ElementMetadata.Time.Calendar
import ElementMetadata.Time.Distance

/-!
Timestamps. Three forms are read: a date and a time with an offset such as `+01:00` or `Z`; the same with
an offset without a colon; and a plain date, which means its midnight in UTC. A text of no form is
refused for the reason why it is not of the first.
-/
namespace ElementMetadata

structure Timestamp where
  year : Int
  month : Nat
  day : Nat
  hour : Nat := 0
  minute : Nat := 0
  second : Nat := 0
  nanosecond : Nat := 0
  offsetSeconds : Int := 0
deriving DecidableEq

inductive TimePart where
  | year
  | month
  | day
  | separator
  | hour
  | minute
  | second
  | subsecond
  | offsetHour
  | offsetMinute
deriving DecidableEq

def TimePart.name : TimePart → String
  | .year => "year"
  | .month => "month"
  | .day => "day"
  | .separator => "separator"
  | .hour => "hour"
  | .minute => "minute"
  | .second => "second"
  | .subsecond => "subsecond"
  | .offsetHour => "offset hour"
  | .offsetMinute => "offset minute"

inductive TimeFault where
  | unreadable (part : TimePart)
  | wrongMark
  | outOfRange (part : TimePart)
  | trailing
deriving DecidableEq

def TimeFault.message : TimeFault → String
  | .unreadable part => "the '" ++ part.name ++ "' component could not be parsed"
  | .wrongMark => "a character literal was not valid"
  | .outOfRange part => part.name ++ " was not in range"
  | .trailing => "unexpected trailing characters; the end of input was expected"

structure TimestampError where
  raw : String
  fault : TimeFault
deriving DecidableEq

def TimestampError.message (e : TimestampError) : String :=
  "invalid timestamp '" ++ e.raw ++ "': " ++ e.fault.message

namespace Timestamp

def unixSeconds (t : Timestamp) : Int :=
  (daysBefore t.year t.month t.day - epochDay) * 86400 +
    (t.hour * 3600 + t.minute * 60 + t.second : Nat) - t.offsetSeconds

def instant (t : Timestamp) : Int := t.unixSeconds * 1000000000 + t.nanosecond

def durationTo (start stop : Timestamp) : Duration := ⟨stop.instant - start.instant⟩

/-! Reading the first form, byte by byte. -/

def isDigitByte (b : UInt8) : Bool := 48 ≤ b && b ≤ 57

def digitOfByte (b : UInt8) : Nat := b.toNat - 48

def numberOfBytes (value : Nat) (digits : List UInt8) : Nat :=
  digits.foldl (fun n b => n * 10 + digitOfByte b) value

def digits? (count : Nat) (bytes : List UInt8) : Option (Nat × List UInt8) :=
  let digits := bytes.take count
  if digits.length = count ∧ digits.all isDigitByte then
    some (numberOfBytes 0 digits, bytes.drop count)
  else none

def readDigits (count : Nat) (part : TimePart) (bytes : List UInt8) :
    Except TimeFault (Nat × List UInt8) :=
  match digits? count bytes with
  | some read => .ok read
  | none => .error (.unreadable part)

def readMark (mark : UInt8) (bytes : List UInt8) : Except TimeFault (List UInt8) :=
  match bytes with
  | b :: rest => if b = mark then .ok rest else .error .wrongMark
  | [] => .error .wrongMark

def hyphen : UInt8 := 45
def colon : UInt8 := 58

/-- Reads any one byte between the date and the time. -/
def readSeparator (bytes : List UInt8) : Except TimeFault (List UInt8) :=
  match bytes with
  | _ :: rest => .ok rest
  | [] => .error (.unreadable .separator)

/-- Nanoseconds from the digits of a fraction, those beyond the ninth dropped. -/
def nanoseconds (digits : List UInt8) : Nat :=
  let kept := digits.take 9
  numberOfBytes 0 (kept ++ List.replicate (9 - kept.length) 48)

def readFraction (bytes : List UInt8) : Except TimeFault (Nat × List UInt8) :=
  match bytes with
  | 46 :: rest =>
    match rest.takeWhile isDigitByte with
    | [] => .error (.unreadable .subsecond)
    | digits => .ok (nanoseconds digits, rest.dropWhile isDigitByte)
  | bytes => .ok (0, bytes)

/-- Reads an offset: `Z` in either case, or a sign, hours, a colon and minutes. -/
def readOffset (bytes : List UInt8) : Except TimeFault (Int × List UInt8) :=
  match bytes with
  | [] => .error (.unreadable .offsetHour)
  | sign :: rest =>
    if sign = 90 ∨ sign = 122 then .ok (0, rest)
    else if sign = 43 ∨ sign = 45 then do
      let (hours, rest) ← readDigits 2 .offsetHour rest
      if 23 < hours then .error (.unreadable .offsetHour)
      else do
        let rest ← readMark colon rest
        let (minutes, rest) ← readDigits 2 .offsetMinute rest
        if 59 < minutes then .error (.outOfRange .offsetMinute)
        else
          let seconds : Int := (hours * 3600 + minutes * 60 : Nat)
          .ok (if sign = 45 then -seconds else seconds, rest)
    else .error (.unreadable .offsetHour)

def checkDate (year : Int) (month day : Nat) : Except TimeFault Unit :=
  if month < 1 ∨ 12 < month then .error (.outOfRange .month)
  else if day < 1 ∨ daysInMonth year month < day then .error (.outOfRange .day)
  else .ok ()

def endsMonth (t : Timestamp) : Bool :=
  let seconds : Int := (t.hour * 3600 + t.minute * 60 + t.second : Nat) - t.offsetSeconds
  let day : Int := t.day + seconds / 86400
  seconds % 86400 = 86399 && (day = 0 || day = daysInMonth t.year t.month)

/-- A timestamp from its parts. Second 60 is a leap second, which only the end of a month has; it is
read as the last nanosecond before it ends. -/
def ofParts (t : Timestamp) : Except TimeFault Timestamp := do
  checkDate t.year t.month t.day
  if 23 < t.hour then .error (.outOfRange .hour)
  else if 59 < t.minute then .error (.outOfRange .minute)
  else if 60 < t.second then .error (.outOfRange .second)
  else if t.second = 60 then
    let t := { t with second := 59, nanosecond := 999999999 }
    if t.endsMonth then .ok t else .error (.outOfRange .second)
  else .ok t

def ofFullForm (bytes : List UInt8) : Except TimeFault Timestamp := do
  let (year, bytes) ← readDigits 4 .year bytes
  let bytes ← readMark hyphen bytes
  let (month, bytes) ← readDigits 2 .month bytes
  if month = 0 then .error (.unreadable .month)
  else do
    let bytes ← readMark hyphen bytes
    let (day, bytes) ← readDigits 2 .day bytes
    let bytes ← readSeparator bytes
    let (hour, bytes) ← readDigits 2 .hour bytes
    let bytes ← readMark colon bytes
    let (minute, bytes) ← readDigits 2 .minute bytes
    let bytes ← readMark colon bytes
    let (second, bytes) ← readDigits 2 .second bytes
    let (nanosecond, bytes) ← readFraction bytes
    let (offset, bytes) ← readOffset bytes
    if bytes.isEmpty then
      ofParts ⟨year, month, day, hour, minute, second, nanosecond, offset⟩
    else .error .trailing

def withOffsetColon? (bytes : List UInt8) : Option (List UInt8) :=
  match bytes.drop (bytes.length - 5) with
  | [sign, a, b, c, d] =>
    if (sign = 43 ∨ sign = 45) ∧ [a, b, c, d].all isDigitByte then
      some (bytes.take (bytes.length - 5) ++ [sign, a, b, colon, c, d])
    else none
  | _ => none

/-- Reads a plain date, whose year may have a sign. -/
def ofPlainDate? (bytes : List UInt8) : Option Timestamp := do
  let (negative, bytes) := match bytes with
    | 43 :: rest => (false, rest)
    | 45 :: rest => (true, rest)
    | bytes => (false, bytes)
  let (year, bytes) ← digits? 4 bytes
  let bytes ← (readMark hyphen bytes).toOption
  let (month, bytes) ← digits? 2 bytes
  let bytes ← (readMark hyphen bytes).toOption
  let (day, bytes) ← digits? 2 bytes
  let year : Int := if negative then -year else year
  if bytes.isEmpty then
    (checkDate year month day).toOption.map fun _ => { year, month, day }
  else none

def parse (raw : String) : Except TimestampError Timestamp :=
  let bytes := raw.toUTF8.data.toList
  match ofFullForm bytes with
  | .ok t => .ok t
  | .error fault =>
    match (withOffsetColon? bytes).bind fun bytes => (ofFullForm bytes).toOption with
    | some t => .ok t
    | none =>
      match ofPlainDate? bytes with
      | some t => .ok t
      | none => .error ⟨raw, fault⟩

end Timestamp

/-- The text for how long an element ran: from its start to its end, or to now with a suffix if the end
is absent or empty. Without a start there is none. -/
def executionText (start : String) (stop : Option String) (now : Timestamp) (suffix : String) :
    Except TimestampError (Option String) :=
  if start.isEmpty then .ok none
  else do
    let start ← Timestamp.parse start
    match stop.filter (!·.isEmpty) with
    | some stop =>
      let stop ← Timestamp.parse stop
      return some (start.durationTo stop).text
    | none => return some ((start.durationTo now).text ++ suffix)

end ElementMetadata
