import ElementMetadata.Proofs.Time.Calendar
import ElementMetadata.Proofs.Time.Decimal

/-!
How timestamps are spelled, and what their spellings denote. The three spellings are those of a date
and a time with an offset, of the same with an offset without a colon, and of a plain date. No
bytes are spelled in two ways.
-/
namespace ElementMetadata.Timestamp

inductive NumberSign where
  | plus
  | minus
deriving DecidableEq

namespace NumberSign

def byte : NumberSign → UInt8
  | .plus => 43
  | .minus => 45

def apply : NumberSign → Nat → Int
  | .plus, n => n
  | .minus, n => -n

end NumberSign

/-- An offset from UTC as it is written: the letter for UTC itself, or a sign, hours and minutes. -/
inductive Zone where
  | letter (small : Bool)
  | offset (sign : NumberSign) (hours minutes : Nat)
deriving DecidableEq

namespace Zone

def bytes : Zone → List UInt8
  | .letter small => [if small then 122 else 90]
  | .offset sign hours minutes => sign.byte :: (decimal 2 hours ++ colon :: decimal 2 minutes)

/-- The sign is that of the hours and of the minutes. -/
def seconds : Zone → Int
  | .letter _ => 0
  | .offset sign hours minutes => sign.apply (hours * 3600) + sign.apply (minutes * 60)

def Fits : Zone → Prop
  | .letter _ => True
  | .offset _ hours minutes => hours < 100 ∧ minutes < 100

def Valid : Zone → Prop
  | .letter _ => True
  | .offset _ hours minutes => hours ≤ 23 ∧ minutes ≤ 59

end Zone

/-- A date and a time of day as they are written. Without digits there is no fraction. -/
structure Moment where
  year : Nat
  month : Nat
  day : Nat
  separator : UInt8
  hour : Nat
  minute : Nat
  second : Nat
  fraction : List (Fin 10)
deriving DecidableEq

def IsLastOfMonth (second : Int) : Prop :=
  ∃ (year : Int) (month : Nat), 1 ≤ month ∧ month ≤ 12 ∧
    second + 1 = (Timestamp.mk year month 1 0 0 0 0 0).unixSeconds

namespace Moment

def bytes (m : Moment) : List UInt8 :=
  decimal 4 m.year ++ hyphen :: (decimal 2 m.month ++ hyphen :: (decimal 2 m.day ++ m.separator ::
    (decimal 2 m.hour ++ colon :: (decimal 2 m.minute ++ colon :: (decimal 2 m.second ++
      fractionBytes m.fraction)))))

def Fits (m : Moment) : Prop :=
  m.year < 10000 ∧ m.month < 100 ∧ m.day < 100 ∧ m.hour < 100 ∧ m.minute < 100 ∧ m.second < 100

/-- Second 60 is the last nanosecond of the second before it. -/
def timestamp (m : Moment) (offsetSeconds : Int) : Timestamp :=
  if m.second = 60 then
    ⟨m.year, m.month, m.day, m.hour, m.minute, 59, 999999999, offsetSeconds⟩
  else
    ⟨m.year, m.month, m.day, m.hour, m.minute, m.second, fractionNanoseconds m.fraction,
      offsetSeconds⟩

/-- There is such a date and time; a second 60 ends a month in UTC. -/
def Valid (m : Moment) (offsetSeconds : Int) : Prop :=
  IsDate m.year m.month m.day ∧ m.hour ≤ 23 ∧ m.minute ≤ 59 ∧
    (m.second ≤ 59 ∨ m.second = 60 ∧ IsLastOfMonth (m.timestamp offsetSeconds).unixSeconds)

end Moment

inductive Spelling where
  | full (moment : Moment) (zone : Zone)
  | compact (moment : Moment) (sign : NumberSign) (hours minutes : Nat)
  | plain (sign : Option NumberSign) (year month day : Nat)

def compactOffset (sign : NumberSign) (hours minutes : Nat) : List UInt8 :=
  sign.byte :: (decimal 2 hours ++ decimal 2 minutes)

namespace Spelling

def bytes : Spelling → List UInt8
  | .full moment zone => moment.bytes ++ zone.bytes
  | .compact moment sign hours minutes => moment.bytes ++ compactOffset sign hours minutes
  | .plain sign year month day =>
    sign.toList.map NumberSign.byte ++
      (decimal 4 year ++ hyphen :: (decimal 2 month ++ hyphen :: decimal 2 day))

def Fits : Spelling → Prop
  | .full moment zone => moment.Fits ∧ zone.Fits
  | .compact moment _ hours minutes => moment.Fits ∧ hours < 100 ∧ minutes < 100
  | .plain _ year month day => year < 10000 ∧ month < 100 ∧ day < 100

/-- What is spelled; a plain date is its midnight in UTC. -/
def timestamp : Spelling → Timestamp
  | .full moment zone => moment.timestamp zone.seconds
  | .compact moment sign hours minutes =>
    moment.timestamp (Zone.offset sign hours minutes).seconds
  | .plain sign year month day => ⟨(sign.getD .plus).apply year, month, day, 0, 0, 0, 0, 0⟩

def Valid : Spelling → Prop
  | .full moment zone => moment.Valid zone.seconds ∧ zone.Valid
  | .compact moment sign hours minutes =>
    moment.Valid (Zone.offset sign hours minutes).seconds ∧ hours ≤ 23 ∧ minutes ≤ 59
  | .plain sign year month day => IsDate ((sign.getD .plus).apply year) month day

end Spelling

theorem endsFraction_byte (sign : NumberSign) (rest : List UInt8) :
    EndsFraction (sign.byte :: rest) := by
  rintro b ⟨⟩
  cases sign <;> decide

theorem endsFraction_zone (zone : Zone) : EndsFraction zone.bytes := by
  cases zone with
  | letter small =>
    rintro b ⟨⟩
    cases small <;> decide
  | offset sign hours minutes => exact endsFraction_byte sign _

theorem NumberSign.exists_byte {b : UInt8} (h : b = 43 ∨ b = 45) : ∃ sign, NumberSign.byte sign = b := by
  obtain rfl | rfl := h
  · exact ⟨.plus, rfl⟩
  · exact ⟨.minus, rfl⟩

theorem byte_injective : Function.Injective NumberSign.byte := by
  intro s t h
  cases s <;> cases t <;> first | rfl | cases h

namespace Moment

theorem bytes_append_inj {m n : Moment} (hm : m.Fits) (hn : n.Fits) {rest more : List UInt8}
    (hrest : EndsFraction rest) (hmore : EndsFraction more)
    (h : m.bytes ++ rest = n.bytes ++ more) : m = n ∧ rest = more := by
  obtain ⟨hm₁, hm₂, hm₃, hm₄, hm₅, hm₆⟩ := hm
  obtain ⟨hn₁, hn₂, hn₃, hn₄, hn₅, hn₆⟩ := hn
  simp only [bytes, List.append_assoc, List.cons_append] at h
  obtain ⟨hyear, h⟩ := decimal_append_inj hm₁ hn₁ h
  obtain ⟨hmonth, h⟩ := decimal_append_inj hm₂ hn₂ (List.cons.inj h).2
  obtain ⟨hday, h⟩ := decimal_append_inj hm₃ hn₃ (List.cons.inj h).2
  obtain ⟨hseparator, h⟩ := List.cons.inj h
  obtain ⟨hhour, h⟩ := decimal_append_inj hm₄ hn₄ h
  obtain ⟨hminute, h⟩ := decimal_append_inj hm₅ hn₅ (List.cons.inj h).2
  obtain ⟨hsecond, h⟩ := decimal_append_inj hm₆ hn₆ (List.cons.inj h).2
  obtain ⟨hfraction, h⟩ := fractionBytes_append_inj hrest hmore h
  cases m
  cases n
  simp_all

theorem length_bytes (m : Moment) : 19 ≤ m.bytes.length := by
  simp only [bytes, List.length_append, List.length_cons, length_decimal]
  omega

end Moment

theorem Zone.Valid.fits {zone : Zone} (h : zone.Valid) : zone.Fits := by
  cases zone with
  | letter => trivial
  | offset sign hours minutes =>
    obtain ⟨hhours, hminutes⟩ := h
    exact ⟨by omega, by omega⟩

theorem Zone.seconds_bounds {zone : Zone} (h : zone.Valid) :
    -86340 ≤ zone.seconds ∧ zone.seconds ≤ 86340 := by
  cases zone with
  | letter small => exact ⟨by simp [seconds], by simp [seconds]⟩
  | offset sign hours minutes =>
    obtain ⟨hhours, hminutes⟩ := h
    cases sign <;> simp only [seconds, NumberSign.apply] <;> omega

theorem Zone.bytes_inj {z w : Zone} (hz : z.Fits) (hw : w.Fits) (h : z.bytes = w.bytes) : z = w := by
  have hlength := congrArg List.length h
  cases z with
  | letter small =>
    cases w with
    | letter other => cases small <;> cases other <;> first | rfl | cases h
    | offset => simp [bytes, length_decimal] at hlength
  | offset sign hours minutes =>
    cases w with
    | letter => simp [bytes, length_decimal] at hlength
    | offset other moreHours moreMinutes =>
      obtain ⟨hsign, h⟩ := List.cons.inj h
      obtain ⟨hhours, h⟩ := decimal_append_inj hz.1 hw.1 h
      have hminutes := decimal_two_inj hz.2 hw.2 (List.cons.inj h).2
      rw [byte_injective hsign, hhours, hminutes]

theorem Zone.append_offset_inj {head more : List UInt8} {sign : NumberSign} {hours minutes : Nat}
    {zone : Zone} (hoffset : (Zone.offset sign hours minutes).Fits) (hzone : zone.Fits)
    (h : head ++ (Zone.offset sign hours minutes).bytes = more ++ zone.bytes) :
    head = more ∧ Zone.offset sign hours minutes = zone := by
  cases zone with
  | offset other moreHours moreMinutes =>
    have hlength : (Zone.offset sign hours minutes).bytes.length =
        (Zone.offset other moreHours moreMinutes).bytes.length := by simp [bytes, length_decimal]
    obtain ⟨hhead, hbytes⟩ := List.append_inj' h hlength
    exact ⟨hhead, bytes_inj hoffset hzone hbytes⟩
  | letter small =>
    -- The last byte is a digit on the left and a letter on the right.
    have hlast : digitByte (Fin.ofNat 10 minutes) = if small then 122 else 90 := by
      simpa [bytes, decimal] using congrArg List.getLast? h
    have hdigit := isDigitByte_digitByte (Fin.ofNat 10 minutes)
    rw [hlast] at hdigit
    cases small <;> cases hdigit

theorem compactOffset_inj {sign other : NumberSign} {hours moreHours minutes moreMinutes : Nat}
    (hh : hours < 100) (hh' : moreHours < 100) (hm : minutes < 100) (hm' : moreMinutes < 100)
    (h : compactOffset sign hours minutes = compactOffset other moreHours moreMinutes) :
    sign = other ∧ hours = moreHours ∧ minutes = moreMinutes := by
  obtain ⟨hsign, h⟩ := List.cons.inj h
  obtain ⟨hhours, h⟩ := decimal_append_inj hh hh' h
  exact ⟨byte_injective hsign, hhours, decimal_two_inj hm hm' h⟩

theorem length_compactOffset (sign : NumberSign) (hours minutes : Nat) :
    (compactOffset sign hours minutes).length = 5 := by
  simp [compactOffset, length_decimal]

theorem Zone.length_bytes_ne (zone : Zone) : zone.bytes.length ≠ 5 := by
  cases zone <;> simp [bytes, length_decimal]

namespace Spelling

theorem full_ne_compact {m n : Moment} {zone : Zone} {sign : NumberSign} {hours minutes : Nat}
    (hm : m.Fits) (hn : n.Fits) :
    (full m zone).bytes ≠ (compact n sign hours minutes).bytes := by
  intro h
  have hoffset := (Moment.bytes_append_inj hm hn (endsFraction_zone zone)
    (endsFraction_byte sign _) h).2
  have hlength := congrArg List.length hoffset
  exact zone.length_bytes_ne (hlength.trans (length_compactOffset sign hours minutes))

theorem length_plain (sign : Option NumberSign) (year month day : Nat) :
    (plain sign year month day).bytes.length = 10 + sign.toList.length := by
  simp only [bytes, List.length_append, List.length_map, List.length_cons, length_decimal]
  omega

theorem moment_append_ne_plain (m : Moment) (rest : List UInt8) (sign : Option NumberSign)
    (year month day : Nat) : m.bytes ++ rest ≠ (plain sign year month day).bytes := by
  intro h
  have hlength := congrArg List.length h
  have hmoment := m.length_bytes
  rw [length_plain, List.length_append] at hlength
  cases sign <;> simp only [Option.toList, List.length_nil, List.length_singleton] at hlength <;>
    omega

/-- A spelling can be told from its bytes: it is of one form only, and with one value of each part. -/
theorem bytes_inj {s u : Spelling} (hs : s.Fits) (hu : u.Fits) (h : s.bytes = u.bytes) : s = u := by
  cases s with
  | full m zone =>
    cases u with
    | full n other =>
      obtain ⟨hmoment, hzone⟩ := Moment.bytes_append_inj hs.1 hu.1 (endsFraction_zone zone)
        (endsFraction_zone other) h
      rw [hmoment, Zone.bytes_inj hs.2 hu.2 hzone]
    | compact n => exact absurd h (full_ne_compact hs.1 hu.1)
    | plain sign year month day => exact absurd h (moment_append_ne_plain m _ sign year month day)
  | compact m sign hours minutes =>
    cases u with
    | full n => exact absurd h.symm (full_ne_compact hu.1 hs.1)
    | compact n other moreHours moreMinutes =>
      obtain ⟨hmoment, hoffset⟩ := Moment.bytes_append_inj hs.1 hu.1 (endsFraction_byte sign _)
        (endsFraction_byte other _) h
      obtain ⟨hsign, hhours, hminutes⟩ :=
        compactOffset_inj hs.2.1 hu.2.1 hs.2.2 hu.2.2 hoffset
      rw [hmoment, hsign, hhours, hminutes]
    | plain sign year month day => exact absurd h (moment_append_ne_plain m _ sign year month day)
  | plain sign year month day =>
    cases u with
    | full n => exact absurd h.symm (moment_append_ne_plain n _ sign year month day)
    | compact n => exact absurd h.symm (moment_append_ne_plain n _ sign year month day)
    | plain other moreYear moreMonth moreDay =>
      have hlength := congrArg List.length h
      rw [length_plain, length_plain] at hlength
      obtain ⟨hsign, h⟩ := List.append_inj h (by simpa using hlength)
      obtain ⟨hyear, h⟩ := decimal_append_inj hs.1 hu.1 h
      obtain ⟨hmonth, h⟩ := decimal_append_inj hs.2.1 hu.2.1 (List.cons.inj h).2
      have hday := decimal_two_inj hs.2.2 hu.2.2 (List.cons.inj h).2
      have hsame : sign = other := by
        have hlist := List.map_injective_iff.2 byte_injective hsign
        cases sign <;> cases other <;> simp_all
      rw [hsame, hyear, hmonth, hday]

end Spelling
end ElementMetadata.Timestamp
