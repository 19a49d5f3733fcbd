import ElementMetadata.Time.Calendar
import Mathlib

/-!
Days counted on the calendar. Counting one by one, from day to day and over the ends of months and
years, gives `daysBefore`; and since months are never empty, a date is the first of a month exactly
if it is no day before or as many days before as that month is long.
-/
namespace ElementMetadata

def IsDate (year : Int) (month day : Nat) : Prop :=
  1 ≤ month ∧ month ≤ 12 ∧ 1 ≤ day ∧ day ≤ daysInMonth year month

/-- Days counted one by one, from the first of January 1970 on and back. -/
structure DayCount where
  count : Int → Nat → Nat → Int
  epoch : count 1970 1 1 = 0
  next_day (year : Int) (month day : Nat) : 1 ≤ month → month ≤ 12 → 1 ≤ day →
    day < daysInMonth year month → count year month (day + 1) = count year month day + 1
  next_month (year : Int) (month : Nat) : 1 ≤ month → month < 12 →
    count year (month + 1) 1 = count year month (daysInMonth year month) + 1
  next_year (year : Int) : count (year + 1) 1 1 = count year 12 (daysInMonth year 12) + 1

theorem daysInMonth_bounds (year : Int) (month : Nat) :
    28 ≤ daysInMonth year month ∧ daysInMonth year month ≤ 31 := by
  unfold daysInMonth
  split
  · split <;> omega
  · omega
  · omega
  · omega
  · omega
  · omega

theorem daysBeforeMonth_succ (year : Int) {month : Nat} (h : 1 ≤ month) :
    daysBeforeMonth year (month + 1) = daysBeforeMonth year month + daysInMonth year month := by
  cases month with
  | zero => omega
  | succ month => rfl

theorem daysBeforeMonth_december (year : Int) :
    daysBeforeMonth year 12 = if isLeapYear year then 335 else 334 := by
  simp only [daysBeforeMonth, daysInMonth]
  split <;> rfl

theorem daysBefore_add (year : Int) (month : Nat) (day : Nat) :
    daysBefore year month day = daysBefore year month 1 + (day - 1) := by
  simp only [daysBefore]
  omega

theorem daysBefore_next_month (year : Int) {month : Nat} (h : 1 ≤ month) :
    daysBefore year (month + 1) 1 = daysBefore year month 1 + daysInMonth year month := by
  simp only [daysBefore, daysBeforeMonth_succ year h]
  omega

theorem daysBefore_next_year (year : Int) :
    daysBefore (year + 1) 1 1 = daysBefore year 12 1 + daysInMonth year 12 := by
  have hdecember := daysBeforeMonth_december year
  have hlength : daysInMonth year 12 = 31 := rfl
  have hjanuary : daysBeforeMonth (year + 1) 1 = 0 := rfl
  simp only [daysBefore, hdecember, hlength, hjanuary]
  -- A year is longer by one day exactly where the count of leap years before it steps up.
  cases hleap : isLeapYear year <;> simp only [isLeapYear, Bool.and_eq_true, Bool.or_eq_true,
    Bool.and_eq_false_iff, Bool.or_eq_false_iff, decide_eq_true_eq, decide_eq_false_iff_not,
    ne_eq] at hleap <;> simp only [if_true, if_false, Bool.false_eq_true] <;> omega

def gregorian : DayCount where
  count year month day := daysBefore year month day - epochDay
  epoch := by decide
  next_day year month day _ _ _ _ := by
    rw [daysBefore_add year month (day + 1), daysBefore_add year month day]
    omega
  next_month year month h _ := by
    rw [daysBefore_next_month year h, daysBefore_add year month (daysInMonth year month)]
    omega
  next_year year := by
    rw [daysBefore_next_year year, daysBefore_add year 12 (daysInMonth year 12)]
    omega

namespace DayCount
variable (c d : DayCount)

def Alike (year : Int) (month day : Nat) : Prop := c.count year month day = d.count year month day

variable {c d}

theorem alike_day {year : Int} {month day : Nat} (h : IsDate year month day) :
    Alike c d year month day ↔ Alike c d year month 1 := by
  obtain ⟨h₁, h₂, hday, hlast⟩ := h
  induction day, hday using Nat.le_induction with
  | base => rfl
  | succ day hday ih =>
    have hbefore : day < daysInMonth year month := by omega
    rw [← ih (by omega), Alike, Alike, c.next_day year month day h₁ h₂ hday hbefore,
      d.next_day year month day h₁ h₂ hday hbefore]
    omega

theorem alike_last {year : Int} {month : Nat} (h₁ : 1 ≤ month) (h₂ : month ≤ 12) :
    Alike c d year month (daysInMonth year month) ↔ Alike c d year month 1 := by
  have hlength := (daysInMonth_bounds year month).1
  exact alike_day ⟨h₁, h₂, by omega, le_refl _⟩

theorem alike_month {year : Int} {month : Nat} (h₁ : 1 ≤ month) (h₂ : month ≤ 12) :
    Alike c d year month 1 ↔ Alike c d year 1 1 := by
  induction month, h₁ using Nat.le_induction with
  | base => rfl
  | succ month h₁ ih =>
    rw [← ih (by omega), ← alike_last h₁ (by omega), Alike, Alike,
      c.next_month year month h₁ (by omega), d.next_month year month h₁ (by omega)]
    omega

theorem alike_next_year (year : Int) : Alike c d (year + 1) 1 1 ↔ Alike c d year 1 1 := by
  have hdecember : Alike c d year 12 1 ↔ Alike c d year 1 1 := alike_month (by omega) (le_refl 12)
  have hlast : Alike c d year 12 (daysInMonth year 12) ↔ Alike c d year 12 1 :=
    alike_last (by omega) (le_refl 12)
  rw [← hdecember, ← hlast, Alike, Alike, c.next_year year, d.next_year year]
  omega

theorem alike_year (year : Int) : Alike c d year 1 1 := by
  induction year using Int.inductionOn' with
  | b => exact 1970
  | zero => exact c.epoch.trans d.epoch.symm
  | succ year _ ih => exact (alike_next_year year).2 ih
  | pred year _ ih =>
    have h : Alike c d (year - 1 + 1) 1 1 ↔ Alike c d (year - 1) 1 1 := alike_next_year (year - 1)
    rw [Int.sub_add_cancel] at h
    exact h.1 ih

/-- Counting leaves no choice. -/
theorem count_eq (c d : DayCount) {year : Int} {month day : Nat} (h : IsDate year month day) :
    c.count year month day = d.count year month day :=
  (alike_day h).2 ((alike_month h.1 h.2.1).2 (alike_year year))

end DayCount

/-- The first day of a month, the months numbered on from January of the year zero. -/
def monthStart (index : Int) : Int := daysBefore (index / 12) ((index % 12).toNat + 1) 1

theorem monthStart_of_month (year : Int) {month : Nat} (h₁ : 1 ≤ month) (h₂ : month ≤ 12) :
    monthStart (12 * year + (month - 1)) = daysBefore year month 1 := by
  have hyear : (12 * year + ((month : Int) - 1)) / 12 = year := by omega
  have hmonth : ((12 * year + ((month : Int) - 1)) % 12).toNat + 1 = month := by omega
  rw [monthStart, hyear, hmonth]

theorem monthStart_succ (index : Int) : monthStart (index + 1) =
    monthStart index + daysInMonth (index / 12) ((index % 12).toNat + 1) := by
  by_cases hlast : index % 12 = 11
  · have hyear : (index + 1) / 12 = index / 12 + 1 := by omega
    have hmonth : (index + 1) % 12 = 0 := by omega
    rw [monthStart, monthStart, hyear, hmonth, hlast]
    exact daysBefore_next_year (index / 12)
  · have hyear : (index + 1) / 12 = index / 12 := by omega
    have hmonth : ((index + 1) % 12).toNat = (index % 12).toNat + 1 := by omega
    rw [monthStart, monthStart, hyear, hmonth]
    exact daysBefore_next_month (index / 12) (by omega)

theorem monthStart_next_of_month (year : Int) {month : Nat} (h₁ : 1 ≤ month) (h₂ : month ≤ 12) :
    monthStart (12 * year + (month - 1) + 1) = daysBefore year month 1 + daysInMonth year month := by
  have hyear : (12 * year + ((month : Int) - 1)) / 12 = year := by omega
  have hmonth : ((12 * year + ((month : Int) - 1)) % 12).toNat + 1 = month := by omega
  rw [monthStart_succ, monthStart_of_month year h₁ h₂, hyear, hmonth]

theorem monthStart_strictMono : StrictMono monthStart := by
  apply strictMono_int_of_lt_succ
  intro index
  have hlength := (daysInMonth_bounds (index / 12) ((index % 12).toNat + 1)).1
  rw [monthStart_succ]
  omega

def IsMonthStart (day : Int) : Prop :=
  ∃ year month, 1 ≤ month ∧ month ≤ 12 ∧ day = daysBefore year month 1

theorem isMonthStart_iff {day : Int} : IsMonthStart day ↔ ∃ index, day = monthStart index := by
  constructor
  · rintro ⟨year, month, h₁, h₂, rfl⟩
    exact ⟨_, (monthStart_of_month year h₁ h₂).symm⟩
  · rintro ⟨index, rfl⟩
    exact ⟨index / 12, (index % 12).toNat + 1, by omega, by omega, rfl⟩

/-- Of the days from the first of a month to the second of the next one, these two firsts alone
begin a month. -/
theorem isMonthStart_add_iff {year : Int} {month : Nat} (h₁ : 1 ≤ month) (h₂ : month ≤ 12)
    {n : Int} (hn : 0 ≤ n) (hlast : n ≤ daysInMonth year month + 1) :
    IsMonthStart (daysBefore year month 1 + n) ↔ n = 0 ∨ n = daysInMonth year month := by
  obtain ⟨index, hstart, hnext⟩ : ∃ index, monthStart index = daysBefore year month 1 ∧
      monthStart (index + 1) = daysBefore year month 1 + daysInMonth year month :=
    ⟨_, monthStart_of_month year h₁ h₂, monthStart_next_of_month year h₁ h₂⟩
  have hover : monthStart (index + 1) + 28 ≤ monthStart (index + 2) := by
    have hlength := (daysInMonth_bounds ((index + 1) / 12) (((index + 1) % 12).toNat + 1)).1
    have hsucc := monthStart_succ (index + 1)
    rw [show index + 1 + 1 = index + 2 by omega] at hsucc
    omega
  rw [isMonthStart_iff]
  constructor
  · rintro ⟨other, hother⟩
    have hle : index ≤ other := monthStart_strictMono.le_iff_le.1 (by omega)
    have hlt : other < index + 2 := monthStart_strictMono.lt_iff_lt.1 (by omega)
    obtain rfl | rfl : other = index ∨ other = index + 1 := by omega
    · left
      omega
    · right
      omega
  · rintro (rfl | rfl)
    · exact ⟨index, by omega⟩
    · exact ⟨index + 1, hnext.symm⟩

end ElementMetadata
