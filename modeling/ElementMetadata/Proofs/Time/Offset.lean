import ElementMetadata.Proofs.Time.Instant

/-!
Timestamps at other offsets. The time of day moves by the difference of the offsets and carries over
into the date, which is stepped from day to day over the ends of months and years. This keeps the
instant, and proper timestamps of one instant are the same one at two offsets.
-/
namespace ElementMetadata

theorem isDate_first (year : Int) {month : Nat} (h₁ : 1 ≤ month) (h₂ : month ≤ 12) :
    IsDate year month 1 := by
  have hlength := (daysInMonth_bounds year month).1
  exact ⟨h₁, h₂, le_refl 1, by omega⟩

theorem isDate_last (year : Int) {month : Nat} (h₁ : 1 ≤ month) (h₂ : month ≤ 12) :
    IsDate year month (daysInMonth year month) := by
  have hlength := (daysInMonth_bounds year month).1
  exact ⟨h₁, h₂, by omega, le_refl _⟩

structure CalendarDay where
  year : Int
  month : Nat
  day : Nat
deriving DecidableEq

namespace CalendarDay

def next (d : CalendarDay) : CalendarDay :=
  if d.day < daysInMonth d.year d.month then ⟨d.year, d.month, d.day + 1⟩
  else if d.month < 12 then ⟨d.year, d.month + 1, 1⟩
  else ⟨d.year + 1, 1, 1⟩

def previous (d : CalendarDay) : CalendarDay :=
  if 1 < d.day then ⟨d.year, d.month, d.day - 1⟩
  else if 1 < d.month then ⟨d.year, d.month - 1, daysInMonth d.year (d.month - 1)⟩
  else ⟨d.year - 1, 12, daysInMonth (d.year - 1) 12⟩

def shift : Int → CalendarDay → CalendarDay
  | .ofNat n => next^[n]
  | .negSucc n => previous^[n + 1]

def Valid (d : CalendarDay) : Prop := IsDate d.year d.month d.day

theorem valid_mk {year : Int} {month day : Nat} :
    (CalendarDay.mk year month day).Valid ↔ IsDate year month day := Iff.rfl

theorem valid_next {d : CalendarDay} (h : d.Valid) : d.next.Valid := by
  obtain ⟨h₁, h₂, hday, -⟩ := h
  unfold next
  by_cases hlast : d.day < daysInMonth d.year d.month
  · rw [if_pos hlast, valid_mk]
    exact ⟨h₁, h₂, by omega, hlast⟩
  · rw [if_neg hlast]
    by_cases hdecember : d.month < 12
    · rw [if_pos hdecember, valid_mk]
      exact isDate_first d.year (by omega) hdecember
    · rw [if_neg hdecember, valid_mk]
      exact isDate_first (d.year + 1) (le_refl 1) (by decide)

theorem valid_previous {d : CalendarDay} (h : d.Valid) : d.previous.Valid := by
  obtain ⟨h₁, h₂, hday, hlast⟩ := h
  unfold previous
  by_cases hfirst : 1 < d.day
  · rw [if_pos hfirst, valid_mk]
    exact ⟨h₁, h₂, by omega, by omega⟩
  · rw [if_neg hfirst]
    by_cases hjanuary : 1 < d.month
    · rw [if_pos hjanuary, valid_mk]
      exact isDate_last d.year (by omega) (by omega)
    · rw [if_neg hjanuary, valid_mk]
      exact isDate_last (d.year - 1) (by decide) (le_refl 12)

theorem next_previous {d : CalendarDay} (h : d.Valid) : d.previous.next = d := by
  obtain ⟨year, month, day⟩ := d
  obtain ⟨h₁, h₂, hday, hlast⟩ := h
  simp only at h₁ h₂ hday hlast
  unfold previous
  by_cases hfirst : 1 < day
  · have hsucc : day - 1 + 1 = day := by omega
    rw [if_pos hfirst, next, if_pos (by dsimp only; omega), hsucc]
  · obtain rfl : day = 1 := by omega
    rw [if_neg hfirst]
    by_cases hjanuary : 1 < month
    · have hsucc : month - 1 + 1 = month := by omega
      rw [if_pos hjanuary, next, if_neg (lt_irrefl _), if_pos (by dsimp only; omega), hsucc]
    · obtain rfl : month = 1 := by omega
      rw [if_neg hjanuary, next, if_neg (lt_irrefl _), if_neg (lt_irrefl _), Int.sub_add_cancel]

variable (c : DayCount)

def count (d : CalendarDay) : Int := c.count d.year d.month d.day

theorem count_next {d : CalendarDay} (h : d.Valid) : d.next.count c = d.count c + 1 := by
  obtain ⟨h₁, h₂, hday, hlength⟩ := h
  unfold next count
  by_cases hlast : d.day < daysInMonth d.year d.month
  · rw [if_pos hlast]
    exact c.next_day d.year d.month d.day h₁ h₂ hday hlast
  · have hend : d.day = daysInMonth d.year d.month := by omega
    rw [if_neg hlast, hend]
    by_cases hdecember : d.month < 12
    · rw [if_pos hdecember]
      exact c.next_month d.year d.month h₁ hdecember
    · have hmonth : d.month = 12 := by omega
      rw [if_neg hdecember, hmonth]
      exact c.next_year d.year

theorem count_previous {d : CalendarDay} (h : d.Valid) : d.previous.count c = d.count c + -1 := by
  have hnext := count_next c (valid_previous h)
  rw [next_previous h] at hnext
  omega

theorem iterate_step {step : CalendarDay → CalendarDay} {days : Int}
    (hstep : ∀ d : CalendarDay, d.Valid → (step d).Valid ∧ (step d).count c = d.count c + days)
    (n : Nat) {d : CalendarDay} (h : d.Valid) :
    (step^[n] d).Valid ∧ (step^[n] d).count c = d.count c + n * days := by
  induction n generalizing d with
  | zero => exact ⟨h, by simp⟩
  | succ n ih =>
    obtain ⟨hvalid, hcount⟩ := hstep d h
    rw [Function.iterate_succ_apply]
    refine ⟨(ih hvalid).1, ?_⟩
    rw [(ih hvalid).2, hcount]
    push_cast
    ring

theorem count_shift (n : Int) {d : CalendarDay} (h : d.Valid) :
    (d.shift n).Valid ∧ (d.shift n).count c = d.count c + n := by
  cases n with
  | ofNat n =>
    obtain ⟨hvalid, hcount⟩ := iterate_step c (fun d hd => ⟨valid_next hd, count_next c hd⟩) n h
    rw [mul_one] at hcount
    exact ⟨hvalid, hcount⟩
  | negSucc n =>
    obtain ⟨hvalid, hcount⟩ :=
      iterate_step c (fun d hd => ⟨valid_previous hd, count_previous c hd⟩) (n + 1) h
    refine ⟨hvalid, hcount.trans ?_⟩
    rw [Int.negSucc_eq]
    push_cast
    ring

theorem count_gregorian {d : CalendarDay} (h : d.Valid) :
    monthStart (12 * d.year + (d.month - 1)) + (d.day - 1) = d.count gregorian + epochDay ∧
      d.count gregorian + epochDay < monthStart (12 * d.year + (d.month - 1) + 1) := by
  obtain ⟨h₁, h₂, hday, hlast⟩ := h
  have hcount : d.count gregorian = daysBefore d.year d.month d.day - epochDay := rfl
  have hfirst := daysBefore_add d.year d.month d.day
  rw [monthStart_of_month d.year h₁ h₂, monthStart_next_of_month d.year h₁ h₂]
  omega

theorem eq_of_count_eq {d e : CalendarDay} (hd : d.Valid) (he : e.Valid)
    (h : d.count gregorian = e.count gregorian) : d = e := by
  obtain ⟨hstart, hnext⟩ := count_gregorian hd
  obtain ⟨hstart', hnext'⟩ := count_gregorian he
  obtain ⟨year, month, day⟩ := d
  obtain ⟨year', month', day'⟩ := e
  obtain ⟨h₁, h₂, hday, -⟩ := hd
  obtain ⟨h₁', h₂', hday', -⟩ := he
  dsimp only at *
  -- Each of the two months begins before the other one is over.
  have hle : 12 * year + ((month : Int) - 1) < 12 * year' + ((month' : Int) - 1) + 1 :=
    monthStart_strictMono.lt_iff_lt.mp (by omega)
  have hge : 12 * year' + ((month' : Int) - 1) < 12 * year + ((month : Int) - 1) + 1 :=
    monthStart_strictMono.lt_iff_lt.mp (by omega)
  obtain rfl : year = year' := by omega
  obtain rfl : month = month' := by omega
  obtain rfl : day = day' := by omega
  rfl

end CalendarDay

namespace Timestamp

def calendarDay (t : Timestamp) : CalendarDay := ⟨t.year, t.month, t.day⟩

def clock (t : Timestamp) : Nat := t.hour * 3600 + t.minute * 60 + t.second

/-- The same time as it is shown at an offset. -/
def atOffset (t : Timestamp) (offset : Int) : Timestamp :=
  let seconds : Int := t.clock - t.offsetSeconds + offset
  let day := t.calendarDay.shift (seconds / 86400)
  let clock := (seconds % 86400).toNat
  ⟨day.year, day.month, day.day, clock / 3600, clock / 60 % 60, clock % 60, t.nanosecond, offset⟩

theorem instant_eq_clock (t : Timestamp) : t.instant =
    (t.calendarDay.count gregorian * 86400 + t.clock - t.offsetSeconds) * 1000000000 +
      t.nanosecond := rfl

theorem Proper.valid {t : Timestamp} (h : t.Proper) : t.calendarDay.Valid := h.date

theorem Proper.clock_lt {t : Timestamp} (h : t.Proper) : t.clock < 86400 := by
  obtain ⟨-, hhour, hminute, hsecond, -⟩ := h
  rw [clock]
  omega

theorem calendarDay_atOffset (t : Timestamp) (offset : Int) : (t.atOffset offset).calendarDay =
    t.calendarDay.shift ((t.clock - t.offsetSeconds + offset) / 86400) := rfl

theorem clock_atOffset (t : Timestamp) (offset : Int) :
    ((t.atOffset offset).clock : Int) = (t.clock - t.offsetSeconds + offset) % 86400 := by
  have hpositive : 0 ≤ ((t.clock : Int) - t.offsetSeconds + offset) % 86400 :=
    Int.emod_nonneg _ (by decide)
  simp only [atOffset, clock] at hpositive ⊢
  omega

theorem proper_atOffset {t : Timestamp} (h : t.Proper) (offset : Int) :
    (t.atOffset offset).Proper := by
  have hclock : (((t.clock : Int) - t.offsetSeconds + offset) % 86400).toNat < 86400 := by
    have hlt := Int.emod_lt_of_pos ((t.clock : Int) - t.offsetSeconds + offset)
      (by decide : (0 : Int) < 86400)
    omega
  have hday : (t.atOffset offset).calendarDay.Valid := (CalendarDay.count_shift gregorian _ h.valid).1
  refine ⟨hday, ?_, ?_, ?_, h.nanosecond⟩
  · simp only [atOffset]
    omega
  · simp only [atOffset]
    omega
  · simp only [atOffset]
    omega

theorem instant_atOffset {t : Timestamp} (h : t.Proper) (offset : Int) :
    (t.atOffset offset).instant = t.instant := by
  have hday := (CalendarDay.count_shift gregorian ((t.clock - t.offsetSeconds + offset) / 86400)
    h.valid).2
  have hsplit := Int.emod_add_mul_ediv ((t.clock : Int) - t.offsetSeconds + offset) 86400
  have hoffset : (t.atOffset offset).offsetSeconds = offset := rfl
  have hnanosecond : (t.atOffset offset).nanosecond = t.nanosecond := rfl
  rw [instant_eq_clock, instant_eq_clock, calendarDay_atOffset, clock_atOffset, hday, hoffset,
    hnanosecond]
  linear_combination 1000000000 * hsplit

theorem eq_of_instant_eq {t u : Timestamp} (ht : t.Proper) (hu : u.Proper)
    (hoffset : t.offsetSeconds = u.offsetSeconds) (h : t.instant = u.instant) : t = u := by
  have hclock := ht.clock_lt
  have hclock' := hu.clock_lt
  have hnano := ht.nanosecond
  have hnano' := hu.nanosecond
  rw [instant_eq_clock, instant_eq_clock, hoffset] at h
  have hcount : t.calendarDay.count gregorian = u.calendarDay.count gregorian := by omega
  have hday : t.calendarDay = u.calendarDay := CalendarDay.eq_of_count_eq ht.valid hu.valid hcount
  have hsame : t.clock = u.clock ∧ t.nanosecond = u.nanosecond := by omega
  obtain ⟨-, hhour, hminute, hsecond, -⟩ := ht
  obtain ⟨-, hhour', hminute', hsecond', -⟩ := hu
  cases t
  cases u
  simp only [calendarDay, CalendarDay.mk.injEq, clock] at *
  obtain ⟨rfl, rfl, rfl⟩ := hday
  simp only [mk.injEq, true_and]
  omega

theorem instant_eq_iff {t u : Timestamp} (ht : t.Proper) (hu : u.Proper) :
    t.instant = u.instant ↔ u = t.atOffset u.offsetSeconds := by
  have hinstant := instant_atOffset ht u.offsetSeconds
  constructor
  · intro h
    exact eq_of_instant_eq hu (proper_atOffset ht _) rfl (h.symm.trans hinstant.symm)
  · intro h
    rw [← hinstant, ← h]

end Timestamp
end ElementMetadata
