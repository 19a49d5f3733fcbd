import ElementMetadata.Proofs.Time.Timestamp

/-!
Which timestamps are read, as dates and times of day: all are proper, none is far from the others, and
the instants of proper ones are days counted on the calendar.
-/
namespace ElementMetadata

/-- The nanoseconds since 1970 began in UTC, the days counted one by one. -/
def DayCount.instant (c : DayCount) (t : Timestamp) : Int :=
  (c.count t.year t.month t.day * 86400 + t.hour * 3600 + t.minute * 60 + t.second -
    t.offsetSeconds) * 1000000000 + t.nanosecond

namespace Timestamp

structure Proper (t : Timestamp) : Prop where
  date : IsDate t.year t.month t.day
  hour : t.hour ≤ 23
  minute : t.minute ≤ 59
  second : t.second ≤ 59
  nanosecond : t.nanosecond < 1000000000

theorem Proper.instant_eq {t : Timestamp} (h : t.Proper) (c : DayCount) : c.instant t = t.instant :=
  (Timestamp.instant_eq c h.date).symm

theorem parse_eq_ok_iff {raw : String} {t : Timestamp} : parse raw = .ok t ↔
    ∃ s : Spelling, s.Fits ∧ s.bytes = raw.toUTF8.data.toList ∧ s.Valid ∧ s.timestamp = t := by
  rw [← toOption_eq_some_iff, toOption_parse, findSome?_attempts_iff (List.Perm.refl attempts)]

theorem fractionNanoseconds_lt (digits : List (Fin 10)) :
    fractionNanoseconds digits < 1000000000 := by
  have hvalue := valueOf_lt digits
  rw [fractionNanoseconds, Nat.div_lt_iff_lt_mul (Nat.pow_pos (by decide)), Nat.mul_comm]
  exact Nat.mul_lt_mul_of_pos_left hvalue (by decide)

theorem Moment.Valid.proper {m : Moment} {offset : Int} (h : m.Valid offset) :
    (m.timestamp offset).Proper := by
  obtain ⟨hdate, hhour, hminute, hsecond⟩ := h
  unfold Moment.timestamp
  split
  · exact ⟨hdate, hhour, hminute, le_refl 59, Nat.lt_succ_self 999999999⟩
  · next hleap =>
    have hclock : m.second ≤ 59 := hsecond.resolve_right fun h => hleap h.1
    exact ⟨hdate, hhour, hminute, hclock, fractionNanoseconds_lt m.fraction⟩

theorem Spelling.Valid.proper {s : Spelling} (h : s.Valid) : s.timestamp.Proper := by
  cases s with
  | full m zone => exact h.1.proper
  | compact m sign hours minutes => exact h.1.proper
  | plain sign year month day => exact ⟨h, Nat.zero_le 23, Nat.zero_le 59, Nat.zero_le 59, Nat.zero_lt_succ 999999999⟩

theorem Moment.timestamp_eq (m : Moment) (offset : Int) :
    (m.timestamp offset).year = m.year ∧ (m.timestamp offset).offsetSeconds = offset := by
  unfold Moment.timestamp
  split <;> exact ⟨rfl, rfl⟩

theorem Spelling.timestamp_bounds {s : Spelling} (hs : s.Fits) (h : s.Valid) :
    (-9999 ≤ s.timestamp.year ∧ s.timestamp.year ≤ 9999) ∧
      -86340 ≤ s.timestamp.offsetSeconds ∧ s.timestamp.offsetSeconds ≤ 86340 := by
  cases s with
  | full m zone =>
    obtain ⟨hyear, hoffset⟩ := m.timestamp_eq zone.seconds
    have hdigits := hs.1.1
    have hzone := Zone.seconds_bounds h.2
    simp only [Spelling.timestamp, hyear, hoffset]
    omega
  | compact m sign hours minutes =>
    obtain ⟨hyear, hoffset⟩ := m.timestamp_eq (Zone.offset sign hours minutes).seconds
    have hdigits := hs.1.1
    have hvalid : (Zone.offset sign hours minutes).Valid := h.2
    have hzone := Zone.seconds_bounds hvalid
    simp only [Spelling.timestamp, hyear, hoffset]
    omega
  | plain sign year month day =>
    have hdigits := hs.1
    have hyear : -(year : Int) ≤ (sign.getD .plus).apply year ∧
        (sign.getD .plus).apply year ≤ year := by
      cases sign.getD .plus <;> simp only [NumberSign.apply] <;> omega
    simp only [Spelling.timestamp]
    omega

theorem daysBeforeMonth_le (year : Int) (month : Nat) : daysBeforeMonth year month ≤ 31 * month := by
  induction month with
  | zero => exact Nat.zero_le _
  | succ month ih =>
    cases month with
    | zero => exact Nat.zero_le _
    | succ month =>
      have hlength := (daysInMonth_bounds year (month + 1)).2
      rw [daysBeforeMonth_succ year (by omega)]
      omega

theorem Spelling.instant_bounds {s : Spelling} (hs : s.Fits) (h : s.Valid) :
    -400000000000 * 1000000000 ≤ s.timestamp.instant ∧
      s.timestamp.instant ≤ 400000000000 * 1000000000 := by
  obtain ⟨hyear, hoffset⟩ := Spelling.timestamp_bounds hs h
  obtain ⟨⟨-, hmonth, -, hday⟩, hhour, hminute, hsecond, hnanosecond⟩ := h.proper
  have hmonths := daysBeforeMonth_le s.timestamp.year s.timestamp.month
  have hlength := (daysInMonth_bounds s.timestamp.year s.timestamp.month).2
  have hdays : -4400000 ≤ daysBefore s.timestamp.year s.timestamp.month s.timestamp.day - epochDay ∧
      daysBefore s.timestamp.year s.timestamp.month s.timestamp.day - epochDay ≤ 4400000 := by
    simp only [daysBefore, epochDay]
    omega
  simp only [instant, unixSeconds]
  omega

end Timestamp
end ElementMetadata
