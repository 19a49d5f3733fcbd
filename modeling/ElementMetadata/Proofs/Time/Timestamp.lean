import ElementMetadata.Proofs.Record.Form
import ElementMetadata.Proofs.Time.Spelling

/-!
The timestamps that are read are the spelled ones. Every reader takes exactly the bytes of its part,
and the second that a leap second stands in is found on the calendar, whatever the offset; from this
it follows which texts each of the three attempts reads, and that their order makes no difference.
-/
namespace ElementMetadata.Timestamp

theorem ite_error_eq_ok_iff {ε α : Type} {p : Prop} [Decidable p] {e : ε} {x : Except ε α} {a : α} :
    (if p then .error e else x) = .ok a ↔ ¬p ∧ x = .ok a := by
  by_cases h : p <;> simp [h]

theorem ite_eq_ok_iff {ε α : Type} {p : Prop} [Decidable p] {e : ε} {x : Except ε α} {a : α} :
    (if p then x else .error e) = .ok a ↔ p ∧ x = .ok a := by
  by_cases h : p <;> simp [h]

theorem toOption_eq_some_iff {ε α : Type} {x : Except ε α} {a : α} :
    x.toOption = some a ↔ x = .ok a := by
  cases x <;> simp [Except.toOption]

theorem readDigits_eq_ok_iff {count n : Nat} {part : TimePart} {bytes rest : List UInt8} :
    readDigits count part bytes = .ok (n, rest) ↔
      n < 10 ^ count ∧ bytes = decimal count n ++ rest := by
  rw [← digits?_eq_some_iff, readDigits]
  cases digits? count bytes <;> simp

theorem readMark_eq_ok_iff {mark : UInt8} {bytes rest : List UInt8} :
    readMark mark bytes = .ok rest ↔ bytes = mark :: rest := by
  cases bytes with
  | nil => simp [readMark]
  | cons b bytes => by_cases h : b = mark <;> simp [readMark, h]

theorem readSeparator_eq_ok_iff {bytes rest : List UInt8} :
    readSeparator bytes = .ok rest ↔ ∃ separator, bytes = separator :: rest := by
  cases bytes <;> simp [readSeparator]

theorem checkDate_eq_ok_iff {year : Int} {month day : Nat} {u : Unit} :
    checkDate year month day = .ok u ↔ IsDate year month day := by
  simp only [checkDate, IsDate, ite_error_eq_ok_iff, and_true]
  omega

/-! Offsets. -/

theorem readOffset_letter (small : Bool) (rest : List UInt8) :
    readOffset ((Zone.letter small).bytes ++ rest) = .ok ((Zone.letter small).seconds, rest) := by
  cases small <;> rfl

theorem readOffset_signed_eq_ok_iff {sign : NumberSign} {bytes rest : List UInt8} {seconds : Int} :
    readOffset (sign.byte :: bytes) = .ok (seconds, rest) ↔
      ∃ hours minutes, hours ≤ 23 ∧ minutes ≤ 59 ∧
        bytes = decimal 2 hours ++ colon :: (decimal 2 minutes ++ rest) ∧
        (Zone.offset sign hours minutes).seconds = seconds := by
  have hletter : ¬(sign.byte = 90 ∨ sign.byte = 122) := by cases sign <;> decide
  have hsign : sign.byte = 43 ∨ sign.byte = 45 := by cases sign <;> decide
  have hseconds (hours minutes : Nat) : (Zone.offset sign hours minutes).seconds =
      if sign.byte = 45 then -((hours * 3600 + minutes * 60 : Nat) : Int)
      else ((hours * 3600 + minutes * 60 : Nat) : Int) := by
    cases sign <;> simp [Zone.seconds, NumberSign.apply, NumberSign.byte]
    omega
  simp only [readOffset, if_neg hletter, if_pos hsign, bind_eq_ok_iff, Prod.exists,
    readDigits_eq_ok_iff, readMark_eq_ok_iff, ite_error_eq_ok_iff, hseconds]
  constructor
  · rintro ⟨hours, _, ⟨_, rfl⟩, hhours, _, rfl, minutes, _, ⟨_, rfl⟩, hminutes, h⟩
    obtain ⟨rfl, rfl⟩ := Prod.mk.inj (Except.ok.inj h)
    exact ⟨hours, minutes, by omega, by omega, rfl, rfl⟩
  · rintro ⟨hours, minutes, hhours, hminutes, rfl, rfl⟩
    exact ⟨hours, _, ⟨by omega, rfl⟩, by omega, _, rfl, minutes, _, ⟨by omega, rfl⟩, by omega, rfl⟩

theorem exists_of_readOffset {bytes rest : List UInt8} {seconds : Int}
    (h : readOffset bytes = .ok (seconds, rest)) :
    ∃ zone : Zone, zone.Valid ∧ bytes = zone.bytes ++ rest ∧ zone.seconds = seconds := by
  cases bytes with
  | nil => cases h
  | cons b bytes =>
    by_cases hletter : b = 90 ∨ b = 122
    · rw [readOffset, if_pos hletter] at h
      obtain ⟨rfl, rfl⟩ := Prod.mk.inj (Except.ok.inj h)
      obtain rfl | rfl := hletter
      · exact ⟨.letter false, trivial, rfl, rfl⟩
      · exact ⟨.letter true, trivial, rfl, rfl⟩
    · by_cases hsign : b = 43 ∨ b = 45
      · obtain ⟨sign, rfl⟩ := NumberSign.exists_byte hsign
        obtain ⟨hours, minutes, hhours, hminutes, rfl, hseconds⟩ := readOffset_signed_eq_ok_iff.1 h
        exact ⟨.offset sign hours minutes, ⟨hhours, hminutes⟩, by simp [Zone.bytes], hseconds⟩
      · rw [readOffset, if_neg hletter, if_neg hsign] at h
        cases h

theorem readOffset_bytes {zone : Zone} (h : zone.Valid) (rest : List UInt8) :
    readOffset (zone.bytes ++ rest) = .ok (zone.seconds, rest) := by
  cases zone with
  | letter small => exact readOffset_letter small rest
  | offset sign hours minutes =>
    rw [Zone.bytes, List.cons_append, readOffset_signed_eq_ok_iff]
    exact ⟨hours, minutes, h.1, h.2, by simp, rfl⟩

/-! The last second of a month. -/

theorem isLastOfMonth_iff {second : Int} : IsLastOfMonth second ↔
    second % 86400 = 86399 ∧ IsMonthStart (second / 86400 + 1 + epochDay) := by
  have hmidnight (year : Int) (month : Nat) : (Timestamp.mk year month 1 0 0 0 0 0).unixSeconds =
      (daysBefore year month 1 - epochDay) * 86400 := by
    simp [unixSeconds]
  simp only [IsLastOfMonth, IsMonthStart, hmidnight]
  constructor
  · rintro ⟨year, month, h₁, h₂, h⟩
    exact ⟨by omega, year, month, h₁, h₂, by omega⟩
  · rintro ⟨hlast, year, month, h₁, h₂, h⟩
    exact ⟨year, month, h₁, h₂, by omega⟩

/-- The check of the day and its neighbours finds every end of a month. -/
theorem endsMonth_iff {t : Timestamp} (hdate : IsDate t.year t.month t.day) (hhour : t.hour ≤ 23)
    (hminute : t.minute ≤ 59) (hsecond : t.second ≤ 59)
    (hoffset : -86340 ≤ t.offsetSeconds ∧ t.offsetSeconds ≤ 86340) :
    t.endsMonth = true ↔ IsLastOfMonth t.unixSeconds := by
  obtain ⟨h₁, h₂, hday, hlast⟩ := hdate
  -- An offset is less than a day, so in UTC it is this day, the one before or the one after.
  obtain ⟨seconds, hseconds⟩ : ∃ seconds : Int, seconds =
    (t.hour * 3600 + t.minute * 60 + t.second : Nat) - t.offsetSeconds := ⟨_, rfl⟩
  obtain ⟨n, hn⟩ : ∃ n : Int, n = t.day + seconds / 86400 := ⟨_, rfl⟩
  have hunix : t.unixSeconds =
      (daysBefore t.year t.month 1 + n - seconds / 86400 - 1 - epochDay) * 86400 + seconds := by
    have hfirst := daysBefore_add t.year t.month t.day
    rw [unixSeconds]
    omega
  have hdayOf : t.unixSeconds / 86400 + 1 + epochDay = daysBefore t.year t.month 1 + n := by omega
  have hsecondOf : t.unixSeconds % 86400 = seconds % 86400 := by omega
  have hends : t.endsMonth = true ↔
      seconds % 86400 = 86399 ∧ (n = 0 ∨ n = daysInMonth t.year t.month) := by
    simp [endsMonth, hn, hseconds]
  rw [hends, isLastOfMonth_iff, hdayOf, hsecondOf,
    isMonthStart_add_iff h₁ h₂ (by omega) (by omega)]

/-! The first form. -/

theorem ofParts_eq_ok_iff {m : Moment} {zone : Zone} (hzone : zone.Valid) {t : Timestamp} :
    ofParts ⟨m.year, m.month, m.day, m.hour, m.minute, m.second, fractionNanoseconds m.fraction,
      zone.seconds⟩ = .ok t ↔ m.Valid zone.seconds ∧ m.timestamp zone.seconds = t := by
  simp only [ofParts, bind_eq_ok_iff, checkDate_eq_ok_iff, ite_error_eq_ok_iff, exists_const]
  by_cases hleap : m.second = 60
  · have htime : m.timestamp zone.seconds = ⟨m.year, m.month, m.day, m.hour, m.minute, 59, 999999999,
        zone.seconds⟩ := by rw [Moment.timestamp, if_pos hleap]
    have hends (hdate : IsDate m.year m.month m.day) (hhour : m.hour ≤ 23) (hminute : m.minute ≤ 59) :
        (m.timestamp zone.seconds).endsMonth = true ↔
          IsLastOfMonth (m.timestamp zone.seconds).unixSeconds := by
      rw [htime]
      exact endsMonth_iff hdate hhour hminute (le_refl 59) (Zone.seconds_bounds hzone)
    simp only [Moment.Valid, hleap, if_true, ← htime, ite_eq_ok_iff, Except.ok.injEq]
    constructor
    · rintro ⟨hdate, hhour, hminute, -, hlast, h⟩
      have hends := hends hdate (by omega) (by omega)
      exact ⟨⟨hdate, by omega, by omega, .inr ⟨trivial, hends.1 hlast⟩⟩, h⟩
    · rintro ⟨⟨hdate, hhour, hminute, hsecond⟩, h⟩
      obtain hsecond | ⟨-, hlast⟩ := hsecond
      · omega
      · exact ⟨hdate, by omega, by omega, by omega, (hends hdate hhour hminute).2 hlast, h⟩
  · simp only [Moment.Valid, Moment.timestamp, if_neg hleap, Except.ok.injEq]
    constructor
    · rintro ⟨hdate, hhour, hminute, hsecond, h⟩
      exact ⟨⟨hdate, by omega, by omega, by omega⟩, h⟩
    · rintro ⟨⟨hdate, hhour, hminute, hsecond⟩, h⟩
      exact ⟨hdate, by omega, by omega, by omega, h⟩

theorem ofFullForm_eq_ok_iff {bytes : List UInt8} {t : Timestamp} :
    ofFullForm bytes = .ok t ↔ ∃ (m : Moment) (zone : Zone), m.Fits ∧ zone.Fits ∧
      m.bytes ++ zone.bytes = bytes ∧ (m.Valid zone.seconds ∧ zone.Valid) ∧
      m.timestamp zone.seconds = t := by
  simp only [ofFullForm, bind_eq_ok_iff, Prod.exists, readDigits_eq_ok_iff, readMark_eq_ok_iff,
    readSeparator_eq_ok_iff, ite_error_eq_ok_iff]
  constructor
  · rintro ⟨year, _, ⟨hyear, rfl⟩, _, rfl, month, _, ⟨hmonth, rfl⟩, -, _, rfl, day, _, ⟨hday, rfl⟩, _,
      ⟨separator, rfl⟩, hour, _, ⟨hhour, rfl⟩, _, rfl, minute, _, ⟨hminute, rfl⟩, _, rfl,
      second, _, ⟨hsecond, rfl⟩, nanosecond, _, hfraction, offset, rest, hoffset, h⟩
    obtain ⟨fraction, rfl, rfl⟩ := exists_of_readFraction hfraction
    obtain ⟨zone, hzone, rfl, rfl⟩ := exists_of_readOffset hoffset
    cases rest with
    | cons => cases h
    | nil =>
      obtain ⟨hm, ht⟩ := (ofParts_eq_ok_iff (m := ⟨year, month, day, separator, hour, minute, second,
        fraction⟩) hzone).1 h
      refine ⟨⟨year, month, day, separator, hour, minute, second, fraction⟩, zone,
        ⟨hyear, hmonth, hday, hhour, hminute, hsecond⟩, hzone.fits, ?_, ⟨hm, hzone⟩, ht⟩
      simp [Moment.bytes]
  · rintro ⟨m, zone, ⟨hyear, hmonth, hday, hhour, hminute, hsecond⟩, -, rfl, ⟨hm, hzone⟩, rfl⟩
    have hfraction := readFraction_fractionBytes m.fraction (endsFraction_zone zone)
    have hoffset := readOffset_bytes hzone []
    rw [List.append_nil] at hoffset
    have hmonths : 1 ≤ m.month := hm.1.1
    refine ⟨m.year, _, ⟨hyear, ?_⟩, _, rfl, m.month, _, ⟨hmonth, rfl⟩, by omega, _, rfl, m.day, _,
      ⟨hday, rfl⟩, _, ⟨m.separator, rfl⟩, m.hour, _, ⟨hhour, rfl⟩, _, rfl, m.minute, _, ⟨hminute, rfl⟩, _,
      rfl, m.second, _, ⟨hsecond, rfl⟩, _, _, hfraction, _, _, hoffset,
      (ofParts_eq_ok_iff hzone).2 ⟨hm, rfl⟩⟩
    simp [Moment.bytes]

/-! The second form. -/

theorem withOffsetColon?_eq_some_iff {bytes more : List UInt8} :
    withOffsetColon? bytes = some more ↔ ∃ head sign hours minutes, hours < 100 ∧ minutes < 100 ∧
      head ++ compactOffset sign hours minutes = bytes ∧
      head ++ (Zone.offset sign hours minutes).bytes = more := by
  constructor
  · intro h
    unfold withOffsetColon? at h
    split at h
    · next b a₁ a₂ a₃ a₄ hdrop =>
      obtain ⟨⟨hsign, hall⟩, hmore⟩ := Option.ite_none_right_eq_some.1 h
      simp only [List.all_cons, List.all_nil, Bool.and_eq_true] at hall
      obtain ⟨h₁, h₂, h₃, h₄, -⟩ := hall
      obtain ⟨sign, rfl⟩ := NumberSign.exists_byte hsign
      obtain ⟨hours, hhours, hpair⟩ := exists_decimal_two h₁ h₂
      obtain ⟨minutes, hminutes, hpair'⟩ := exists_decimal_two h₃ h₄
      refine ⟨bytes.take (bytes.length - 5), sign, hours, minutes, hhours, hminutes, ?_, ?_⟩
      · have hsame := List.take_append_drop (bytes.length - 5) bytes
        rw [hdrop] at hsame
        simpa [compactOffset, hpair, hpair'] using hsame
      · simpa [Zone.bytes, hpair, hpair'] using Option.some.inj hmore
    · cases h
  · rintro ⟨head, sign, hours, minutes, hhours, hminutes, rfl, rfl⟩
    have hlength : (head ++ compactOffset sign hours minutes).length - 5 = head.length := by
      rw [List.length_append, length_compactOffset, Nat.add_sub_cancel]
    have hsign : sign.byte = 43 ∨ sign.byte = 45 := by cases sign <;> decide
    rw [withOffsetColon?, hlength, List.drop_left, List.take_left, compactOffset]
    simp [decimal, hsign, isDigitByte_digitByte, Zone.bytes]

theorem ofCompactForm_eq_some_iff {bytes : List UInt8} {t : Timestamp} :
    ((withOffsetColon? bytes).bind fun bytes => (ofFullForm bytes).toOption) = some t ↔
      ∃ m sign hours minutes, (Spelling.compact m sign hours minutes).Fits ∧
        (Spelling.compact m sign hours minutes).bytes = bytes ∧
        (Spelling.compact m sign hours minutes).Valid ∧
        (Spelling.compact m sign hours minutes).timestamp = t := by
  simp only [Option.bind_eq_some_iff, withOffsetColon?_eq_some_iff, toOption_eq_some_iff,
    ofFullForm_eq_ok_iff]
  constructor
  · rintro ⟨_, ⟨head, sign, hours, minutes, hhours, hminutes, rfl, rfl⟩, m, zone, hm, hzone, hbytes,
      hvalid, rfl⟩
    obtain ⟨rfl, rfl⟩ := Zone.append_offset_inj ⟨hhours, hminutes⟩ hzone hbytes.symm
    exact ⟨m, sign, hours, minutes, ⟨hm, hhours, hminutes⟩, rfl, hvalid, rfl⟩
  · rintro ⟨m, sign, hours, minutes, ⟨hm, hhours, hminutes⟩, rfl, hvalid, rfl⟩
    exact ⟨_, ⟨m.bytes, sign, hours, minutes, hhours, hminutes, rfl, rfl⟩, m,
      .offset sign hours minutes, hm, ⟨hhours, hminutes⟩, rfl, hvalid, rfl⟩

/-! The third form. -/

theorem ofPlainDate?_eq_some_iff {bytes : List UInt8} {t : Timestamp} :
    ofPlainDate? bytes = some t ↔ ∃ sign year month day,
      (Spelling.plain sign year month day).Fits ∧ (Spelling.plain sign year month day).bytes = bytes ∧
      (Spelling.plain sign year month day).Valid ∧
      (Spelling.plain sign year month day).timestamp = t := by
  unfold ofPlainDate?
  split
  next negative rest hsplit =>
  simp only [Option.bind_eq_bind, Option.bind_eq_some_iff, Prod.exists, digits?_eq_some_iff,
    toOption_eq_some_iff, readMark_eq_ok_iff, Option.ite_none_right_eq_some, Option.map_eq_some_iff,
    checkDate_eq_ok_iff, exists_const, List.isEmpty_iff]
  constructor
  · rintro ⟨year, _, ⟨hyear, rfl⟩, _, rfl, month, _, ⟨hmonth, rfl⟩, _, rfl, day, _, ⟨hday, rfl⟩, rfl,
      hdate, rfl⟩
    rw [List.append_nil] at hsplit
    split at hsplit
    · obtain ⟨rfl, rfl⟩ := Prod.mk.inj hsplit
      exact ⟨some .plus, year, month, day, ⟨hyear, hmonth, hday⟩, rfl, hdate, rfl⟩
    · obtain ⟨rfl, rfl⟩ := Prod.mk.inj hsplit
      exact ⟨some .minus, year, month, day, ⟨hyear, hmonth, hday⟩, rfl, hdate, rfl⟩
    · obtain ⟨rfl, rfl⟩ := Prod.mk.inj hsplit
      exact ⟨none, year, month, day, ⟨hyear, hmonth, hday⟩, rfl, hdate, rfl⟩
  · rintro ⟨sign, year, month, day, ⟨hyear, hmonth, hday⟩, rfl, hdate, rfl⟩
    have hrest : rest = (Spelling.plain none year month day).bytes ∧
        (sign.getD .plus).apply year = if negative then -(year : Int) else year := by
      cases sign with
      | some sign =>
        cases sign <;> obtain ⟨rfl, rfl⟩ := Prod.mk.inj hsplit <;> exact ⟨rfl, rfl⟩
      | none =>
        split at hsplit
        · next h => exact absurd (isDigitByte_of_decimal h) (by decide)
        · next h => exact absurd (isDigitByte_of_decimal h) (by decide)
        · obtain ⟨rfl, rfl⟩ := Prod.mk.inj hsplit
          exact ⟨rfl, rfl⟩
    obtain ⟨rfl, hyears⟩ := hrest
    simp only [Spelling.Valid, Spelling.timestamp, hyears] at hdate ⊢
    refine ⟨year, _, ⟨hyear, rfl⟩, _, rfl, month, _, ⟨hmonth, rfl⟩, _, rfl, day, [], ⟨hday, ?_⟩, rfl,
      hdate, rfl⟩
    rw [List.append_nil]

/-! All forms. -/

def attempts : List (List UInt8 → Option Timestamp) :=
  [fun bytes => (ofFullForm bytes).toOption,
    fun bytes => (withOffsetColon? bytes).bind fun bytes => (ofFullForm bytes).toOption,
    ofPlainDate?]

theorem toOption_parse (raw : String) :
    (parse raw).toOption = attempts.findSome? (· raw.toUTF8.data.toList) := by
  simp only [parse, attempts, List.findSome?_cons, List.findSome?_nil]
  cases ofFullForm raw.toUTF8.data.toList with
  | ok t => rfl
  | error fault =>
    cases (withOffsetColon? raw.toUTF8.data.toList).bind fun bytes => (ofFullForm bytes).toOption with
    | some t => rfl
    | none => cases ofPlainDate? raw.toUTF8.data.toList <;> rfl

theorem exists_attempt_iff {bytes : List UInt8} {t : Timestamp} :
    (∃ attempt ∈ attempts, attempt bytes = some t) ↔
      ∃ s : Spelling, s.Fits ∧ s.bytes = bytes ∧ s.Valid ∧ s.timestamp = t := by
  simp only [attempts, List.exists_mem_cons_iff, List.not_mem_nil, false_and, exists_false, or_false,
    toOption_eq_some_iff, ofFullForm_eq_ok_iff, ofCompactForm_eq_some_iff, ofPlainDate?_eq_some_iff]
  constructor
  · rintro (⟨m, zone, hm, hzone, h⟩ | ⟨m, sign, hours, minutes, h⟩ | ⟨sign, year, month, day, h⟩)
    · exact ⟨.full m zone, ⟨hm, hzone⟩, h⟩
    · exact ⟨.compact m sign hours minutes, h⟩
    · exact ⟨.plain sign year month day, h⟩
  · rintro ⟨s, hs⟩
    cases s with
    | full m zone => exact .inl ⟨m, zone, hs.1.1, hs.1.2, hs.2⟩
    | compact m sign hours minutes => exact .inr (.inl ⟨m, sign, hours, minutes, hs⟩)
    | plain sign year month day => exact .inr (.inr ⟨sign, year, month, day, hs⟩)

/-- An attempt's result is that of any other attempt, so that their order makes no difference. -/
theorem findSome?_attempts_iff {order : List (List UInt8 → Option Timestamp)}
    (horder : order.Perm attempts) {bytes : List UInt8} {t : Timestamp} :
    order.findSome? (· bytes) = some t ↔
      ∃ s : Spelling, s.Fits ∧ s.bytes = bytes ∧ s.Valid ∧ s.timestamp = t := by
  have hread (u : Timestamp) : (∃ attempt ∈ order, attempt bytes = some u) ↔
      ∃ s : Spelling, s.Fits ∧ s.bytes = bytes ∧ s.Valid ∧ s.timestamp = u := by
    rw [← exists_attempt_iff]
    simp only [horder.mem_iff]
  constructor
  · intro h
    obtain ⟨attempt, hmem, hattempt⟩ := List.exists_of_findSome?_eq_some h
    exact (hread t).1 ⟨attempt, hmem, hattempt⟩
  · intro h
    obtain ⟨attempt, hmem, hattempt⟩ := (hread t).2 h
    have hsome : (order.findSome? (· bytes)).isSome = true := by
      rw [List.findSome?_isSome_iff]
      exact ⟨attempt, hmem, by rw [hattempt]; rfl⟩
    obtain ⟨u, hu⟩ := Option.isSome_iff_exists.1 hsome
    obtain ⟨other, hother, hfirst⟩ := List.exists_of_findSome?_eq_some hu
    obtain ⟨s, hs, hbytes, -, rfl⟩ := h
    obtain ⟨s', hs', hbytes', -, rfl⟩ := (hread u).1 ⟨other, hother, hfirst⟩
    rw [hu, Spelling.bytes_inj hs hs' (hbytes.trans hbytes'.symm)]

theorem Spelling.Valid.isDate {s : Spelling} (h : s.Valid) :
    IsDate s.timestamp.year s.timestamp.month s.timestamp.day := by
  have hmoment {m : Moment} {offset : Int} (hm : m.Valid offset) :
      IsDate (m.timestamp offset).year (m.timestamp offset).month (m.timestamp offset).day := by
    unfold Moment.timestamp
    split <;> exact hm.1
  cases s with
  | full m zone => exact hmoment h.1
  | compact m sign hours minutes => exact hmoment h.1
  | plain sign year month day => exact h

theorem instant_eq (c : DayCount) {t : Timestamp} (h : IsDate t.year t.month t.day) :
    t.instant = (c.count t.year t.month t.day * 86400 + t.hour * 3600 + t.minute * 60 + t.second -
      t.offsetSeconds) * 1000000000 + t.nanosecond := by
  have hcount : c.count t.year t.month t.day = daysBefore t.year t.month t.day - epochDay :=
    DayCount.count_eq c gregorian h
  rw [instant, unixSeconds, hcount]
  push_cast
  omega

/-- A text is a timestamp exactly if it is a valid spelling, and then it is read as what it spells,
which is an instant counted on the calendar. A text has one spelling at most, and the attempts may
be made in any order. -/
theorem parse_reads_spellings (raw : String) :
    (∀ t, parse raw = .ok t ↔
      ∃ s : Spelling, s.Fits ∧ s.bytes = raw.toUTF8.data.toList ∧ s.Valid ∧ s.timestamp = t) ∧
    (∀ s u : Spelling, s.Fits → u.Fits → s.bytes = raw.toUTF8.data.toList →
      u.bytes = raw.toUTF8.data.toList → s = u) ∧
    (∀ order : List (List UInt8 → Option Timestamp), order.Perm attempts →
      order.findSome? (· raw.toUTF8.data.toList) = (parse raw).toOption) ∧
    (∀ t, parse raw = .ok t → ∀ c : DayCount, t.instant =
      (c.count t.year t.month t.day * 86400 + t.hour * 3600 + t.minute * 60 + t.second -
        t.offsetSeconds) * 1000000000 + t.nanosecond) := by
  have hread (t : Timestamp) : parse raw = .ok t ↔
      ∃ s : Spelling, s.Fits ∧ s.bytes = raw.toUTF8.data.toList ∧ s.Valid ∧ s.timestamp = t := by
    rw [← toOption_eq_some_iff, toOption_parse, findSome?_attempts_iff (List.Perm.refl attempts)]
  refine ⟨hread, ?_, ?_, ?_⟩
  · intro s u hs hu hbytes hbytes'
    exact Spelling.bytes_inj hs hu (hbytes.trans hbytes'.symm)
  · intro order horder
    apply Option.ext
    intro t
    rw [findSome?_attempts_iff horder, toOption_eq_some_iff, hread]
  · intro t ht c
    obtain ⟨s, -, -, hs, rfl⟩ := (hread t).1 ht
    exact instant_eq c hs.isDate

/-- The leap second of the end of 2016, in a zone where it was evening still. -/
theorem evening_leap_second_is_read : ∃ t,
    parse "2016-12-31T18:59:60.25-0500" = .ok t ∧
    t = ⟨2016, 12, 31, 18, 59, 59, 999999999, -18000⟩ ∧ t.instant = 1483228799999999999 := by
  have hread := parse_reads_spellings "2016-12-31T18:59:60.25-0500"
  have hparse : parse "2016-12-31T18:59:60.25-0500" =
      .ok ⟨2016, 12, 31, 18, 59, 59, 999999999, -18000⟩ := by
    apply (hread.1 _).2
    refine ⟨.compact ⟨2016, 12, 31, 84, 18, 59, 60, [2, 5]⟩ .minus 5 0, ?_, ?_, ?_, ?_⟩
    · simp [Spelling.Fits, Moment.Fits]
    · decide +kernel
    · refine ⟨⟨?_, by decide, by decide, .inr ⟨rfl, ?_⟩⟩, by decide, by decide⟩
      · exact ⟨by decide, by decide, by decide, by decide⟩
      · exact ⟨2017, 1, by decide, by decide, by decide⟩
    · decide
  refine ⟨_, hparse, rfl, ?_⟩
  rw [hread.2.2.2 _ hparse gregorian]
  decide

end ElementMetadata.Timestamp
