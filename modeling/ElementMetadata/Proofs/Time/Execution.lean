import ElementMetadata.Proofs.Time.Distance
import ElementMetadata.Proofs.Time.Offset

/-!
How long an element ran depends on instants only: not on how its start and its end are spelled, nor on
which of them comes first.
-/
namespace ElementMetadata

namespace Timestamp

theorem parse_bytes_iff {s : Spelling} (hs : s.Fits) {raw : String}
    (hbytes : s.bytes = raw.toUTF8.data.toList) {t : Timestamp} :
    parse raw = .ok t ↔ s.Valid ∧ s.timestamp = t := by
  rw [parse_eq_ok_iff]
  constructor
  · rintro ⟨s', hs', hbytes', hvalid, ht⟩
    obtain rfl := Spelling.bytes_inj hs hs' (hbytes.trans hbytes'.symm)
    exact ⟨hvalid, ht⟩
  · rintro ⟨hvalid, ht⟩
    exact ⟨s, hs, hbytes, hvalid, ht⟩

theorem proper_of_parse {raw : String} {t : Timestamp} (h : parse raw = .ok t) : t.Proper := by
  obtain ⟨s, -, -, hvalid, rfl⟩ := parse_eq_ok_iff.mp h
  exact hvalid.proper

theorem isEmpty_of_parse {raw : String} {t : Timestamp} (h : parse raw = .ok t) :
    raw.isEmpty = false := by
  by_contra hempty
  rw [Bool.not_eq_false, String.isEmpty_iff] at hempty
  subst hempty
  have hnone : (parse "").toOption = none := rfl
  rw [h] at hnone
  cases hnone

theorem durationTo_eq {t u : Timestamp} (ht : t.Proper) (hu : u.Proper) (c : DayCount) :
    t.durationTo u = ⟨c.instant u - c.instant t⟩ := by
  rw [durationTo, ht.instant_eq c, hu.instant_eq c]

theorem text_durationTo_comm (t u : Timestamp) : (u.durationTo t).text = (t.durationTo u).text := by
  have hneg : u.durationTo t = ⟨-(t.durationTo u).nanoseconds⟩ := by
    rw [durationTo, durationTo, Int.neg_sub]
  rw [hneg, Duration.text_neg]

theorem durationTo_congr {t u t' u' : Timestamp} (ht : t'.instant = t.instant)
    (hu : u'.instant = u.instant) : t'.durationTo u' = t.durationTo u := by
  rw [durationTo, durationTo, ht, hu]

/-! Other spellings of one instant. -/

/-- The second spelling writes the time of the first one in another way. -/
inductive Respelled : Spelling → Spelling → Prop
  | letter (m : Moment) (small : Bool) (sign : NumberSign) :
    Respelled (.full m (.letter small)) (.full m (.offset sign 0 0))
  | colon (m : Moment) (sign : NumberSign) (hours minutes : Nat) :
    Respelled (.full m (.offset sign hours minutes)) (.compact m sign hours minutes)
  | midnight {sign : Option NumberSign} {year : Nat} (month day : Nat) (separator : UInt8)
      {fraction : List (Fin 10)} (small : Bool) (hyear : (sign.getD .plus).apply year = year)
      (hfraction : fractionNanoseconds fraction = 0) :
    Respelled (.plain sign year month day)
      (.full ⟨year, month, day, separator, 0, 0, 0, fraction⟩ (.letter small))
  | elsewhere {m n : Moment} {zone other : Zone} (hvalid : (Spelling.full m zone).Valid)
      (hother : other.Valid) (hleap : n.second = 60 ↔ m.second = 60)
      (htime : n.timestamp other.seconds = (m.timestamp zone.seconds).atOffset other.seconds) :
    Respelled (.full m zone) (.full n other)

theorem seconds_offset_zero (sign : NumberSign) (small : Bool) :
    (Zone.offset sign 0 0).seconds = (Zone.letter small).seconds := by
  cases sign <;> rfl

theorem unixSeconds_atOffset {t : Timestamp} (h : t.Proper) (offset : Int) :
    (t.atOffset offset).unixSeconds = t.unixSeconds := by
  have hinstant := instant_atOffset h offset
  have hnanosecond : (t.atOffset offset).nanosecond = t.nanosecond := rfl
  rw [instant, instant, hnanosecond] at hinstant
  omega

theorem Moment.valid_elsewhere {m n : Moment} {offset other : Int} (h : m.Valid offset)
    (hleap : n.second = 60 ↔ m.second = 60)
    (htime : n.timestamp other = (m.timestamp offset).atOffset other) : n.Valid other := by
  have hproper : (n.timestamp other).Proper := by
    rw [htime]
    exact proper_atOffset h.proper other
  have hseconds : (n.timestamp other).unixSeconds = (m.timestamp offset).unixSeconds := by
    rw [htime, unixSeconds_atOffset h.proper]
  obtain ⟨hdate, hhour, hminute, hsecond, -⟩ := hproper
  by_cases hsixty : n.second = 60
  · obtain ⟨-, -, -, hm⟩ := h
    have hlast : IsLastOfMonth (m.timestamp offset).unixSeconds := by
      obtain hless | ⟨-, hlast⟩ := hm
      · have hm := hleap.mp hsixty
        omega
      · exact hlast
    rw [← hseconds] at hlast
    rw [Moment.timestamp, if_pos hsixty] at hdate hhour hminute
    exact ⟨hdate, hhour, hminute, .inr ⟨hsixty, hlast⟩⟩
  · rw [Moment.timestamp, if_neg hsixty] at hdate hhour hminute hsecond
    exact ⟨hdate, hhour, hminute, .inl hsecond⟩

theorem Respelled.valid_iff {s u : Spelling} (h : Respelled s u) : s.Valid ↔ u.Valid := by
  cases h with
  | letter m small sign => simp [Spelling.Valid, Zone.Valid, seconds_offset_zero sign small]
  | colon m sign hours minutes => exact Iff.rfl
  | midnight month day separator small hyear hfraction =>
    simp [Spelling.Valid, Moment.Valid, Zone.Valid, hyear]
  | elsewhere hvalid hother hleap htime =>
    exact iff_of_true hvalid ⟨Moment.valid_elsewhere hvalid.1 hleap htime, hother⟩

theorem Respelled.instant_eq {s u : Spelling} (h : Respelled s u) (hs : s.Valid) :
    u.timestamp.instant = s.timestamp.instant := by
  cases h with
  | letter m small sign => rw [Spelling.timestamp, Spelling.timestamp, seconds_offset_zero sign small]
  | colon m sign hours minutes => rfl
  | midnight month day separator small hyear hfraction =>
    simp [Spelling.timestamp, Moment.timestamp, Zone.seconds, hyear, hfraction]
  | elsewhere hvalid hother hleap htime =>
    simp only [Spelling.timestamp, htime]
    exact instant_atOffset hvalid.1.proper _

theorem Respelled.parse_iff {s u : Spelling} (h : Respelled s u) (hs : s.Fits) (hu : u.Fits)
    {raw raw' : String} (hraw : s.bytes = raw.toUTF8.data.toList)
    (hraw' : u.bytes = raw'.toUTF8.data.toList) (instant : Int) :
    (∃ t, parse raw = .ok t ∧ t.instant = instant) ↔
      ∃ t, parse raw' = .ok t ∧ t.instant = instant := by
  constructor
  · rintro ⟨t, ht, rfl⟩
    obtain ⟨hvalid, rfl⟩ := (parse_bytes_iff hs hraw).mp ht
    exact ⟨_, (parse_bytes_iff hu hraw').mpr ⟨h.valid_iff.mp hvalid, rfl⟩, h.instant_eq hvalid⟩
  · rintro ⟨t, ht, rfl⟩
    obtain ⟨hvalid, rfl⟩ := (parse_bytes_iff hu hraw').mp ht
    have hs' := h.valid_iff.mpr hvalid
    exact ⟨_, (parse_bytes_iff hs hraw).mpr ⟨hs', rfl⟩, (h.instant_eq hs').symm⟩

end Timestamp

/-! The text for how long an element ran. -/

variable {start : String} {t : Timestamp} (now : Timestamp) (suffix : String)

theorem executionText_ended {stop : String} {u : Timestamp} (hstart : Timestamp.parse start = .ok t)
    (hstop : Timestamp.parse stop = .ok u) :
    executionText start (some stop) now suffix = .ok (some (t.durationTo u).text) := by
  have hstart' := Timestamp.isEmpty_of_parse hstart
  have hstop' := Timestamp.isEmpty_of_parse hstop
  have hsome : (some stop).filter (!·.isEmpty) = some stop := by
    rw [Option.filter_some, hstop']
    rfl
  rw [executionText, hstart', hstart, hsome]
  change (do
    let u ← Timestamp.parse stop
    return some (t.durationTo u).text) = Except.ok (some (t.durationTo u).text)
  rw [hstop]
  rfl

theorem executionText_running {stop : Option String} (hstart : Timestamp.parse start = .ok t)
    (hstop : stop = none ∨ stop = some "") :
    executionText start stop now suffix = .ok (some ((t.durationTo now).text ++ suffix)) := by
  have hstart' := Timestamp.isEmpty_of_parse hstart
  have hnone : stop.filter (!·.isEmpty) = none := by
    obtain rfl | rfl := hstop <;> rfl
  rw [executionText, hstart', hstart, hnone]
  rfl

theorem executionText_of_start_error {stop : Option String} {error : TimestampError}
    (hempty : start ≠ "") (hstart : Timestamp.parse start = .error error) :
    executionText start stop now suffix = .error error := by
  rw [executionText, if_neg (by simpa using hempty), hstart]
  rfl

theorem executionText_of_stop_error {stop : String} {error : TimestampError}
    (hstart : Timestamp.parse start = .ok t) (hempty : stop ≠ "")
    (hstop : Timestamp.parse stop = .error error) :
    executionText start (some stop) now suffix = .error error := by
  have hsome : (some stop).filter (!·.isEmpty) = some stop := by simp [hempty]
  rw [executionText, Timestamp.isEmpty_of_parse hstart, hstart, hsome]
  change (do
    let u ← Timestamp.parse stop
    return some (t.durationTo u).text) = Except.error error
  rw [hstop]
  rfl

/-- Between timestamps that are read, the text is that of the difference of the instants, the days
counted on the calendar. It stays the same for other texts of the same instants, at whatever offset
and in whatever spelling, if start and end are exchanged, and whatever time it is now. Without
an end the difference is up to now, and the suffix follows. -/
theorem executionText_of_instants :
    (∀ start stop t u, Timestamp.parse start = .ok t → Timestamp.parse stop = .ok u →
      ∀ now suffix,
        (∀ c : DayCount, executionText start (some stop) now suffix =
          .ok (some (Duration.mk (c.instant u - c.instant t)).text)) ∧
        (∀ now' suffix', executionText stop (some start) now' suffix' =
          executionText start (some stop) now suffix) ∧
        ∀ start' stop' t' u', Timestamp.parse start' = .ok t' → Timestamp.parse stop' = .ok u' →
          t'.instant = t.instant → u'.instant = u.instant → ∀ now' suffix',
          executionText start' (some stop') now' suffix' =
            executionText start (some stop) now suffix) ∧
    (∀ start stop t, Timestamp.parse start = .ok t → stop = none ∨ stop = some "" →
      ∀ now suffix, now.Proper →
        (∀ c : DayCount, executionText start stop now suffix =
          .ok (some ((Duration.mk (c.instant now - c.instant t)).text ++ suffix))) ∧
        (∀ offset, executionText start stop (now.atOffset offset) suffix =
          executionText start stop now suffix) ∧
        ∀ start' stop' t' now', Timestamp.parse start' = .ok t' → stop' = none ∨ stop' = some "" →
          t'.instant = t.instant → now'.instant = now.instant →
          executionText start' stop' now' suffix = executionText start stop now suffix) ∧
    (∀ raw raw' t u, Timestamp.parse raw = .ok t → Timestamp.parse raw' = .ok u →
      (t.instant = u.instant ↔ u = t.atOffset u.offsetSeconds)) ∧
    (∀ s u : Timestamp.Spelling, Timestamp.Respelled s u → s.Fits → u.Fits → ∀ raw raw' : String,
      s.bytes = raw.toUTF8.data.toList → u.bytes = raw'.toUTF8.data.toList → ∀ instant,
      (∃ t, Timestamp.parse raw = .ok t ∧ t.instant = instant) ↔
        ∃ t, Timestamp.parse raw' = .ok t ∧ t.instant = instant) := by
  refine ⟨?_, ?_, ?_, ?_⟩
  · intro start stop t u hstart hstop now suffix
    have hproper := Timestamp.proper_of_parse hstart
    have hproper' := Timestamp.proper_of_parse hstop
    rw [executionText_ended now suffix hstart hstop]
    refine ⟨?_, ?_, ?_⟩
    · intro c
      rw [Timestamp.durationTo_eq hproper hproper' c]
    · intro now' suffix'
      rw [executionText_ended now' suffix' hstop hstart, Timestamp.text_durationTo_comm]
    · intro start' stop' t' u' hstart' hstop' ht hu now' suffix'
      rw [executionText_ended now' suffix' hstart' hstop', Timestamp.durationTo_congr ht hu]
  · intro start stop t hstart hstop now suffix hnow
    have hproper := Timestamp.proper_of_parse hstart
    rw [executionText_running now suffix hstart hstop]
    refine ⟨?_, ?_, ?_⟩
    · intro c
      rw [Timestamp.durationTo_eq hproper hnow c]
    · intro offset
      rw [executionText_running _ suffix hstart hstop,
        Timestamp.durationTo_congr rfl (Timestamp.instant_atOffset hnow offset)]
    · intro start' stop' t' now' hstart' hstop' ht hsame
      rw [executionText_running now' suffix hstart' hstop', Timestamp.durationTo_congr ht hsame]
  · intro raw raw' t u ht hu
    exact Timestamp.instant_eq_iff (Timestamp.proper_of_parse ht) (Timestamp.proper_of_parse hu)
  · intro s u h hs hu raw raw' hraw hraw'
    exact h.parse_iff hs hu hraw hraw'

theorem leap_day_start_at_two_offsets :
    executionText "2020-02-29T23:30:00-0130" (some "2020-03-02") ⟨2020, 3, 2, 1, 0, 0, 0, 0⟩ "" =
      .ok (some "23 hours") ∧
    executionText "2020-03-01T01:00:00Z" (some "2020-03-02T00:00:00Z") ⟨2020, 3, 2, 1, 0, 0, 0, 0⟩
      " so far" = .ok (some "23 hours") ∧
    executionText "2020-03-01T01:00:00Z" (some "") ⟨2020, 3, 2, 1, 0, 0, 0, 0⟩ " so far" =
      .ok (some "1 day so far") ∧
    ∃ t, Timestamp.parse "2020-03-02T00:00:00Z" = .ok t ∧ t.instant = 1583107200000000000 := by
  have hstart : Timestamp.parse "2020-02-29T23:30:00-0130" =
    .ok ⟨2020, 2, 29, 23, 30, 0, 0, -5400⟩ := rfl
  have hstart' : Timestamp.parse "2020-03-01T01:00:00Z" = .ok ⟨2020, 3, 1, 1, 0, 0, 0, 0⟩ := rfl
  have hstop : Timestamp.parse "2020-03-02" = .ok ⟨2020, 3, 2, 0, 0, 0, 0, 0⟩ := rfl
  have hstop' : Timestamp.parse "2020-03-02T00:00:00Z" = .ok ⟨2020, 3, 2, 0, 0, 0, 0, 0⟩ := rfl
  have hnow : Timestamp.Proper ⟨2020, 3, 2, 1, 0, 0, 0, 0⟩ :=
    ⟨⟨by decide, by decide, by decide, by decide⟩, by decide, by decide, by decide, by decide⟩
  have hplain : Timestamp.Respelled (.plain none 2020 3 2)
      (.full ⟨2020, 3, 2, 84, 0, 0, 0, []⟩ (.letter false)) := .midnight 3 2 84 false rfl rfl
  obtain ⟨hended, hrunning, -, hrespelled⟩ := executionText_of_instants
  obtain ⟨htext, -, hother⟩ := hended _ _ _ _ hstart hstop ⟨2020, 3, 2, 1, 0, 0, 0, 0⟩ ""
  have hhours := htext gregorian
  have hday := (hrunning _ (some "") _ hstart' (.inr rfl) _ " so far" hnow).1 gregorian
  refine ⟨?_, ?_, ?_, ?_⟩
  · rw [hhours]
    decide +kernel
  · rw [hother _ _ _ _ hstart' hstop' (by decide) (by decide), hhours]
    decide +kernel
  · rw [hday]
    decide +kernel
  · refine (hrespelled _ _ hplain ?_ ?_ "2020-03-02" _ ?_ ?_ _).mp ⟨_, hstop, rfl⟩
    · simp [Timestamp.Spelling.Fits]
    · simp [Timestamp.Spelling.Fits, Timestamp.Moment.Fits, Timestamp.Zone.Fits]
    · decide +kernel
    · decide +kernel

end ElementMetadata
