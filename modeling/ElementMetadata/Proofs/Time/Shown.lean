import ElementMetadata.Proofs.Time.Execution

/-!
The amount that a text shows: so many times the length of its unit, or nothing for less than a second.
It is read back from the text, and never goes backwards as the time grows: within a unit since rounding
is monotone, and from a unit to a longer one since no count of the shorter one exceeds it.
-/
namespace ElementMetadata

namespace Duration

def units : List TimeUnit := [.second, .minute, .hour, .day, .month, .year]

def unitBehind? (rest : List Char) : Option TimeUnit :=
  units.find? fun u => rest = (" " ++ u.name).toList ∨ rest = (" " ++ u.name ++ "s").toList

def shownSeconds? (text : String) : Option Nat :=
  let digits := text.toList.takeWhile (· ≠ ' ')
  match (String.ofList digits).toNat? with
  | some count => (unitBehind? (text.toList.drop digits.length)).map (count * ·.seconds)
  | none => if text = "Less than 1 second" then some 0 else none

def behindCount (n : Nat) (u : TimeUnit) : String := " " ++ u.name ++ if n = 1 then "" else "s"

theorem countText_eq_append (n : Nat) (u : TimeUnit) : countText n u = n.repr ++ behindCount n u := by
  simp only [countText, behindCount, Nat.toString_eq_repr, String.append_assoc]

theorem unitBehind?_behindCount (n : Nat) (u : TimeUnit) :
    unitBehind? (behindCount n u).toList = some u := by
  rw [behindCount]
  by_cases h : n = 1
  · rw [if_pos h]
    cases u <;> decide
  · rw [if_neg h]
    cases u <;> decide

theorem ne_blank_of_mem_repr {n : Nat} {c : Char} (h : c ∈ n.repr.toList) : c ≠ ' ' := by
  rw [Nat.repr_eq_ofList_toDigits, String.toList_ofList] at h
  have hdigit := Nat.isDigit_of_mem_toDigits (by decide) (by decide) h
  rintro rfl
  cases hdigit

theorem takeWhile_countText (n : Nat) (u : TimeUnit) :
    (countText n u).toList.takeWhile (· ≠ ' ') = n.repr.toList := by
  have hdigits (c : Char) (hc : c ∈ n.repr.toList) : decide (c ≠ ' ') = true :=
    decide_eq_true (ne_blank_of_mem_repr hc)
  rw [countText_eq_append, String.toList_append, List.takeWhile_append_of_pos hdigits]
  simp [behindCount]

theorem shownSeconds?_countText (n : Nat) (u : TimeUnit) :
    shownSeconds? (countText n u) = some (n * u.seconds) := by
  rw [shownSeconds?, takeWhile_countText, String.ofList_toList, Nat.toNat?_repr, countText_eq_append,
    String.toList_append, List.drop_left, unitBehind?_behindCount]
  rfl

def shownAmount (m : Nat) : Nat := if m < 1000 then 0 else count m * (largestUnit m).seconds

theorem shownSeconds?_text (d : Duration) :
    shownSeconds? d.text = some (shownAmount d.wholeMilliseconds) := by
  by_cases h : d.wholeMilliseconds < 1000
  · rw [text, if_pos h, shownAmount, if_pos h]
    cbv
  · rw [text_eq_countText (by omega), shownSeconds?_countText, shownAmount, if_neg h]

theorem seconds_injective : Function.Injective TimeUnit.seconds := by
  intro u v h
  cases u <;> cases v <;> first | rfl | cases h

theorem count_mono {m n : Nat} (hm : 1000 ≤ m) (h : m ≤ n) (hunit : largestUnit m = largestUnit n) :
    count m ≤ count n := by
  have hvalue : (inLargestUnit m).1 ≤ (inLargestUnit n).1 := by
    rw [inLargestUnit_fst, inLargestUnit_fst, ← hunit]
    exact quotients_mono (TimeUnit.divisors_pos _) (reaches_largestUnit hm)
      (toPrecision_natCast_mono (by omega) h)
  exact Int.toNat_le_toNat (roundHalfUp_mono hvalue)

theorem shownAmount_mono {m n : Nat} (h : m ≤ n) : shownAmount m ≤ shownAmount n := by
  by_cases hm : m < 1000
  · rw [shownAmount, if_pos hm]
    exact Nat.zero_le _
  · have hthousand : 1000 ≤ m := Nat.le_of_not_lt hm
    have hn : ¬n < 1000 := by omega
    rw [shownAmount, shownAmount, if_neg hm, if_neg hn]
    obtain hlt | heq := (largestUnit_mono hthousand h).lt_or_eq
    · calc count m * (largestUnit m).seconds
          ≤ (largestUnit n).seconds := count_mul_le hthousand hlt
        _ ≤ count n * (largestUnit n).seconds :=
          Nat.le_mul_of_pos_left _ (one_le_count (hthousand.trans h))
    · have hunit := seconds_injective heq
      rw [hunit]
      exact Nat.mul_le_mul_right _ (count_mono hthousand h hunit)

theorem wholeMilliseconds_mono {d₁ d₂ : Duration} (h : d₁.nanoseconds.natAbs ≤ d₂.nanoseconds.natAbs) :
    d₁.wholeMilliseconds ≤ d₂.wholeMilliseconds := Nat.div_le_div_right h

end Duration

/-- A longer time is never shown as less. So the time an element has been running is never shown as
less later on. -/
theorem shown_time_never_decreases :
    (∀ d₁ d₂ : Duration, d₁.nanoseconds.natAbs ≤ d₂.nanoseconds.natAbs → ∃ shown₁ shown₂,
      Duration.shownSeconds? d₁.text = some shown₁ ∧ Duration.shownSeconds? d₂.text = some shown₂ ∧
        shown₁ ≤ shown₂) ∧
    (∀ raw start stop now₁ now₂ suffix, Timestamp.parse raw = .ok start →
      stop = none ∨ stop = some "" → start.instant ≤ now₁.instant → now₁.instant ≤ now₂.instant →
      ∃ text₁ text₂ shown₁ shown₂,
        executionText raw stop now₁ suffix = .ok (some (text₁ ++ suffix)) ∧
        executionText raw stop now₂ suffix = .ok (some (text₂ ++ suffix)) ∧
        Duration.shownSeconds? text₁ = some shown₁ ∧ Duration.shownSeconds? text₂ = some shown₂ ∧
        shown₁ ≤ shown₂) := by
  have hshown (d₁ d₂ : Duration) (h : d₁.nanoseconds.natAbs ≤ d₂.nanoseconds.natAbs) :
      ∃ shown₁ shown₂, Duration.shownSeconds? d₁.text = some shown₁ ∧
        Duration.shownSeconds? d₂.text = some shown₂ ∧ shown₁ ≤ shown₂ :=
    ⟨_, _, Duration.shownSeconds?_text d₁, Duration.shownSeconds?_text d₂,
      Duration.shownAmount_mono (Duration.wholeMilliseconds_mono h)⟩
  refine ⟨hshown, ?_⟩
  intro raw start stop now₁ now₂ suffix hstart hstop h₁ h₂
  have hlonger : (start.durationTo now₁).nanoseconds.natAbs ≤
      (start.durationTo now₂).nanoseconds.natAbs := by
    change (now₁.instant - start.instant).natAbs ≤ (now₂.instant - start.instant).natAbs
    omega
  obtain ⟨shown₁, shown₂, htext₁, htext₂, hle⟩ := hshown _ _ hlonger
  exact ⟨_, _, shown₁, shown₂, executionText_running now₁ suffix hstart hstop,
    executionText_running now₂ suffix hstart hstop, htext₁, htext₂, hle⟩

/-- Twelve months are 360 days, and a year is more. -/
theorem twelve_months_then_a_year :
    (∃ shown₁ shown₂, Duration.shownSeconds? (Duration.mk (-59600000000)).text = some shown₁ ∧
      Duration.shownSeconds? (Duration.mk 60000000000).text = some shown₂ ∧ shown₁ ≤ shown₂) ∧
    executionText "2018-06-21" none ⟨2019, 6, 15, 0, 0, 0, 0, 0⟩ "" = .ok (some "12 months") ∧
    executionText "2018-06-21" none ⟨2019, 6, 21, 0, 0, 0, 0, 0⟩ "" = .ok (some "1 year") ∧
    ∃ shown₁ shown₂, Duration.shownSeconds? "12 months" = some shown₁ ∧
      Duration.shownSeconds? "1 year" = some shown₂ ∧ shown₁ ≤ shown₂ := by
  have hstart : Timestamp.parse "2018-06-21" = .ok ⟨2018, 6, 21, 0, 0, 0, 0, 0⟩ := rfl
  have hmonths : executionText "2018-06-21" none ⟨2019, 6, 15, 0, 0, 0, 0, 0⟩ "" =
      .ok (some "12 months") := by
    rw [executionText_running _ "" hstart (.inl rfl)]
    decide +kernel
  have hyear : executionText "2018-06-21" none ⟨2019, 6, 21, 0, 0, 0, 0, 0⟩ "" =
      .ok (some "1 year") := by
    rw [executionText_running _ "" hstart (.inl rfl)]
    decide +kernel
  obtain ⟨hdurations, hrunning⟩ := shown_time_never_decreases
  refine ⟨hdurations _ _ (by decide), hmonths, hyear, ?_⟩
  obtain ⟨text₁, text₂, shown₁, shown₂, htext₁, htext₂, hshown₁, hshown₂, hle⟩ :=
    hrunning _ _ none ⟨2019, 6, 15, 0, 0, 0, 0, 0⟩ ⟨2019, 6, 21, 0, 0, 0, 0, 0⟩ "" hstart (.inl rfl)
      (by decide) (by decide)
  rw [hmonths, String.append_empty, Except.ok.injEq, Option.some.injEq] at htext₁
  rw [hyear, String.append_empty, Except.ok.injEq, Option.some.injEq] at htext₂
  subst htext₁ htext₂
  exact ⟨shown₁, shown₂, hshown₁, hshown₂, hle⟩

end ElementMetadata
