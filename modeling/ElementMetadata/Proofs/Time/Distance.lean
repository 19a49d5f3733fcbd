import ElementMetadata.Proofs.Time.Quotients
import ElementMetadata.Proofs.Time.Instant

/-!
Counting in the largest unit. A longer time never counts in a shorter unit, and no count of a unit
exceeds a longer one. Up to `10 ^ 15` milliseconds, and so between any two timestamps that are read,
the rounded quotients give the unit and the count that exact ones give.
-/
namespace ElementMetadata

namespace TimeUnit

def seconds : TimeUnit → Nat
  | .second => 1
  | .minute => 60
  | .hour => 60 * 60
  | .day => 24 * 60 * 60
  | .month => 30 * 24 * 60 * 60
  | .year => 365 * 24 * 60 * 60

/-- The numbers that milliseconds are divided by to count the unit. -/
def divisors : TimeUnit → List Nat
  | .second => [1000]
  | .minute => [1000, 60]
  | .hour => [1000, 60, 60]
  | .day => [1000, 60, 1440]
  | .month => [1000, 60, 43200]
  | .year => [1000, 60, 525600]

/-- The most that is counted of a unit before the next one is reached. -/
def most : TimeUnit → Nat
  | .second | .minute => 60
  | .hour => 24
  | .day => 30
  | .month => 12
  | .year => 0

theorem most_mul_le {u v : TimeUnit} (h : u.seconds < v.seconds) : u.most * u.seconds ≤ v.seconds := by
  cases u <;> cases v <;> revert h <;> decide

theorem prod_divisors (u : TimeUnit) : u.divisors.prod = 1000 * u.seconds := by
  cases u <;> rfl

theorem divisors_pos (u : TimeUnit) : ∀ d ∈ u.divisors, 0 < d := by
  cases u <;> decide

theorem length_divisors (u : TimeUnit) : u.divisors.length ≤ 3 := by
  cases u <;> decide

end TimeUnit

namespace Duration

def largestUnit (m : Nat) : TimeUnit := (inLargestUnit m).2

def count (m : Nat) : Nat := (roundHalfUp (inLargestUnit m).1).toNat

theorem inLargestUnit_fst (m : Nat) :
    (inLargestUnit m).1 = quotients (toPrecision 53 m) (largestUnit m).divisors := by
  unfold largestUnit inLargestUnit
  dsimp only
  split_ifs <;> rfl

theorem toPrecision_natCast_mono {m n : Nat} (hm : 1 ≤ m) (h : m ≤ n) :
    toPrecision 53 m ≤ toPrecision 53 n :=
  toPrecision_mono (by decide) (by exact_mod_cast hm) (by exact_mod_cast h)

theorem toPrecision_natCast {m : Nat} (hm : 1 ≤ m) (h : m < 2 ^ 53) : toPrecision 53 m = m := by
  have hone : (1 : Rat) ≤ m / 2 ^ 0 := by
    rw [pow_zero, div_one]
    exact_mod_cast hm
  have hdyadic : toPrecision 53 (m / 2 ^ 0) = m / 2 ^ 0 := toPrecision_dyadic h hone
  rwa [pow_zero, div_one] at hdyadic

theorem thousand_le_toPrecision {m : Nat} (hm : 1000 ≤ m) : (1000 : Rat) ≤ toPrecision 53 m := by
  have hmono := toPrecision_natCast_mono (by decide) hm
  rw [toPrecision_natCast (by decide) (by decide)] at hmono
  exact_mod_cast hmono

theorem reaches_iff {m : Nat} (hm : 1000 ≤ m) (u : TimeUnit) :
    Reaches (toPrecision 53 m) u.divisors ↔ u.seconds ≤ (largestUnit m).seconds := by
  have hsecond := thousand_le_toPrecision hm
  unfold largestUnit inLargestUnit
  dsimp only
  generalize toPrecision 53 (m : Rat) = x at hsecond ⊢
  generalize hs : quotient x 1000 = s
  generalize ht : quotient s 60 = t
  -- Each branch answers for all six units.
  split_ifs with h₁ h₂ h₃ h₄ h₅ <;> cases u <;>
    simp only [Reaches, TimeUnit.divisors, TimeUnit.seconds, hs, ht, Nat.cast_ofNat, hsecond] <;> grind

theorem reaches_largestUnit {m : Nat} (hm : 1000 ≤ m) :
    Reaches (toPrecision 53 m) (largestUnit m).divisors :=
  (reaches_iff hm _).mpr le_rfl

theorem largestUnit_mono {m n : Nat} (hm : 1000 ≤ m) (h : m ≤ n) :
    (largestUnit m).seconds ≤ (largestUnit n).seconds := by
  have hmono := toPrecision_natCast_mono (by omega) h
  exact (reaches_iff (hm.trans h) _).mp ((reaches_largestUnit hm).mono (TimeUnit.divisors_pos _) hmono)

theorem one_le_inLargestUnit {m : Nat} (hm : 1000 ≤ m) : 1 ≤ (inLargestUnit m).1 := by
  have hthousand := thousand_le_toPrecision hm
  rw [inLargestUnit_fst]
  exact one_le_quotients (TimeUnit.divisors_pos _) (by linarith) (reaches_largestUnit hm)

theorem roundHalfUp_inLargestUnit {m : Nat} (hm : 1000 ≤ m) :
    1 ≤ roundHalfUp (inLargestUnit m).1 ∧ (count m : Int) = roundHalfUp (inLargestUnit m).1 := by
  have hone : 1 ≤ roundHalfUp (inLargestUnit m).1 := by
    have hvalue := one_le_inLargestUnit hm
    rw [le_roundHalfUp_iff]
    push_cast
    linarith
  exact ⟨hone, Int.toNat_of_nonneg (by omega)⟩

theorem one_le_count {m : Nat} (hm : 1000 ≤ m) : 1 ≤ count m := by
  obtain ⟨hone, hcount⟩ := roundHalfUp_inLargestUnit hm
  omega

theorem count_le {m n : Nat} (h : (inLargestUnit m).1 ≤ n + 1 / 4) : count m ≤ n := by
  have hlt : roundHalfUp (inLargestUnit m).1 < (n + 1 : Int) := by
    rw [roundHalfUp_lt_iff]
    push_cast
    linarith
  rw [count]
  omega

theorem inLargestUnit_le_most {m : Nat} (hm : 1000 ≤ m) {u : TimeUnit}
    (hu : (largestUnit m).seconds < u.seconds) :
    (inLargestUnit m).1 ≤ (largestUnit m).most + 1 / 4 := by
  have hreached := reaches_largestUnit hm
  have hnext (v : TimeUnit) (hv : (largestUnit m).seconds < v.seconds) :
      ¬Reaches (toPrecision 53 m) v.divisors := by
    rw [reaches_iff hm]
    omega
  rw [inLargestUnit_fst]
  cases h : largestUnit m with
  | second =>
    rw [h] at hreached hnext
    have hless := quotients_lt hreached (hnext .minute (by decide))
    exact hless.le.trans (by norm_num [TimeUnit.most])
  | minute =>
    rw [h] at hreached hnext
    have hless := quotients_lt hreached (hnext .hour (by decide))
    exact hless.le.trans (by norm_num [TimeUnit.most])
  | hour =>
    rw [h] at hreached hnext
    have hless := quotients_concat_le [1000, 60] (d := 60) (e := 1440) (n := 24) (k := 0) (by decide)
      (by decide) (by norm_num) hreached (hnext .day (by decide))
    exact hless.trans (by norm_num [TimeUnit.most])
  | day =>
    rw [h] at hreached hnext
    have hless := quotients_concat_le [1000, 60] (d := 1440) (e := 43200) (n := 30) (k := 0)
      (by decide) (by decide) (by norm_num) hreached (hnext .month (by decide))
    exact hless.trans (by norm_num [TimeUnit.most])
  | month =>
    -- A year is not a whole number of months, so the bound is the most and a quarter.
    rw [h] at hreached hnext
    have hless := quotients_concat_le [1000, 60] (d := 43200) (e := 525600) (n := 49) (k := 2)
      (by decide) (by decide) (by norm_num) hreached (hnext .year (by decide))
    exact hless.trans (by norm_num [TimeUnit.most])
  | year =>
    have hlongest : u.seconds ≤ TimeUnit.year.seconds := by cases u <;> decide
    rw [h] at hu
    omega

theorem count_mul_le {m : Nat} (hm : 1000 ≤ m) {u : TimeUnit}
    (hu : (largestUnit m).seconds < u.seconds) : count m * (largestUnit m).seconds ≤ u.seconds := by
  have hcount : count m ≤ (largestUnit m).most := count_le (inLargestUnit_le_most hm hu)
  calc count m * (largestUnit m).seconds
      ≤ (largestUnit m).most * (largestUnit m).seconds := Nat.mul_le_mul_right _ hcount
    _ ≤ u.seconds := TimeUnit.most_mul_le hu

/-! Exact counting. -/

variable {m : Nat} {divisors : List Nat}

theorem reaches_iff_prod_le (hone : 1 ≤ m) (hm : m ≤ 10 ^ 15) (hd : ∀ d ∈ divisors, 0 < d)
    (hlength : divisors.length ≤ 3) : Reaches m divisors ↔ divisors.prod ≤ m := by
  induction divisors using List.reverseRecOn with
  | nil => simpa [Reaches] using hone
  | append_singleton divisors d ih =>
    have hpos : 0 < d := hd d (by simp)
    have hrest (e : Nat) (he : e ∈ divisors) : 0 < e := hd e (by simp [he])
    have hshort : divisors.length ≤ 3 := by
      rw [List.length_append] at hlength
      omega
    have ih := ih hrest hshort
    have hproduct : (divisors ++ [d]).prod = d * divisors.prod := by
      rw [List.prod_append, List.prod_singleton, Nat.mul_comm]
    have hdouble : ((2 * d : Nat) / 2 ^ 1 : Rat) = d := by
      push_cast
      ring
    have hlast (h : Reaches m divisors) : (d : Rat) ≤ quotients m divisors ↔ d * divisors.prod ≤ m := by
      rw [← hdouble]
      exact half_le_quotients_iff (by omega) (Nat.mul_assoc 2 d _) hrest hshort hm h
    rw [reaches_concat, hproduct]
    constructor
    · rintro ⟨h, hle⟩
      exact (hlast h).mp hle
    · intro hle
      have h : Reaches m divisors := ih.mpr ((Nat.le_mul_of_pos_left _ hpos).trans hle)
      exact ⟨h, (hlast h).mpr hle⟩

theorem lt_roundHalfUp_quotients_iff {j half : Nat} (hone : 1 ≤ m) (hm : m ≤ 10 ^ 15)
    (hd : ∀ d ∈ divisors, 0 < d) (hlength : divisors.length ≤ 3) (hprod : divisors.prod = 2 * half)
    (h : Reaches m divisors) :
    (j : Int) < roundHalfUp (quotients m divisors) ↔ (2 * j + 1) * half ≤ m := by
  have hround : (j : Int) < roundHalfUp (quotients m divisors) ↔
      ((2 * j + 1 : Nat) / 2 ^ 1 : Rat) ≤ quotients m divisors := by
    rw [← Int.add_one_le_iff, le_roundHalfUp_iff]
    push_cast
    constructor <;> intro hle <;> linarith
  rw [hround]
  cases j with
  | zero =>
    have hvalue : 1 ≤ quotients m divisors := one_le_quotients hd (by exact_mod_cast hone) h
    have hreached := (reaches_iff_prod_le hone hm hd hlength).mp h
    constructor
    · intro _
      omega
    · intro _
      norm_num
      linarith
  | succ j => exact half_le_quotients_iff (by omega) (by rw [hprod]; ring) hd hlength hm h

/-- The unit is the largest one of at most that length, and the count is the nearest one, of two
equally near ones the greater. -/
theorem largestUnit_count_eq (h : 1000 ≤ m) (hm : m ≤ 10 ^ 15) :
    (∀ u : TimeUnit, 1000 * u.seconds ≤ m ↔ u.seconds ≤ (largestUnit m).seconds) ∧
      count m = (2 * m + 1000 * (largestUnit m).seconds) / (2 * (1000 * (largestUnit m).seconds)) := by
  have hexact : toPrecision 53 m = m := toPrecision_natCast (by omega) (by omega)
  have hreach (u : TimeUnit) : Reaches m u.divisors ↔ 1000 * u.seconds ≤ m := by
    rw [← TimeUnit.prod_divisors]
    exact reaches_iff_prod_le (by omega) hm u.divisors_pos u.length_divisors
  refine ⟨fun u => ?_, ?_⟩
  · rw [← hreach, ← reaches_iff h, hexact]
  · have hreached := reaches_largestUnit h
    have hvalue := inLargestUnit_fst m
    rw [hexact] at hreached hvalue
    obtain ⟨half, hhalf⟩ : ∃ half, 1000 * (largestUnit m).seconds = 2 * half :=
      ⟨500 * (largestUnit m).seconds, by ring⟩
    have hpositive : 0 < half := by
      have hlength : 0 < (largestUnit m).seconds := by cases largestUnit m <;> decide
      omega
    rw [hhalf]
    apply eq_of_forall_lt_iff
    intro j
    have hcount : j < count m ↔ (j : Int) < roundHalfUp (inLargestUnit m).1 := by
      rw [← (roundHalfUp_inLargestUnit h).2, Int.ofNat_lt]
    rw [hcount, hvalue, lt_roundHalfUp_quotients_iff (by omega) hm (TimeUnit.divisors_pos _)
      (TimeUnit.length_divisors _) ((TimeUnit.prod_divisors _).trans hhalf) hreached,
      ← Nat.add_one_le_iff, Nat.le_div_iff_mul_le (by omega)]
    constructor <;> intro hle <;> nlinarith

/-! The text. -/

theorem wholeMilliseconds_eq (d : Duration) :
    d.wholeMilliseconds = (d.nanoseconds.tdiv 1000000).natAbs :=
  (Int.natAbs_tdiv d.nanoseconds 1000000).symm

theorem text_neg (d : Duration) : (Duration.mk (-d.nanoseconds)).text = d.text := by
  have hsame : (Duration.mk (-d.nanoseconds)).wholeMilliseconds = d.wholeMilliseconds := by
    rw [wholeMilliseconds, wholeMilliseconds, Int.natAbs_neg]
  rw [text, text, hsame]

theorem text_eq_countText {d : Duration} (h : 1000 ≤ d.wholeMilliseconds) :
    d.text = countText (count d.wholeMilliseconds) (largestUnit d.wholeMilliseconds) := by
  rw [text, if_neg (by omega)]
  rfl

theorem countText_eq (n : Nat) (u : TimeUnit) :
    countText n u = if n = 1 then "1 " ++ u.name else toString n ++ " " ++ u.name ++ "s" := by
  by_cases h : n = 1
  · subst h
    rw [countText, if_pos rfl, if_pos rfl, String.append_empty]
    rfl
  · rw [countText, if_neg h, if_neg h]

theorem natAbs_durationTo_le {raw raw' : String} {t u : Timestamp} (ht : Timestamp.parse raw = .ok t)
    (hu : Timestamp.parse raw' = .ok u) :
    (t.durationTo u).nanoseconds.natAbs ≤ 10 ^ 12 * 10 ^ 9 := by
  obtain ⟨s, hfits, -, hvalid, rfl⟩ := Timestamp.parse_eq_ok_iff.mp ht
  obtain ⟨s', hfits', -, hvalid', rfl⟩ := Timestamp.parse_eq_ok_iff.mp hu
  have hstart := Timestamp.Spelling.instant_bounds hfits hvalid
  have hstop := Timestamp.Spelling.instant_bounds hfits' hvalid'
  change (s'.timestamp.instant - s.timestamp.instant).natAbs ≤ 10 ^ 12 * 10 ^ 9
  omega

/-- Up to `10 ^ 12` seconds, and so between any two timestamps that are read, the text is that of exact
arithmetic: the largest unit of at most the whole milliseconds, and how often they contain it, a
half rounded up. A duration and its negation have one text. -/
theorem text_rounds_exactly :
    (∀ d : Duration, d.nanoseconds.natAbs ≤ 10 ^ 12 * 10 ^ 9 →
      let m := (d.nanoseconds.tdiv 1000000).natAbs
      (m < 1000 → d.text = "Less than 1 second") ∧
      (1000 ≤ m → ∃ u : TimeUnit, 1000 * u.seconds ≤ m ∧
        (∀ v : TimeUnit, 1000 * v.seconds ≤ m → v.seconds ≤ u.seconds) ∧
        let length := 1000 * u.seconds
        let n := (2 * m + length) / (2 * length)
        1 ≤ n ∧ d.text = if n = 1 then "1 " ++ u.name else toString n ++ " " ++ u.name ++ "s") ∧
      (Duration.mk (-d.nanoseconds)).text = d.text) ∧
    (∀ raw raw' t u, Timestamp.parse raw = .ok t → Timestamp.parse raw' = .ok u →
      (t.durationTo u).nanoseconds.natAbs ≤ 10 ^ 12 * 10 ^ 9) := by
  refine ⟨?_, fun _ _ _ _ => natAbs_durationTo_le⟩
  intro d hd
  dsimp only
  rw [← wholeMilliseconds_eq]
  refine ⟨fun h => by rw [text, if_pos h], ?_, text_neg d⟩
  intro h
  have hm : d.wholeMilliseconds ≤ 10 ^ 15 := by
    rw [wholeMilliseconds]
    omega
  obtain ⟨hunit, hcount⟩ := largestUnit_count_eq h hm
  refine ⟨largestUnit d.wholeMilliseconds, (hunit _).mpr le_rfl, fun v => (hunit v).mp, ?_⟩
  rw [← hcount]
  exact ⟨one_le_count h, by rw [text_eq_countText h, countText_eq]⟩

/-- Back from June to May by 45 days, of which the second half month counts. -/
theorem half_month_rounds_up : ∃ t u, Timestamp.parse "2018-06-21" = .ok t ∧
    Timestamp.parse "2018-05-07" = .ok u ∧ (t.durationTo u).text = "2 months" := by
  have hstart : Timestamp.parse "2018-06-21" = .ok ⟨2018, 6, 21, 0, 0, 0, 0, 0⟩ := rfl
  have hstop : Timestamp.parse "2018-05-07" = .ok ⟨2018, 5, 7, 0, 0, 0, 0, 0⟩ := rfl
  obtain ⟨htext, hrange⟩ := text_rounds_exactly
  obtain ⟨-, hcount, -⟩ := htext _ (hrange _ _ _ _ hstart hstop)
  obtain ⟨unit, hreached, hlargest, -, hrounded⟩ := hcount (by decide)
  refine ⟨_, _, hstart, hstop, ?_⟩
  rw [hrounded]
  cases unit with
  | month => decide
  | year => exact absurd hreached (by decide)
  | second | minute | hour | day => exact absurd (hlargest .month (by decide)) (by decide)

end Duration
end ElementMetadata
