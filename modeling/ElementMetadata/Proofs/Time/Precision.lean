import ElementMetadata.Time.Precision
import Mathlib

/-!
Rounding keeps the order of numbers, leaves alone what needs no rounding, and is off by no more than
half of the last place, which is one part in `2 ^ bits` of a number that is at least one.
-/
namespace ElementMetadata

/-! To an integer. -/

theorem roundHalfEven_bounds (x : Rat) :
    (roundHalfEven x : Rat) ≤ x + 1 / 2 ∧ x ≤ roundHalfEven x + 1 / 2 := by
  have hfloor : (x.floor : Rat) ≤ x := Rat.floor_le x
  have hnext : x < x.floor + 1 := by
    have h := Rat.lt_floor_add_one x
    push_cast at h
    exact h
  unfold roundHalfEven
  by_cases hdown : x - x.floor < 1 / 2
  · rw [if_pos hdown]
    constructor <;> linarith
  · rw [if_neg hdown]
    by_cases hup : 1 / 2 < x - x.floor
    · rw [if_pos hup]
      push_cast
      constructor <;> linarith
    · rw [if_neg hup]
      obtain heven | hodd := Int.emod_two_eq_zero_or_one x.floor
      · rw [heven]
        push_cast
        constructor <;> linarith
      · rw [hodd]
        push_cast
        constructor <;> linarith

theorem roundHalfEven_mono {x y : Rat} (h : x ≤ y) : roundHalfEven x ≤ roundHalfEven y := by
  by_contra hlt
  have hstep : (roundHalfEven y : Rat) + 1 ≤ roundHalfEven x := by
    exact_mod_cast (not_le.mp hlt : roundHalfEven y < roundHalfEven x)
  have hx := (roundHalfEven_bounds x).1
  have hy := (roundHalfEven_bounds y).2
  -- Only a number halfway between two integers could be rounded both ways, and it is rounded once.
  have heq : x = y := le_antisymm h (by linarith)
  exact hlt (by rw [heq])

theorem roundHalfEven_intCast (n : Int) : roundHalfEven n = n := by
  have hfloor : ((n : Rat)).floor = n := Rat.floor_intCast n
  have hzero : (n : Rat) - n < 1 / 2 := by
    rw [sub_self]
    norm_num
  simp only [roundHalfEven, hfloor, if_pos hzero]

theorem roundHalfUp_mono {x y : Rat} (h : x ≤ y) : roundHalfUp x ≤ roundHalfUp y := by
  apply Rat.floor_monotone
  linarith

theorem le_roundHalfUp_iff {x : Rat} {n : Int} : n ≤ roundHalfUp x ↔ (n : Rat) ≤ x + 1 / 2 :=
  Rat.le_floor_iff

theorem roundHalfUp_lt_iff {x : Rat} {n : Int} : roundHalfUp x < n ↔ x + 1 / 2 < n :=
  Rat.floor_lt_iff

/-! To so many binary digits. -/

def leadingPlace (x : Rat) : Nat := x.floor.toNat.log2

theorem leadingPlace_bounds {x : Rat} (h : 1 ≤ x) :
    (2 : Rat) ^ leadingPlace x ≤ x ∧ x < 2 ^ (leadingPlace x + 1) := by
  have hone : 1 ≤ x.floor := Rat.le_floor_iff.mpr (by simpa using h)
  have hnat : ((x.floor.toNat : Nat) : Rat) = x.floor := by
    exact_mod_cast Int.toNat_of_nonneg (by omega : 0 ≤ x.floor)
  have hlow : ((2 ^ leadingPlace x : Nat) : Rat) ≤ x.floor.toNat := by
    exact_mod_cast Nat.log2_self_le (by omega : x.floor.toNat ≠ 0)
  have hhigh : (x.floor.toNat : Rat) + 1 ≤ (2 ^ (leadingPlace x + 1) : Nat) := by
    exact_mod_cast Nat.lt_log2_self (n := x.floor.toNat)
  have hfloor : (x.floor : Rat) ≤ x := Rat.floor_le x
  have hnext := Rat.lt_floor_add_one x
  push_cast at hlow hhigh hnext
  constructor <;> linarith

theorem leadingPlace_mono {x y : Rat} (hx : 1 ≤ x) (h : x ≤ y) : leadingPlace x ≤ leadingPlace y := by
  have hlow := (leadingPlace_bounds hx).1
  have hhigh := (leadingPlace_bounds (hx.trans h)).2
  have hpower : (2 : Rat) ^ leadingPlace x < 2 ^ (leadingPlace y + 1) := by linarith
  have hplace := (pow_lt_pow_iff_right₀ (by norm_num : (1 : Rat) < 2)).mp hpower
  omega

theorem lastPlace_mul_pow (bits : Nat) (x : Rat) :
    lastPlace bits x * 2 ^ bits = 2 ^ (leadingPlace x + 1) := by
  have hplace : x.floor.toNat.log2 = leadingPlace x := rfl
  simp only [lastPlace, hplace, Nat.pow_eq]
  by_cases hshort : leadingPlace x < bits
  · rw [if_pos hshort]
    have hbits : bits = (bits - 1 - leadingPlace x) + (leadingPlace x + 1) := by omega
    have hpos : (2 : Rat) ^ (bits - 1 - leadingPlace x) ≠ 0 := pow_ne_zero _ (by norm_num)
    push_cast
    nth_rewrite 2 [hbits]
    rw [pow_add, one_div, inv_mul_cancel_left₀ hpos]
  · rw [if_neg hshort]
    push_cast
    rw [← pow_add]
    congr 1
    omega

theorem lastPlace_pos (bits : Nat) (x : Rat) : 0 < lastPlace bits x := by
  have hproduct := lastPlace_mul_pow bits x
  have hbits : (0 : Rat) < 2 ^ bits := by positivity
  have hplace : (0 : Rat) < 2 ^ (leadingPlace x + 1) := by positivity
  rw [← hproduct] at hplace
  exact pos_of_mul_pos_left hplace hbits.le

theorem le_toPrecision {bits : Nat} {x : Rat} {n : Int} (h : n * lastPlace bits x ≤ x) :
    n * lastPlace bits x ≤ toPrecision bits x := by
  have hpos := lastPlace_pos bits x
  have hround : roundHalfEven n ≤ roundHalfEven (x / lastPlace bits x) :=
    roundHalfEven_mono ((le_div_iff₀ hpos).mpr h)
  rw [roundHalfEven_intCast] at hround
  exact mul_le_mul_of_nonneg_right (by exact_mod_cast hround) hpos.le

theorem toPrecision_le {bits : Nat} {x : Rat} {n : Int} (h : x ≤ n * lastPlace bits x) :
    toPrecision bits x ≤ n * lastPlace bits x := by
  have hpos := lastPlace_pos bits x
  have hround : roundHalfEven (x / lastPlace bits x) ≤ roundHalfEven n :=
    roundHalfEven_mono ((div_le_iff₀ hpos).mpr h)
  rw [roundHalfEven_intCast] at hround
  exact mul_le_mul_of_nonneg_right (by exact_mod_cast hround) hpos.le

theorem toPrecision_bounds {bits : Nat} (hbits : 0 < bits) {x : Rat} (h : 1 ≤ x) :
    (2 : Rat) ^ leadingPlace x ≤ toPrecision bits x ∧
      toPrecision bits x ≤ 2 ^ (leadingPlace x + 1) := by
  obtain ⟨hlow, hhigh⟩ := leadingPlace_bounds h
  have hproduct := lastPlace_mul_pow bits x
  have hend : ((2 ^ bits : Int) : Rat) * lastPlace bits x = 2 ^ (leadingPlace x + 1) := by
    push_cast
    rw [mul_comm, hproduct]
  have hstart : ((2 ^ (bits - 1) : Int) : Rat) * lastPlace bits x = 2 ^ leadingPlace x := by
    obtain ⟨less, rfl⟩ := Nat.exists_eq_add_of_lt hbits
    simp only [zero_add, Nat.add_sub_cancel] at hproduct ⊢
    push_cast
    rw [pow_succ, pow_succ, ← mul_assoc] at hproduct
    linarith
  constructor
  · rw [← hstart]
    exact le_toPrecision (by rw [hstart]; exact hlow)
  · rw [← hend]
    exact toPrecision_le (by rw [hend]; exact hhigh.le)

theorem toPrecision_mono {bits : Nat} (hbits : 0 < bits) {x y : Rat} (hx : 1 ≤ x) (h : x ≤ y) :
    toPrecision bits x ≤ toPrecision bits y := by
  obtain hless | hsame := (leadingPlace_mono hx h).lt_or_eq
  · have hpower : (2 : Rat) ^ (leadingPlace x + 1) ≤ 2 ^ leadingPlace y :=
      pow_le_pow_right₀ (by norm_num) hless
    calc toPrecision bits x
        ≤ 2 ^ (leadingPlace x + 1) := (toPrecision_bounds hbits hx).2
      _ ≤ 2 ^ leadingPlace y := hpower
      _ ≤ toPrecision bits y := (toPrecision_bounds hbits (hx.trans h)).1
  · have hplace : lastPlace bits x = lastPlace bits y := by
      have hlog : x.floor.toNat.log2 = y.floor.toNat.log2 := hsame
      simp only [lastPlace, hlog]
    have hpos := lastPlace_pos bits y
    have hround := roundHalfEven_mono (div_le_div_of_nonneg_right h hpos.le)
    rw [toPrecision, toPrecision, hplace]
    exact mul_le_mul_of_nonneg_right (by exact_mod_cast hround) hpos.le

theorem abs_toPrecision_sub_mul_le {bits : Nat} {x : Rat} (h : 1 ≤ x) :
    |toPrecision bits x - x| * 2 ^ bits ≤ x := by
  have hpos := lastPlace_pos bits x
  have hround := roundHalfEven_bounds (x / lastPlace bits x)
  have hx : x = x / lastPlace bits x * lastPlace bits x := (div_mul_cancel₀ x hpos.ne').symm
  have herror : |toPrecision bits x - x| ≤ lastPlace bits x / 2 := by
    rw [toPrecision, abs_le]
    constructor <;> nlinarith
  have hproduct := lastPlace_mul_pow bits x
  have hlow := (leadingPlace_bounds h).1
  calc |toPrecision bits x - x| * 2 ^ bits
      ≤ lastPlace bits x / 2 * 2 ^ bits := mul_le_mul_of_nonneg_right herror (by positivity)
    _ = 2 ^ leadingPlace x := by rw [div_mul_eq_mul_div, hproduct, pow_succ]; ring
    _ ≤ x := hlow

theorem toPrecision_of_eq_mul {bits : Nat} {x : Rat} {n : Int} (h : x = n * lastPlace bits x) :
    toPrecision bits x = x := by
  have hdigits : x / lastPlace bits x = n := (div_eq_iff (lastPlace_pos bits x).ne').mpr h
  rw [toPrecision, hdigits, roundHalfEven_intCast]
  exact h.symm

theorem toPrecision_dyadic {bits n k : Nat} (hn : n < 2 ^ bits) (h : 1 ≤ (n : Rat) / 2 ^ k) :
    toPrecision bits (n / 2 ^ k) = n / 2 ^ k := by
  generalize hx : (n : Rat) / 2 ^ k = x at h ⊢
  have hk : (0 : Rat) < 2 ^ k := by positivity
  have hmul : x * 2 ^ k = n := by rw [← hx, div_mul_cancel₀ _ hk.ne']
  have hplaces : leadingPlace x + 1 + k ≤ bits := by
    have hlow := (leadingPlace_bounds h).1
    have hbound : (n : Rat) < 2 ^ bits := by exact_mod_cast hn
    have hpower : (2 : Rat) ^ (leadingPlace x + k) < 2 ^ bits := by
      rw [pow_add]
      nlinarith
    have hless := (pow_lt_pow_iff_right₀ (by norm_num : (1 : Rat) < 2)).mp hpower
    omega
  obtain ⟨rest, hrest⟩ := Nat.exists_eq_add_of_le hplaces
  have hone : lastPlace bits x * 2 ^ k * 2 ^ rest = 1 := by
    have hproduct := lastPlace_mul_pow bits x
    have hpower : (2 : Rat) ^ bits = 2 ^ (leadingPlace x + 1) * 2 ^ k * 2 ^ rest := by
      rw [← pow_add, ← pow_add, ← hrest]
    have hplace : (2 : Rat) ^ (leadingPlace x + 1) ≠ 0 := by positivity
    rw [hpower] at hproduct
    apply mul_left_cancel₀ hplace
    linarith
  apply toPrecision_of_eq_mul (n := n * 2 ^ rest)
  push_cast
  rw [← hmul]
  linear_combination (-x) * hone

end ElementMetadata
