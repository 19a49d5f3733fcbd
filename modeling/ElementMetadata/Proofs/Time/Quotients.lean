import ElementMetadata.Time.Distance
import ElementMetadata.Proofs.Time.Precision

/-!
How a stretch of time is counted in its largest unit. Its milliseconds are divided by one number after
the other, and each quotient is rounded; a unit is reached if no quotient on the way to it is below one.
Longer stretches reach no smaller units and count no fewer of the same unit, and up to `10 ^ 15`
milliseconds the quotients lie on the right side of every integer and every half.
-/
namespace ElementMetadata
namespace Duration

/-! Quotients. -/

def quotients (x : Rat) (divisors : List Nat) : Rat := divisors.foldl quotient x

/-- No quotient on the way is below one. -/
def Reaches : Rat → List Nat → Prop
  | _, [] => True
  | x, d :: divisors => (d : Rat) ≤ x ∧ Reaches (quotient x d) divisors

variable {x y : Rat} {d m : Nat} {divisors : List Nat}

theorem quotient_mono (hd : 0 < d) (hx : (d : Rat) ≤ x) (h : x ≤ y) : quotient x d ≤ quotient y d := by
  have hpos : (0 : Rat) < d := by exact_mod_cast hd
  apply toPrecision_mono (by decide)
  · exact (one_le_div hpos).mpr hx
  · exact div_le_div_of_nonneg_right h hpos.le

theorem quotient_dyadic {n k : Nat} (hd : 0 < d) (hn : n < 2 ^ 53) (h : 1 ≤ (n : Rat) / 2 ^ k) :
    quotient (n / 2 ^ k * d) d = n / 2 ^ k := by
  have hpos : (d : Rat) ≠ 0 := by exact_mod_cast hd.ne'
  rw [quotient, mul_div_cancel_right₀ _ hpos, toPrecision_dyadic hn h]

theorem quotient_le {n k : Nat} (hd : 0 < d) (hn : n < 2 ^ 53) (hx : (d : Rat) ≤ x)
    (h : x ≤ n / 2 ^ k * d) : quotient x d ≤ n / 2 ^ k := by
  have hpos : (0 : Rat) < d := by exact_mod_cast hd
  have hone : 1 ≤ (n : Rat) / 2 ^ k := by
    by_contra hlt
    nlinarith
  calc quotient x d
      ≤ quotient (n / 2 ^ k * d) d := quotient_mono hd hx h
    _ = n / 2 ^ k := quotient_dyadic hd hn hone

theorem one_le_quotient (hd : 0 < d) (hx : (d : Rat) ≤ x) : 1 ≤ quotient x d := by
  have hone : quotient d d = 1 := by
    simpa using quotient_dyadic (n := 1) (k := 0) hd (by decide) (by norm_num)
  have hmono := quotient_mono hd le_rfl hx
  rwa [hone] at hmono

/-- What a quotient is off by, counted in the unit of the dividend. -/
theorem quotient_near {D e : Rat} (hd : 0 < d) (hD : 0 ≤ D) (hx : (d : Rat) ≤ x)
    (hsmall : m + e ≤ 2 ^ 50) (h : |x * D - m| ≤ e) :
    |quotient x d * (d * D) - m| ≤ e + 1 / 8 := by
  have hpos : (0 : Rat) < d := by exact_mod_cast hd
  have hround : |quotient x d - x / d| * 2 ^ 53 ≤ x / d :=
    abs_toPrecision_sub_mul_le ((one_le_div hpos).mpr hx)
  have hscaled : |quotient x d - x / d| * (d * D) ≤ 1 / 8 := by
    have hproduct : x * D ≤ 2 ^ 50 := by
      have hbound := (abs_le.mp h).2
      linarith
    have hdividend : x / d * (d * D) = x * D := by
      field_simp
    have hmul := mul_le_mul_of_nonneg_right hround (mul_nonneg hpos.le hD)
    rw [hdividend] at hmul
    have hpower : |quotient x d - x / d| * (d * D) * 2 ^ 53 ≤ 1 / 8 * 2 ^ 53 := by
      calc |quotient x d - x / d| * (d * D) * 2 ^ 53
          = |quotient x d - x / d| * 2 ^ 53 * (d * D) := by ring
        _ ≤ x * D := hmul
        _ ≤ 1 / 8 * 2 ^ 53 := by linarith
    exact le_of_mul_le_mul_right hpower (by norm_num)
  have hsplit : quotient x d * (d * D) - m =
      (quotient x d - x / d) * (d * D) + (x * D - m) := by
    field_simp
    ring
  calc |quotient x d * (d * D) - m|
      = |(quotient x d - x / d) * (d * D) + (x * D - m)| := by rw [hsplit]
    _ ≤ |(quotient x d - x / d) * (d * D)| + |x * D - m| := abs_add_le _ _
    _ = |quotient x d - x / d| * (d * D) + |x * D - m| := by
      rw [abs_mul, abs_of_nonneg (mul_nonneg hpos.le hD)]
    _ ≤ e + 1 / 8 := by linarith

theorem Reaches.mono (hd : ∀ d ∈ divisors, 0 < d) (h : Reaches x divisors) (hxy : x ≤ y) :
    Reaches y divisors := by
  induction divisors generalizing x y with
  | nil => trivial
  | cons d divisors ih =>
    have hquotient := quotient_mono (hd d List.mem_cons_self) h.1 hxy
    exact ⟨h.1.trans hxy, ih (fun e he => hd e (List.mem_cons_of_mem d he)) h.2 hquotient⟩

theorem quotients_mono (hd : ∀ d ∈ divisors, 0 < d) (h : Reaches x divisors) (hxy : x ≤ y) :
    quotients x divisors ≤ quotients y divisors := by
  induction divisors generalizing x y with
  | nil => exact hxy
  | cons d divisors ih =>
    have hquotient := quotient_mono (hd d List.mem_cons_self) h.1 hxy
    exact ih (fun e he => hd e (List.mem_cons_of_mem d he)) h.2 hquotient

theorem one_le_quotients (hd : ∀ d ∈ divisors, 0 < d) (hx : 1 ≤ x) (h : Reaches x divisors) :
    1 ≤ quotients x divisors := by
  induction divisors generalizing x with
  | nil => exact hx
  | cons d divisors ih =>
    have hquotient := one_le_quotient (hd d List.mem_cons_self) h.1
    exact ih (fun e he => hd e (List.mem_cons_of_mem d he)) hquotient h.2

theorem reaches_concat : Reaches x (divisors ++ [d]) ↔
    Reaches x divisors ∧ (d : Rat) ≤ quotients x divisors := by
  induction divisors generalizing x with
  | nil => simp [Reaches, quotients]
  | cons e divisors ih => simp only [List.cons_append, Reaches, ih, and_assoc, quotients, List.foldl_cons]

theorem quotients_lt (h : Reaches x divisors) (hnot : ¬Reaches x (divisors ++ [d])) :
    quotients x divisors < d := by
  rw [reaches_concat] at hnot
  exact not_le.mp fun hle => hnot ⟨h, hle⟩

theorem quotients_concat_le (divisors : List Nat) {e n k : Nat} (hd : 0 < d) (hn : n < 2 ^ 53)
    (hbound : (e : Rat) ≤ n / 2 ^ k * d) (h : Reaches x (divisors ++ [d]))
    (hnot : ¬Reaches x (divisors ++ [e])) : quotients x (divisors ++ [d]) ≤ n / 2 ^ k := by
  obtain ⟨hreached, hle⟩ := reaches_concat.mp h
  have hlt := quotients_lt hreached hnot
  have hlast : quotients x (divisors ++ [d]) = quotient (quotients x divisors) d := by
    rw [quotients, List.foldl_append]
    rfl
  rw [hlast]
  exact quotient_le hd hn hle (hlt.le.trans hbound)

theorem quotients_half {k : Nat} (hk : 2 ≤ k) (hd : ∀ d ∈ divisors, 0 < d)
    (hsmall : k * divisors.prod < 2 ^ 53) :
    Reaches (k / 2 ^ 1 * divisors.prod) divisors ∧
      quotients (k / 2 ^ 1 * divisors.prod) divisors = k / 2 ^ 1 := by
  have hhalf : (1 : Rat) ≤ k / 2 ^ 1 := by
    rw [pow_one, le_div_iff₀ (by norm_num)]
    exact_mod_cast hk
  induction divisors with
  | nil => exact ⟨trivial, by simp [quotients]⟩
  | cons d divisors ih =>
    have hpos : 0 < d := hd d List.mem_cons_self
    have hrest (e : Nat) (he : e ∈ divisors) : 0 < e := hd e (List.mem_cons_of_mem d he)
    have hprod : 1 ≤ divisors.prod := List.prod_pos hrest
    rw [List.prod_cons] at hsmall
    have hless : k * divisors.prod < 2 ^ 53 := by
      calc k * divisors.prod ≤ k * (d * divisors.prod) := by gcongr; exact Nat.le_mul_of_pos_left _ hpos
        _ < 2 ^ 53 := hsmall
    have hone : 1 ≤ (k / 2 ^ 1 : Rat) * divisors.prod := by
      have hcast : (1 : Rat) ≤ divisors.prod := by exact_mod_cast hprod
      nlinarith
    have hform : (k / 2 ^ 1 : Rat) * (d :: divisors).prod = (k * divisors.prod : Nat) / 2 ^ 1 * d := by
      rw [List.prod_cons]
      push_cast
      ring
    have hdyadic : ((k * divisors.prod : Nat) : Rat) / 2 ^ 1 = k / 2 ^ 1 * divisors.prod := by
      push_cast
      ring
    have hquotient : quotient (k / 2 ^ 1 * (d :: divisors).prod) d = k / 2 ^ 1 * divisors.prod := by
      rw [hform, quotient_dyadic hpos hless (by rw [hdyadic]; exact hone), hdyadic]
    obtain ⟨hreaches, hcount⟩ := ih hrest hless
    refine ⟨⟨?_, ?_⟩, ?_⟩
    · rw [hform, hdyadic]
      exact le_mul_of_one_le_left (by positivity) hone
    · rw [hquotient]
      exact hreaches
    · rw [quotients, List.foldl_cons, hquotient]
      exact hcount

/-- The error of each quotient adds up to less than a millisecond. -/
theorem quotients_near {D e : Rat} (hd : ∀ d ∈ divisors, 0 < d) (hD : 0 ≤ D)
    (hsmall : m + e + divisors.length / 8 ≤ 2 ^ 50) (h : Reaches x divisors) (hx : |x * D - m| ≤ e) :
    |quotients x divisors * (divisors.prod * D) - m| ≤ e + divisors.length / 8 := by
  induction divisors generalizing x D e with
  | nil => simpa [quotients] using hx
  | cons d divisors ih =>
    have hlength : ((d :: divisors).length : Rat) = divisors.length + 1 := by
      rw [List.length_cons]
      push_cast
      rfl
    have hcount : (0 : Rat) ≤ divisors.length := by positivity
    rw [hlength] at hsmall ⊢
    have hquotient := quotient_near (hd d List.mem_cons_self) hD h.1 (by linarith) hx
    have hnear := ih (fun c hc => hd c (List.mem_cons_of_mem d hc)) (by positivity) (by linarith) h.2
      hquotient
    have hprod : ((d :: divisors).prod : Rat) * D = divisors.prod * (d * D) := by
      rw [List.prod_cons]
      push_cast
      ring
    rw [hprod, quotients, List.foldl_cons]
    calc |quotients (quotient x d) divisors * (divisors.prod * (d * D)) - m|
        ≤ e + 1 / 8 + divisors.length / 8 := hnear
      _ = e + (divisors.length + 1) / 8 := by ring

/-- Up to `10 ^ 15` the quotients lie on the right side of every half from one on. -/
theorem half_le_quotients_iff {k c : Nat} (hk : 2 ≤ k) (hc : k * divisors.prod = 2 * c)
    (hd : ∀ d ∈ divisors, 0 < d) (hlength : divisors.length ≤ 3) (hm : m ≤ 10 ^ 15)
    (h : Reaches m divisors) : (k / 2 ^ 1 : Rat) ≤ quotients m divisors ↔ c ≤ m := by
  have hproduct : (k / 2 ^ 1 : Rat) * divisors.prod = c := by
    have hcast : (k : Rat) * divisors.prod = 2 * c := by exact_mod_cast hc
    linear_combination hcast / 2
  constructor
  · intro hle
    by_contra hlt
    have hbelow : (m : Rat) + 1 ≤ c := by exact_mod_cast not_le.mp hlt
    have hlengths : (divisors.length : Rat) ≤ 3 := by exact_mod_cast hlength
    have hbound : (m : Rat) ≤ 10 ^ 15 := by exact_mod_cast hm
    have hnear := quotients_near (m := m) (D := 1) (e := 0) hd (by norm_num) (by linarith) h
      (by simp)
    have hupper := (abs_le.mp hnear).2
    have hpos : (0 : Rat) ≤ divisors.prod := by positivity
    have hmul := mul_le_mul_of_nonneg_right hle hpos
    rw [hproduct] at hmul
    rw [mul_one] at hupper
    linarith
  · intro hle
    have hsmall : k * divisors.prod < 2 ^ 53 := by omega
    obtain ⟨hreaches, hcount⟩ := quotients_half hk hd hsmall
    rw [hproduct] at hreaches hcount
    rw [← hcount]
    exact quotients_mono hd hreaches (by exact_mod_cast hle)

end Duration
end ElementMetadata
