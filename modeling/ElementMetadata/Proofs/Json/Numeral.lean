import ElementMetadata.Json.Number
import ElementMetadata.Proofs.Record.Form
import Mathlib.Tactic.IntervalCases

/-!
Numbers as texts. What is read as a number is one. The digits of an integer are read back as that
integer, whatever follows that no number goes on with.
-/
namespace ElementMetadata.Json
variable {ε : Type} [FromSyntax ε] {rest : List Char} {n : Nat}

inductive IsNumber : Json → Prop
  | integer (n : WireInt) : IsNumber (.integer n)
  | float (x : Float) : IsNumber (.float x)

theorem isNumber_of_integerValue? {negative : Bool} {whole : List Char} {v : Json}
    (h : integerValue? negative whole = some v) : v.IsNumber := by
  unfold integerValue? at h
  dsimp only at h
  split at h
  · split at h
    · split at h
      · exact Option.some.inj h ▸ .float _
      · split at h
        · exact Option.some.inj h ▸ .integer _
        · exact Option.some.inj h ▸ .float _
    · obtain ⟨n, -, rfl⟩ := Option.map_eq_some_iff.1 h
      exact .integer n
  · obtain ⟨x, -, rfl⟩ := Option.map_eq_some_iff.1 h
    exact .float _

theorem isNumber_of_value {literal : Literal} {v : Json} (h : literal.value = .ok v) :
    v.IsNumber := by
  unfold Literal.value at h
  dsimp only at h
  -- Of the ways to a value one is by an integer, and the others end in a float.
  split at h
  · split at h
    · next w hw =>
      obtain rfl := Except.ok.inj h
      exact isNumber_of_integerValue? hw
    · cases h
  · split at h
    · exact Except.ok.inj h ▸ .float _
    · cases h
  · split at h
    · split at h
      · exact Except.ok.inj h ▸ .float _
      · cases h
    · split at h
      · exact Except.ok.inj h ▸ .float _
      · cases h

theorem isNumber_of_readNumber {text : List Char} {v : Json}
    (h : (readNumber text : Scan ε _) = .ok (v, rest)) : v.IsNumber := by
  obtain ⟨⟨literal, behind⟩, -, h⟩ := bind_eq_ok_iff.1 h
  dsimp only at h
  split at h
  · next w hw =>
    obtain ⟨rfl, -⟩ := Prod.mk.inj (Except.ok.inj h)
    exact isNumber_of_value hw
  · cases h

/-- No number goes on with the text. -/
def EndsNumber (rest : List Char) : Prop :=
  ∀ c ∈ rest.head?, isDigit c = false ∧ c ≠ '.' ∧ c ≠ 'e' ∧ c ≠ 'E'

theorem isDigit_of_mem_toDigits {c : Char} (h : c ∈ Nat.toDigits 10 n) : isDigit c = true := by
  have hdigit := Nat.isDigit_of_mem_toDigits (by decide) (by decide) h
  simpa [isDigit, Char.isDigit, Char.le_def] using hdigit

theorem digitChar_ne_zero (h : 0 < n) (hlt : n < 10) : n.digitChar ≠ '0' := by
  interval_cases n <;> decide

theorem exists_toDigits_of_pos (h : 0 < n) : ∃ c cs, Nat.toDigits 10 n = c :: cs ∧ c ≠ '0' := by
  induction n using Nat.strongRecOn with
  | ind n ih =>
    by_cases hlt : n < 10
    · exact ⟨n.digitChar, [], Nat.toDigits_of_lt_base hlt, digitChar_ne_zero h hlt⟩
    · obtain ⟨c, cs, hdigits, hc⟩ := ih (n / 10) (by omega) (by omega)
      refine ⟨c, cs ++ [(n % 10).digitChar], ?_, hc⟩
      rw [Nat.toDigits_of_base_le (by decide) (by omega), hdigits, List.cons_append]

theorem EndsNumber.takeWhile_isDigit (h : EndsNumber rest) : rest.takeWhile isDigit = [] := by
  cases rest with
  | nil => rfl
  | cons c rest => rw [List.takeWhile_cons_of_neg (by simp [(h c rfl).1])]

theorem EndsNumber.dropWhile_isDigit (h : EndsNumber rest) : rest.dropWhile isDigit = rest := by
  cases rest with
  | nil => rfl
  | cons c rest => rw [List.dropWhile_cons_of_neg (by simp [(h c rfl).1])]

theorem readWhole_toDigits (h : EndsNumber rest) :
    (readWhole (Nat.toDigits 10 n ++ rest) : Scan ε _) = .ok (Nat.toDigits 10 n, rest) := by
  obtain rfl | hpos := Nat.eq_zero_or_pos n
  · cases rest with
    | nil => rfl
    | cons c rest =>
      have hzero : Nat.toDigits 10 0 ++ c :: rest = '0' :: c :: rest := rfl
      rw [hzero, readWhole]
      simp [(h c rfl).1]
  · obtain ⟨c, cs, hdigits, hc⟩ := exists_toDigits_of_pos hpos
    have hall (d : Char) (hd : d ∈ c :: cs) : isDigit d = true :=
      isDigit_of_mem_toDigits (n := n) (by rwa [hdigits])
    have hcs (d : Char) (hd : d ∈ cs) : isDigit d = true := hall d (List.mem_cons_of_mem c hd)
    rw [hdigits, List.cons_append, readWhole, if_pos (hall c List.mem_cons_self),
      List.takeWhile_append_of_pos hcs, List.dropWhile_append_of_pos hcs, h.takeWhile_isDigit,
      h.dropWhile_isDigit, List.append_nil]
    exact hc

theorem readFraction_of_endsNumber (h : EndsNumber rest) :
    (readFraction rest : Scan ε _) = .ok (none, rest) := by
  cases rest with
  | nil => rfl
  | cons c rest =>
    rw [readFraction]
    rintro rest ⟨⟩
    exact (h _ rfl).2.1 rfl

theorem readExponent_of_endsNumber (h : EndsNumber rest) :
    (readExponent rest : Scan ε _) = .ok (none, rest) := by
  cases rest with
  | nil => rfl
  | cons c rest => rw [readExponent, if_neg (not_or.2 (h c rfl).2.2)]

theorem toList_toString (n : Int) :
    (toString n).toList = (if n < 0 then ['-'] else []) ++ Nat.toDigits 10 n.natAbs := by
  cases n with
  | ofNat m =>
    have hrepr : toString (Int.ofNat m) = m.repr := rfl
    rw [hrepr, Nat.repr_eq_ofList_toDigits, String.toList_ofList, if_neg (by simp)]
    rfl
  | negSucc m =>
    have hrepr : toString (Int.negSucc m) = "-" ++ m.succ.repr := rfl
    have hdigits : m.succ.repr.toList = Nat.toDigits 10 m.succ := by
      rw [Nat.repr_eq_ofList_toDigits, String.toList_ofList]
    rw [hrepr, String.toList_append, hdigits, if_pos (Int.negSucc_lt_zero m), Int.natAbs_negSucc]
    rfl

theorem exists_toDigits (n : Nat) : ∃ c cs, Nat.toDigits 10 n = c :: cs ∧ isDigit c = true := by
  obtain ⟨c, cs, hdigits⟩ := List.exists_cons_of_ne_nil (Nat.toDigits_ne_nil (n := n) (b := 10))
  exact ⟨c, cs, hdigits, isDigit_of_mem_toDigits (n := n) (by simp [hdigits])⟩

theorem exists_toString (n : Int) :
    ∃ c cs, (toString n).toList = c :: cs ∧ beginsNumber c = true := by
  obtain ⟨c, cs, hdigits, hc⟩ := exists_toDigits n.natAbs
  rw [toList_toString, hdigits]
  by_cases hneg : n < 0
  · exact ⟨'-', c :: cs, by rw [if_pos hneg]; rfl, rfl⟩
  · exact ⟨c, cs, by rw [if_neg hneg]; rfl, by simp [beginsNumber, hc]⟩

def readMagnitude (negative : Bool) (text : List Char) : Scan ε (Literal × List Char) := do
  let (whole, text) ← readWhole text
  let (fraction, text) ← readFraction text
  let (exponent, text) ← readExponent text
  return (⟨negative, whole, fraction, exponent⟩, text)

theorem readLiteral_minus (text : List Char) :
    (readLiteral ('-' :: text) : Scan ε _) = readMagnitude true text := rfl

theorem readLiteral_of_ne {c : Char} (hc : c ≠ '-') (text : List Char) :
    (readLiteral (c :: text) : Scan ε _) = readMagnitude false (c :: text) := by
  rw [readLiteral]
  · rfl
  · rintro rest ⟨⟩
    exact hc rfl

theorem readMagnitude_toDigits (negative : Bool) (h : EndsNumber rest) :
    (readMagnitude negative (Nat.toDigits 10 n ++ rest) : Scan ε _) =
      .ok (⟨negative, Nat.toDigits 10 n, none, none⟩, rest) := by
  rw [readMagnitude, readWhole_toDigits h]
  change (readFraction rest >>= _ : Scan ε _) = _
  rw [readFraction_of_endsNumber h]
  change (readExponent rest >>= _ : Scan ε _) = _
  rw [readExponent_of_endsNumber h]
  rfl

theorem readLiteral_toString (n : Int) (h : EndsNumber rest) :
    (readLiteral ((toString n).toList ++ rest) : Scan ε _) =
      .ok (⟨decide (n < 0), Nat.toDigits 10 n.natAbs, none, none⟩, rest) := by
  rw [toList_toString]
  by_cases hneg : n < 0
  · rw [if_pos hneg, decide_eq_true hneg, List.singleton_append, List.cons_append,
      readLiteral_minus, readMagnitude_toDigits true h]
  · obtain ⟨c, cs, hdigits, hdigit⟩ := exists_toDigits n.natAbs
    have hc : c ≠ '-' := by
      intro heq
      subst heq
      cases hdigit
    have hread := readMagnitude_toDigits (ε := ε) (n := n.natAbs) false h
    rw [if_neg hneg, decide_eq_false hneg, List.nil_append, ← hread, hdigits, List.cons_append,
      readLiteral_of_ne hc]

theorem le_digitsValue (value : Nat) (digits : List Char) : value ≤ digitsValue value digits := by
  induction digits generalizing value with
  | nil => exact Nat.le_refl value
  | cons c digits ih =>
    have hstep := ih (value * 10 + digitValue c)
    rw [digitsValue] at hstep ⊢
    rw [List.foldl_cons]
    omega

theorem significand_eq {value : Nat} {digits : List Char}
    (h : digitsValue value digits ≤ 18446744073709551615) :
    significand value digits = (digitsValue value digits, []) := by
  induction digits generalizing value with
  | nil => rfl
  | cons c digits ih =>
    have hnext := Nat.le_trans (le_digitsValue (value * 10 + digitValue c) digits) h
    rw [significand, if_pos hnext]
    exact ih h

theorem digitsValue_toDigits (n : Nat) : digitsValue 0 (Nat.toDigits 10 n) = n := by
  have h := Nat.ofDigitChars_toDigits (b := 10) (n := n) (by decide) (by decide)
  simpa only [Nat.ofDigitChars, Nat.mul_comm, digitsValue, digitValue] using h

theorem ofInt?_val (n : WireInt) : WireInt.ofInt? n.val = some n := by
  rw [WireInt.ofInt?, dif_pos n.inRange]

theorem integerValue?_toDigits (n : WireInt) :
    integerValue? (decide (n.val < 0)) (Nat.toDigits 10 n.val.natAbs) = some (.integer n) := by
  have hrange := n.inRange
  generalize hm : n.val.natAbs = m
  have hdigits : significand 0 (Nat.toDigits 10 m) = (m, []) := by
    have hvalue := digitsValue_toDigits m
    rw [significand_eq (by omega), hvalue]
  rw [integerValue?, hdigits]
  by_cases hneg : n.val < 0
  · have hzero : m ≠ 0 := by omega
    have hval : -(m : Int) = n.val := by omega
    simp [hneg, hzero, hval, ofInt?_val]
  · have hval : (m : Int) = n.val := by omega
    simp [hneg, hval, ofInt?_val]

theorem readNumber_toString (n : WireInt) (h : EndsNumber rest) :
    (readNumber ((toString n.val).toList ++ rest) : Scan ε _) = .ok (.integer n, rest) := by
  have hvalue : (Literal.value ⟨decide (n.val < 0), Nat.toDigits 10 n.val.natAbs, none, none⟩) =
      .ok (.integer n) := by
    simp only [Literal.value, integerValue?_toDigits]
  simp only [readNumber, readLiteral_toString n.val h, bind, Except.bind, hvalue]
  rfl

end ElementMetadata.Json
