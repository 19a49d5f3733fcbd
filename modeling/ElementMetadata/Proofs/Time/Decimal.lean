import ElementMetadata.Time.Timestamp
import Mathlib.Data.List.Induction
import Mathlib.Data.Nat.Digits.Lemmas

/-!
Decimal digits as bytes. Reading so many digits gives a number exactly if the bytes begin with its
digits; the digits of a fraction give the nanoseconds that it amounts to, rounded down.
-/
namespace ElementMetadata.Timestamp

def digitByte (digit : Fin 10) : UInt8 := UInt8.ofNat (48 + digit)

/-- The last digits of a number, so many of them. -/
def decimal : Nat → Nat → List UInt8
  | 0, _ => []
  | count + 1, n => decimal count (n / 10) ++ [digitByte (Fin.ofNat 10 n)]

theorem isDigitByte_digitByte : ∀ digit, isDigitByte (digitByte digit) = true := by decide

theorem digitOfByte_digitByte : ∀ digit, digitOfByte (digitByte digit) = digit := by decide

theorem digitByte_injective : Function.Injective digitByte := by decide

theorem exists_digitByte {b : UInt8} (h : isDigitByte b = true) : ∃ digit, digitByte digit = b := by
  simp only [isDigitByte, Bool.and_eq_true, decide_eq_true_eq, UInt8.le_iff_toNat_le] at h
  have hlow : 48 ≤ b.toNat := h.1
  have hhigh : b.toNat ≤ 57 := h.2
  refine ⟨⟨b.toNat - 48, by omega⟩, UInt8.toNat_inj.1 ?_⟩
  rw [digitByte, UInt8.toNat_ofNat', Nat.mod_eq_of_lt (by dsimp only; omega)]
  dsimp only
  omega

theorem length_decimal (count n : Nat) : (decimal count n).length = count := by
  induction count generalizing n with
  | zero => rfl
  | succ count ih => rw [decimal, List.length_append, ih, List.length_singleton]

theorem all_decimal (count n : Nat) : (decimal count n).all isDigitByte = true := by
  induction count generalizing n with
  | zero => rfl
  | succ count ih => simp [decimal, ih, isDigitByte_digitByte]

theorem numberOfBytes_concat (value : Nat) (digits : List UInt8) (b : UInt8) :
    numberOfBytes value (digits ++ [b]) = numberOfBytes value digits * 10 + digitOfByte b := by
  simp [numberOfBytes]

theorem numberOfBytes_decimal {count n : Nat} (h : n < 10 ^ count) :
    numberOfBytes 0 (decimal count n) = n := by
  induction count generalizing n with
  | zero =>
    have hzero : n = 0 := by simpa using h
    rw [hzero]
    rfl
  | succ count ih =>
    have hshort : n / 10 < 10 ^ count := by
      rw [Nat.pow_succ] at h
      omega
    rw [decimal, numberOfBytes_concat, ih hshort, digitOfByte_digitByte]
    simp only [Fin.val_ofNat]
    omega

theorem numberOfBytes_lt {digits : List UInt8} (h : digits.all isDigitByte = true) :
    numberOfBytes 0 digits < 10 ^ digits.length := by
  induction digits using List.reverseRecOn with
  | nil => decide
  | append_singleton digits b ih =>
    rw [List.all_append, Bool.and_eq_true] at h
    have hb : isDigitByte b = true := by simpa using h.2
    obtain ⟨digit, rfl⟩ := exists_digitByte hb
    have hdigits := ih h.1
    rw [numberOfBytes_concat, digitOfByte_digitByte, List.length_append, List.length_singleton,
      Nat.pow_succ]
    omega

theorem decimal_numberOfBytes {digits : List UInt8} (h : digits.all isDigitByte = true) :
    decimal digits.length (numberOfBytes 0 digits) = digits := by
  induction digits using List.reverseRecOn with
  | nil => rfl
  | append_singleton digits b ih =>
    rw [List.all_append, Bool.and_eq_true] at h
    have hb : isDigitByte b = true := by simpa using h.2
    obtain ⟨digit, rfl⟩ := exists_digitByte hb
    have hrest : (numberOfBytes 0 digits * 10 + digit) / 10 = numberOfBytes 0 digits := by omega
    have hlast : Fin.ofNat 10 (numberOfBytes 0 digits * 10 + digit) = digit := by
      apply Fin.ext
      rw [Fin.val_ofNat]
      omega
    rw [numberOfBytes_concat, digitOfByte_digitByte, List.length_append, List.length_singleton,
      decimal, hrest, hlast, ih h.1]

theorem decimal_append_inj {count m n : Nat} {rest more : List UInt8} (hm : m < 10 ^ count)
    (hn : n < 10 ^ count) (h : decimal count m ++ rest = decimal count n ++ more) :
    m = n ∧ rest = more := by
  have hlength : (decimal count m).length = (decimal count n).length := by
    rw [length_decimal, length_decimal]
  obtain ⟨hdigits, hrest⟩ := List.append_inj h hlength
  refine ⟨?_, hrest⟩
  rw [← numberOfBytes_decimal hm, hdigits, numberOfBytes_decimal hn]

theorem decimal_two_inj {m n : Nat} (hm : m < 100) (hn : n < 100) (h : decimal 2 m = decimal 2 n) :
    m = n := by
  have h : decimal 2 m ++ [] = decimal 2 n ++ [] := by rw [h]
  exact (decimal_append_inj hm hn h).1

theorem exists_decimal_two {a b : UInt8} (ha : isDigitByte a = true) (hb : isDigitByte b = true) :
    ∃ n < 100, decimal 2 n = [a, b] := by
  have hall : [a, b].all isDigitByte = true := by simp [ha, hb]
  exact ⟨numberOfBytes 0 [a, b], numberOfBytes_lt hall, decimal_numberOfBytes hall⟩

theorem isDigitByte_of_decimal {count n : Nat} {b : UInt8} {rest more : List UInt8}
    (h : decimal (count + 1) n ++ rest = b :: more) : isDigitByte b = true := by
  have hall := all_decimal (count + 1) n
  have hlength := length_decimal (count + 1) n
  cases hdigits : decimal (count + 1) n with
  | nil => simp [hdigits] at hlength
  | cons digit digits =>
    rw [hdigits, List.cons_append] at h
    rw [hdigits, List.all_cons, Bool.and_eq_true] at hall
    rw [← (List.cons.inj h).1]
    exact hall.1

theorem digits?_eq_some_iff {count n : Nat} {bytes rest : List UInt8} :
    digits? count bytes = some (n, rest) ↔ n < 10 ^ count ∧ bytes = decimal count n ++ rest := by
  rw [digits?]
  constructor
  · intro h
    split at h
    · next htake =>
      obtain ⟨hcount, hall⟩ := htake
      obtain ⟨rfl, rfl⟩ := Prod.mk.inj (Option.some.inj h)
      have hlt := numberOfBytes_lt hall
      have hdigits := decimal_numberOfBytes hall
      rw [hcount] at hlt hdigits
      exact ⟨hlt, by rw [hdigits, List.take_append_drop]⟩
    · cases h
  · rintro ⟨hn, rfl⟩
    have htake : (decimal count n ++ rest).take count = decimal count n := by
      rw [List.take_append_of_le_length (length_decimal count n).ge,
        List.take_of_length_le (length_decimal count n).le]
    have hdrop : (decimal count n ++ rest).drop count = rest := by
      rw [List.drop_append_of_le_length (length_decimal count n).ge,
        List.drop_of_length_le (length_decimal count n).le, List.nil_append]
    rw [if_pos (by rw [htake]; exact ⟨length_decimal count n, all_decimal count n⟩), htake, hdrop,
      numberOfBytes_decimal hn]

def valueOf (digits : List (Fin 10)) : Nat := Nat.ofDigits 10 (digits.reverse.map Fin.val)

/-- A fraction of a second in nanoseconds, rounded down. -/
def fractionNanoseconds (digits : List (Fin 10)) : Nat :=
  valueOf digits * 1000000000 / 10 ^ digits.length

theorem valueOf_append (front back : List (Fin 10)) :
    valueOf (front ++ back) = valueOf front * 10 ^ back.length + valueOf back := by
  rw [valueOf, valueOf, valueOf, List.reverse_append, List.map_append, Nat.ofDigits_append,
    List.length_map, List.length_reverse]
  ring

theorem valueOf_lt (digits : List (Fin 10)) : valueOf digits < 10 ^ digits.length := by
  have h := Nat.ofDigits_lt_base_pow_length (b := 10) (l := digits.reverse.map Fin.val) (by decide)
    (by simp [Fin.is_lt])
  rwa [List.length_map, List.length_reverse] at h

theorem valueOf_zeros (count : Nat) : valueOf (List.replicate count 0) = 0 := by
  induction count with
  | zero => rfl
  | succ count ih =>
    rw [List.replicate_succ', valueOf_append, ih]
    rfl

theorem numberOfBytes_digitBytes (digits : List (Fin 10)) :
    numberOfBytes 0 (digits.map digitByte) = valueOf digits := by
  induction digits using List.reverseRecOn with
  | nil => rfl
  | append_singleton digits digit ih =>
    rw [List.map_append, List.map_singleton, numberOfBytes_concat, ih, digitOfByte_digitByte,
      valueOf_append]
    simp [valueOf]

theorem nanoseconds_digitBytes (digits : List (Fin 10)) :
    nanoseconds (digits.map digitByte) = fractionNanoseconds digits := by
  have hkept : nanoseconds (digits.map digitByte) =
      valueOf (digits.take 9) * 10 ^ (9 - (digits.take 9).length) := by
    have hzeros (count : Nat) :
        List.replicate count 48 = (List.replicate count (0 : Fin 10)).map digitByte := by
      rw [List.map_replicate]
      rfl
    simp only [nanoseconds]
    rw [← List.map_take, List.length_map, hzeros, ← List.map_append, numberOfBytes_digitBytes,
      valueOf_append, valueOf_zeros, List.length_replicate, Nat.add_zero]
  rw [hkept, fractionNanoseconds]
  by_cases hshort : digits.length ≤ 9
  · have hpower : 1000000000 = 10 ^ (9 - digits.length) * 10 ^ digits.length := by
      rw [← Nat.pow_add, Nat.sub_add_cancel hshort]
    rw [List.take_of_length_le hshort, hpower, ← Nat.mul_assoc,
      Nat.mul_div_cancel _ (Nat.pow_pos (by decide))]
  · -- The digits behind the ninth are worth less than one nanosecond.
    have hfront : (digits.take 9).length = 9 := by
      rw [List.length_take]
      omega
    have hvalue := valueOf_append (digits.take 9) (digits.drop 9)
    have hback := valueOf_lt (digits.drop 9)
    have hlength : digits.length = (digits.drop 9).length + 9 := by
      rw [List.length_drop]
      omega
    have hpower : 0 < 10 ^ (digits.drop 9).length := Nat.pow_pos (by decide)
    rw [List.take_append_drop] at hvalue
    rw [hvalue, hfront, hlength, Nat.pow_add, Nat.mul_div_mul_right _ _ (by decide),
      Nat.mul_comm _ (10 ^ (digits.drop 9).length), Nat.mul_add_div hpower,
      Nat.div_eq_of_lt hback]
    omega

def fractionBytes : List (Fin 10) → List UInt8
  | [] => []
  | digit :: digits => 46 :: (digit :: digits).map digitByte

def EndsFraction (bytes : List UInt8) : Prop :=
  ∀ b ∈ bytes.head?, isDigitByte b = false ∧ b ≠ 46

theorem exists_digitBytes {bytes : List UInt8} (h : bytes.all isDigitByte = true) :
    ∃ digits : List (Fin 10), digits.map digitByte = bytes := by
  induction bytes with
  | nil => exact ⟨[], rfl⟩
  | cons b bytes ih =>
    rw [List.all_cons, Bool.and_eq_true] at h
    obtain ⟨digit, rfl⟩ := exists_digitByte h.1
    obtain ⟨digits, rfl⟩ := ih h.2
    exact ⟨digit :: digits, rfl⟩

theorem takeWhile_digitBytes (digits : List (Fin 10)) {rest : List UInt8} (h : EndsFraction rest) :
    (digits.map digitByte ++ rest).takeWhile isDigitByte = digits.map digitByte := by
  have hdigits : ∀ b ∈ digits.map digitByte, isDigitByte b = true := by
    simp [isDigitByte_digitByte]
  have hrest : rest.takeWhile isDigitByte = [] := by
    cases rest with
    | nil => rfl
    | cons b rest => rw [List.takeWhile_cons, (h b rfl).1, if_neg Bool.false_ne_true]
  rw [List.takeWhile_append_of_pos hdigits, hrest, List.append_nil]

theorem dropWhile_digitBytes (digits : List (Fin 10)) {rest : List UInt8} (h : EndsFraction rest) :
    (digits.map digitByte ++ rest).dropWhile isDigitByte = rest := by
  have hsplit := List.takeWhile_append_dropWhile (p := isDigitByte) (l := digits.map digitByte ++ rest)
  rw [takeWhile_digitBytes digits h] at hsplit
  exact List.append_cancel_left hsplit

theorem exists_of_readFraction {bytes rest : List UInt8} {n : Nat}
    (h : readFraction bytes = .ok (n, rest)) :
    ∃ digits, bytes = fractionBytes digits ++ rest ∧ fractionNanoseconds digits = n := by
  unfold readFraction at h
  split at h
  · next after =>
    split at h
    · cases h
    · next digits hdigits =>
      obtain ⟨rfl, rfl⟩ := Prod.mk.inj (Except.ok.inj h)
      obtain ⟨kept, hkept⟩ := exists_digitBytes (List.all_takeWhile (p := isDigitByte) (l := after))
      refine ⟨kept, ?_, by rw [← nanoseconds_digitBytes, hkept]⟩
      have hsplit := List.takeWhile_append_dropWhile (p := isDigitByte) (l := after)
      rw [← hkept] at hsplit hdigits
      cases kept with
      | nil => exact absurd rfl hdigits
      | cons digit kept => rw [fractionBytes, List.cons_append, hsplit]
  · obtain ⟨rfl, rfl⟩ := Prod.mk.inj (Except.ok.inj h)
    exact ⟨[], rfl, rfl⟩

theorem readFraction_fractionBytes (digits : List (Fin 10)) {rest : List UInt8}
    (h : EndsFraction rest) : readFraction (fractionBytes digits ++ rest) =
      .ok (fractionNanoseconds digits, rest) := by
  cases digits with
  | nil =>
    cases rest with
    | nil => rfl
    | cons b rest =>
      have hb : b ≠ 46 := (h b rfl).2
      simp only [fractionBytes, List.nil_append]
      unfold readFraction
      split
      · next heq => exact absurd (List.cons.inj heq).1 hb
      · rfl
  | cons digit digits =>
    simp only [fractionBytes, List.cons_append, readFraction]
    rw [takeWhile_digitBytes _ h, dropWhile_digitBytes _ h, ← nanoseconds_digitBytes]
    rfl

theorem fractionBytes_append_inj {digits others : List (Fin 10)} {rest more : List UInt8}
    (hrest : EndsFraction rest) (hmore : EndsFraction more)
    (h : fractionBytes digits ++ rest = fractionBytes others ++ more) :
    digits = others ∧ rest = more := by
  cases digits with
  | nil =>
    cases others with
    | nil => exact ⟨rfl, h⟩
    | cons digit others =>
      rw [fractionBytes, List.nil_append] at h
      exact absurd rfl (hrest 46 (by rw [h]; rfl)).2
  | cons digit digits =>
    cases others with
    | nil =>
      rw [fractionBytes, fractionBytes, List.nil_append] at h
      exact absurd rfl (hmore 46 (by rw [← h]; rfl)).2
    | cons other others =>
      have htail : (digit :: digits).map digitByte ++ rest =
          (other :: others).map digitByte ++ more := (List.cons.inj h).2
      have hdigits := takeWhile_digitBytes (digit :: digits) hrest
      have hlast := dropWhile_digitBytes (digit :: digits) hrest
      rw [htail, takeWhile_digitBytes _ hmore] at hdigits
      rw [htail, dropWhile_digitBytes _ hmore] at hlast
      exact ⟨(List.map_injective_iff.2 digitByte_injective hdigits).symm, hlast.symm⟩

end ElementMetadata.Timestamp
