import ElementMetadata.Proofs.Text.Split
import ElementMetadata.Proofs.Time.Timestamp
import ElementMetadata.Time.OffsetColon

/-!
Texts that end in an offset without a colon. The colon is put in without a step at a wrong place,
whatever characters stand before the offset. Such a text is of none of the other forms, so that it
means what it means with the colon, or nothing.
-/
namespace ElementMetadata.Timestamp

def EndsInCompactOffset (bytes : List UInt8) : Prop :=
  ∃ head sign digits, head ++ sign :: digits = bytes ∧ (sign = 43 ∨ sign = 45) ∧
    digits.length = 4 ∧ ∀ b ∈ digits, 48 ≤ b ∧ b ≤ 57

/-- The other text is the one with a colon in front of its last two bytes. -/
def ColonInserted (raw text : String) : Prop :=
  ∃ front back : String, front ++ back = raw ∧ back.utf8ByteSize = 2 ∧ front ++ ":" ++ back = text

variable {head : List UInt8} {sign : NumberSign} {hours minutes : Nat}

theorem isDigitByte_iff {b : UInt8} : isDigitByte b = true ↔ 48 ≤ b ∧ b ≤ 57 := by
  simp [isDigitByte]

theorem NumberSign.byte_eq_or (sign : NumberSign) : sign.byte = 43 ∨ sign.byte = 45 := by
  cases sign <;> decide

theorem all_decimal_append (hours minutes : Nat) :
    (decimal 2 hours ++ decimal 2 minutes).all isDigitByte = true := by
  rw [List.all_append, all_decimal, all_decimal]
  rfl

theorem endsInCompactOffset_iff {bytes : List UInt8} : EndsInCompactOffset bytes ↔
    ∃ head sign hours minutes, hours < 100 ∧ minutes < 100 ∧
      head ++ compactOffset sign hours minutes = bytes := by
  constructor
  · rintro ⟨head, b, digits, rfl, hsign, hlength, hdigits⟩
    obtain ⟨sign, rfl⟩ := NumberSign.exists_byte hsign
    obtain ⟨a₁, a₂, a₃, a₄, rfl⟩ := List.length_eq_four.1 hlength
    simp only [← isDigitByte_iff, List.mem_cons, List.not_mem_nil, or_false, forall_eq_or_imp,
      forall_eq] at hdigits
    obtain ⟨h₁, h₂, h₃, h₄⟩ := hdigits
    obtain ⟨hours, hhours, hpair⟩ := exists_decimal_two h₁ h₂
    obtain ⟨minutes, hminutes, hpair'⟩ := exists_decimal_two h₃ h₄
    exact ⟨head, sign, hours, minutes, hhours, hminutes, by simp [compactOffset, hpair, hpair']⟩
  · rintro ⟨head, sign, hours, minutes, -, -, rfl⟩
    refine ⟨head, sign.byte, decimal 2 hours ++ decimal 2 minutes, rfl, sign.byte_eq_or,
      by simp [length_decimal], fun b hb => ?_⟩
    exact isDigitByte_iff.1 (List.all_eq_true.1 (all_decimal_append hours minutes) b hb)

theorem isSome_withOffsetColon?_iff {bytes : List UInt8} :
    (withOffsetColon? bytes).isSome = true ↔ EndsInCompactOffset bytes := by
  simp only [Option.isSome_iff_exists, endsInCompactOffset_iff, withOffsetColon?_eq_some_iff]
  constructor
  · rintro ⟨_, head, sign, hours, minutes, hhours, hminutes, hbytes, -⟩
    exact ⟨head, sign, hours, minutes, hhours, hminutes, hbytes⟩
  · rintro ⟨head, sign, hours, minutes, hhours, hminutes, hbytes⟩
    exact ⟨_, head, sign, hours, minutes, hhours, hminutes, hbytes, rfl⟩

/-! What such a text is not. -/

theorem append_compactOffset_ne (more : List UInt8) (m n : Nat) (mark : UInt8) :
    more ++ (decimal 2 m ++ mark :: decimal 2 n) ≠ head ++ compactOffset sign hours minutes := by
  intro h
  have hlength : (decimal 2 m ++ mark :: decimal 2 n).length =
      (compactOffset sign hours minutes).length := by simp [length_compactOffset, length_decimal]
  have hdigit := isDigitByte_of_decimal (List.append_inj' h hlength).2
  cases sign <;> cases hdigit

theorem ofFullForm_compactOffset_ne (t : Timestamp) :
    ofFullForm (head ++ compactOffset sign hours minutes) ≠ .ok t := by
  intro h
  obtain ⟨m, zone, -, -, hbytes, -⟩ := ofFullForm_eq_ok_iff.1 h
  cases zone with
  | letter small =>
    -- The last byte is a letter on the left and a digit on the right.
    have hlast : (if small then 122 else 90) = digitByte (Fin.ofNat 10 minutes) := by
      simpa [Zone.bytes, compactOffset, decimal] using congrArg List.getLast? hbytes
    have hdigit := isDigitByte_digitByte (Fin.ofNat 10 minutes)
    rw [← hlast] at hdigit
    cases small <;> cases hdigit
  | offset other moreHours moreMinutes =>
    apply append_compactOffset_ne (m.bytes ++ [other.byte]) moreHours moreMinutes colon
    simpa [Zone.bytes] using hbytes

theorem ofPlainDate?_compactOffset :
    ofPlainDate? (head ++ compactOffset sign hours minutes) = none := by
  rw [Option.eq_none_iff_forall_ne_some]
  intro t h
  obtain ⟨first, year, month, day, -, hbytes, -⟩ := ofPlainDate?_eq_some_iff.1 h
  apply append_compactOffset_ne (first.toList.map NumberSign.byte ++ (decimal 4 year ++ [hyphen]))
    month day hyphen
  simpa [Spelling.bytes] using hbytes

theorem parse_of_withOffsetColon? {raw : String} {more : List UInt8}
    (h : withOffsetColon? raw.toUTF8.data.toList = some more) :
    ∃ reason, ofFullForm raw.toUTF8.data.toList = .error reason ∧
      ofPlainDate? raw.toUTF8.data.toList = none ∧
      parse raw = (ofFullForm more).mapError fun _ => ⟨raw, reason⟩ := by
  obtain ⟨head, sign, hours, minutes, -, -, hbytes, -⟩ := withOffsetColon?_eq_some_iff.1 h
  have hplain : ofPlainDate? raw.toUTF8.data.toList = none := hbytes ▸ ofPlainDate?_compactOffset
  cases hfull : ofFullForm raw.toUTF8.data.toList with
  | ok t =>
    rw [← hbytes] at hfull
    exact absurd hfull (ofFullForm_compactOffset_ne t)
  | error reason =>
    refine ⟨reason, rfl, hplain, ?_⟩
    simp only [parse, hfull, h, hplain, Option.bind_some]
    cases ofFullForm more <;> rfl

/-! Putting the colon in. -/

theorem isUTF8FirstByte_byte (sign : NumberSign) : sign.byte.IsUTF8FirstByte := by
  cases sign <;> decide

theorem isUTF8FirstByte_digitByte : ∀ digit, (digitByte digit).IsUTF8FirstByte := by decide

theorem insertOffsetColon_eq {raw : String} {head offset : List Char} {sign : UInt8}
    {digits : List UInt8} (hraw : head ++ offset = raw.toList)
    (hoffset : utf8 offset = sign :: digits) (hdigits : digits.length = 4) :
    insertOffsetColon raw =
      if (sign = 43 ∨ sign = 45) ∧ digits.all isDigitByte then
        (cutAt offset 3).map fun parts => some (String.ofList (head ++ parts.1 ++ ':' :: parts.2))
      else .ok none := by
  have hsize : raw.utf8ByteSize = (utf8 head).length + 5 := by
    rw [← length_utf8_toList, ← hraw, utf8_append, hoffset, List.length_append, List.length_cons,
      hdigits]
  have hparts : splitBytes? (raw.utf8ByteSize - 5) raw.toList = some (head, offset) := by
    rw [splitBytes?_eq_some_iff, hsize]
    exact ⟨hraw, rfl⟩
  have hsign : byteAt (utf8 offset) 0 = .ok sign := by rw [hoffset, byteAt, List.getElem?_cons_zero]
  have hrest : bytesFrom (utf8 offset) 1 = .ok digits := by
    rw [hoffset, bytesFrom, if_neg (by simp), List.drop_one, List.tail_cons]
  rw [insertOffsetColon, if_neg (by omega), hparts, ite_and]
  simp only [hsign, hrest]
  cases cutAt offset 3 <;> rfl

/-- The characters of the offset: a sign and a digit begin one, so the text can be parted there. -/
theorem exists_toList_of_compactOffset {raw : String} {before : List UInt8}
    (h : before ++ compactOffset sign hours minutes = raw.toUTF8.data.toList) :
    ∃ head front back, head ++ (front ++ back) = raw.toList ∧ utf8 head = before ∧
      utf8 front = sign.byte :: decimal 2 hours ∧ utf8 back = decimal 2 minutes := by
  rw [toUTF8_toList] at h
  obtain ⟨head, offset, hraw, hhead, hoffset⟩ :=
    exists_append_of_isUTF8FirstByte (isUTF8FirstByte_byte sign) h.symm
  have hminutes : utf8 offset = (sign.byte :: decimal 2 hours) ++
      digitByte (Fin.ofNat 10 (minutes / 10)) :: [digitByte (Fin.ofNat 10 minutes)] := hoffset
  obtain ⟨front, back, rfl, hfront, hback⟩ :=
    exists_append_of_isUTF8FirstByte (isUTF8FirstByte_digitByte _) hminutes
  exact ⟨head, front, back, hraw, hhead, hfront, hback⟩

theorem insertOffsetColon_of_compactOffset {raw : String} {before : List UInt8}
    (h : before ++ compactOffset sign hours minutes = raw.toUTF8.data.toList) :
    ∃ text, insertOffsetColon raw = .ok (some text) ∧ ColonInserted raw text ∧
      text.toUTF8.data.toList = before ++ (Zone.offset sign hours minutes).bytes := by
  obtain ⟨head, front, back, hraw, hhead, hfront, hback⟩ := exists_toList_of_compactOffset h
  have hoffset : utf8 (front ++ back) = sign.byte :: (decimal 2 hours ++ decimal 2 minutes) := by
    rw [utf8_append, hfront, hback, List.cons_append]
  have hcut : cutAt (front ++ back) 3 = .ok (front, back) := by
    rw [cutAt_eq_ok_iff, hfront, List.length_cons, length_decimal]
    exact ⟨rfl, rfl⟩
  have hcolon : utf8 (':' :: back) = colon :: decimal 2 minutes := by
    rw [utf8_cons, hback]
    rfl
  refine ⟨String.ofList (head ++ front ++ ':' :: back), ?_,
    ⟨String.ofList (head ++ front), String.ofList back, ?_, ?_, ?_⟩, ?_⟩
  · rw [insertOffsetColon_eq hraw hoffset (by simp [length_decimal]),
      if_pos ⟨sign.byte_eq_or, all_decimal_append hours minutes⟩, hcut]
    rfl
  · rw [← String.ofList_append, List.append_assoc, hraw, String.ofList_toList]
  · rw [← length_utf8_toList, String.toList_ofList, hback, length_decimal]
  · simp [String.ofList_append, String.append_assoc]
  · rw [toUTF8_toList, String.toList_ofList, utf8_append, utf8_append, hhead, hfront, hcolon,
      List.append_assoc]
    rfl

theorem insertOffsetColon_of_not {raw : String}
    (h : ¬EndsInCompactOffset raw.toUTF8.data.toList) : insertOffsetColon raw = .ok none := by
  by_cases hsize : raw.utf8ByteSize < 5
  · rw [insertOffsetColon, if_pos hsize]
  cases hparts : splitBytes? (raw.utf8ByteSize - 5) raw.toList with
  | none => rw [insertOffsetColon, if_neg hsize, hparts]
  | some parts =>
    obtain ⟨head, offset⟩ := parts
    obtain ⟨hraw, hhead⟩ := splitBytes?_eq_some_iff.1 hparts
    have hlength : (utf8 offset).length = 4 + 1 := by
      have hbytes := length_utf8_toList raw
      rw [← hraw, utf8_append, List.length_append] at hbytes
      omega
    obtain ⟨sign, digits, hoffset⟩ := List.exists_cons_of_length_eq_add_one hlength
    have hdigits : digits.length = 4 := by simpa [hoffset] using hlength
    rw [insertOffsetColon_eq hraw hoffset hdigits, if_neg]
    rintro ⟨hsign, hall⟩
    apply h
    refine ⟨utf8 head, sign, digits, ?_, hsign, hdigits, fun b hb => ?_⟩
    · rw [toUTF8_toList, ← hraw, utf8_append, hoffset]
    · exact isDigitByte_iff.1 (List.all_eq_true.1 hall b hb)

/-- The byte before the digits is the second of a character. -/
example : insertOffsetColon "né0000" = .ok none := rfl

theorem exists_insertOffsetColon (raw : String) :
    ∃ rewritten : Option String, insertOffsetColon raw = .ok rewritten ∧
      rewritten.map (·.toUTF8.data.toList) = withOffsetColon? raw.toUTF8.data.toList ∧
      ∀ text, rewritten = some text → ColonInserted raw text := by
  by_cases h : EndsInCompactOffset raw.toUTF8.data.toList
  · obtain ⟨head, sign, hours, minutes, hhours, hminutes, hbytes⟩ := endsInCompactOffset_iff.1 h
    obtain ⟨text, hrun, hinserted, htext⟩ := insertOffsetColon_of_compactOffset hbytes
    refine ⟨some text, hrun, (withOffsetColon?_eq_some_iff.2 ?_).symm, ?_⟩
    · exact ⟨head, sign, hours, minutes, hhours, hminutes, hbytes, htext.symm⟩
    · rintro _ ⟨⟩
      exact hinserted
  · have hnone : withOffsetColon? raw.toUTF8.data.toList = none := by
      rwa [← isSome_withOffsetColon?_iff, Option.not_isSome_iff_eq_none] at h
    exact ⟨none, insertOffsetColon_of_not h, hnone.symm, nofun⟩

/-- Putting the colon in takes no step at a wrong place, whatever the text. It changes exactly the
texts that end in an offset without a colon, and only by the colon. These are of neither of the
other forms: such a text is read as the one with the colon, and if that is refused, then for the
reason why the text itself is not of the first form. -/
theorem compact_offset_is_read_with_colon (raw : String) :
    ∃ rewritten : Option String, insertOffsetColon raw = .ok rewritten ∧
      rewritten.map (·.toUTF8.data.toList) = withOffsetColon? raw.toUTF8.data.toList ∧
      (rewritten.isSome = true ↔ EndsInCompactOffset raw.toUTF8.data.toList) ∧
      ∀ text, rewritten = some text → ColonInserted raw text ∧
        ∃ reason, ofFullForm raw.toUTF8.data.toList = .error reason ∧
          ofPlainDate? raw.toUTF8.data.toList = none ∧
          parse raw = (ofFullForm text.toUTF8.data.toList).mapError fun _ => ⟨raw, reason⟩ := by
  obtain ⟨rewritten, hrun, hbytes, hinserted⟩ := exists_insertOffsetColon raw
  refine ⟨rewritten, hrun, hbytes, ?_, fun text htext => ⟨hinserted text htext, ?_⟩⟩
  · rw [← isSome_withOffsetColon?_iff, ← hbytes, Option.isSome_map]
  · rw [htext, Option.map_some] at hbytes
    exact parse_of_withOffsetColon? hbytes.symm

/-- The thirtieth of February is refused for the colon that it lacks, not for its day. -/
theorem thirtieth_of_february_is_refused_as_written : ∃ text,
    insertOffsetColon "2022-02-30T00:00:00+0000" = .ok (some text) ∧
    ofFullForm text.toUTF8.data.toList = .error (.outOfRange .day) ∧
    parse "2022-02-30T00:00:00+0000" = .error ⟨"2022-02-30T00:00:00+0000", .wrongMark⟩ := by
  have hrun : insertOffsetColon "2022-02-30T00:00:00+0000" =
      .ok (some "2022-02-30T00:00:00+00:00") := rfl
  obtain ⟨rewritten, hsame, -, -, hread⟩ :=
    compact_offset_is_read_with_colon "2022-02-30T00:00:00+0000"
  obtain rfl := Except.ok.inj (hrun.symm.trans hsame)
  obtain ⟨-, reason, hreason, -, hparse⟩ := hread _ rfl
  obtain rfl : .wrongMark = reason := Except.error.inj hreason
  exact ⟨_, hrun, rfl, hparse⟩

end ElementMetadata.Timestamp
