import ElementMetadata.Text.Split
import Mathlib.Data.List.Basic

/-!
Where a text can be taken apart. Parting it after so many bytes succeeds exactly if they are those
of its first characters, and it can be parted before a byte that begins a character.
-/
namespace ElementMetadata

@[simp] theorem utf8_nil : utf8 [] = [] := rfl

theorem utf8_cons (c : Char) (text : List Char) :
    utf8 (c :: text) = String.utf8EncodeChar c ++ utf8 text := List.flatMap_cons

@[simp] theorem utf8_append (text more : List Char) :
    utf8 (text ++ more) = utf8 text ++ utf8 more := List.flatMap_append

theorem length_utf8_cons (c : Char) (text : List Char) :
    (utf8 (c :: text)).length = c.utf8Size + (utf8 text).length := by
  rw [utf8_cons, List.length_append, String.length_utf8EncodeChar]

theorem toUTF8_toList (text : String) : text.toUTF8.data.toList = utf8 text.toList := by
  rw [String.toUTF8_eq_toByteArray, ← String.utf8Encode_toList, List.utf8Encode,
    List.data_toByteArray, utf8]

theorem length_utf8_toList (text : String) : (utf8 text.toList).length = text.utf8ByteSize := by
  rw [← toUTF8_toList, Array.length_toList, ← String.size_toByteArray]
  rfl

theorem splitBytes?_append (front rest : List Char) :
    splitBytes? (utf8 front).length (front ++ rest) = some (front, rest) := by
  induction front with
  | nil => simp [splitBytes?]
  | cons c front ih =>
    obtain ⟨n, hn⟩ := Nat.exists_eq_add_one.2 c.utf8Size_pos
    have hlength : (utf8 (c :: front)).length = n + (utf8 front).length + 1 := by
      rw [length_utf8_cons, hn, Nat.add_right_comm]
    have hrest : n + (utf8 front).length + 1 - c.utf8Size = (utf8 front).length := by omega
    rw [hlength, List.cons_append, splitBytes?, if_pos (by omega), hrest, ih]
    rfl

theorem splitBytes?_eq_some_iff {n : Nat} {text front rest : List Char} :
    splitBytes? n text = some (front, rest) ↔ front ++ rest = text ∧ (utf8 front).length = n := by
  constructor
  · intro h
    fun_induction splitBytes? n text generalizing front with
    | case1 text =>
      obtain ⟨rfl, rfl⟩ := Prod.mk.inj (Option.some.inj h)
      exact ⟨rfl, rfl⟩
    | case2 => cases h
    | case3 n c text hfits ih =>
      obtain ⟨⟨part, more⟩, hpart, heq⟩ := Option.map_eq_some_iff.1 h
      obtain ⟨rfl, rfl⟩ := Prod.mk.inj heq
      obtain ⟨rfl, hlength⟩ := ih hpart
      exact ⟨rfl, by rw [length_utf8_cons]; omega⟩
    | case4 => cases h
  · rintro ⟨rfl, rfl⟩
    exact splitBytes?_append front rest

theorem cutAt_eq_ok_iff {n : Nat} {text front rest : List Char} :
    cutAt text n = .ok (front, rest) ↔ front ++ rest = text ∧ (utf8 front).length = n := by
  rw [← splitBytes?_eq_some_iff, cutAt]
  cases splitBytes? n text <;> simp

/-- The second byte of a character is no place to part a text before. -/
example : cutAt "né".toList 2 = .error .withinCharacter := rfl

theorem exists_append_of_isUTF8FirstByte {text : List Char} {before behind : List UInt8} {b : UInt8}
    (hb : b.IsUTF8FirstByte) (h : utf8 text = before ++ b :: behind) :
    ∃ front rest, front ++ rest = text ∧ utf8 front = before ∧ utf8 rest = b :: behind := by
  induction text generalizing before with
  | nil => simp at h
  | cons c text ih =>
    rw [utf8_cons, List.append_eq_append_iff] at h
    obtain ⟨more, rfl, hmore⟩ | ⟨more, hc, hmore⟩ := h
    · obtain ⟨front, rest, rfl, rfl, hrest⟩ := ih hmore
      exact ⟨c :: front, rest, rfl, utf8_cons c front, hrest⟩
    · cases more with
      | nil => exact ⟨[c], text, rfl, by simp [utf8, hc], hmore.symm⟩
      | cons first more =>
        obtain ⟨rfl, rfl⟩ := List.cons.inj hmore
        -- Only the first byte of a character begins one.
        have hplace : before.length < (String.utf8EncodeChar c).length := by simp [hc]
        have hget : (String.utf8EncodeChar c)[before.length] = b := by simp [hc]
        rw [← hget, UInt8.isUTF8FirstByte_getElem_utf8EncodeChar, List.length_eq_zero_iff] at hb
        subst hb
        exact ⟨[], c :: text, rfl, rfl, by rw [utf8_cons, hc]; rfl⟩

end ElementMetadata
