import ElementMetadata.Json.Parser
import ElementMetadata.Json.Printer
import ElementMetadata.Proofs.Record.Form

/-!
Strings in quotes. Reading takes back what writing escapes, and nothing that is written is a control
character, whatever the string.
-/
namespace ElementMetadata.Json
variable {ε : Type} [FromSyntax ε] (c : Char) (value : String) (rest : List Char)

theorem isControl_hexDigit {n : Nat} (h : n < 16) : isControl (hexDigit n) = false := by
  revert n
  decide

theorem isControl_of_mem_escapeChar : ∀ d ∈ escapeChar c, isControl d = false := by
  fun_cases escapeChar c with
  | case8 _ _ _ _ _ _ _ _ hcontrol =>
    have hhigh := isControl_hexDigit (n := c.toNat / 16) (by omega)
    have hlow := isControl_hexDigit (n := c.toNat % 16) (by omega)
    have hmarks : isControl '\\' = false ∧ isControl 'u' = false ∧ isControl '0' = false := by decide
    simp [hhigh, hlow, hmarks]
  | case9 _ _ _ _ _ _ _ _ hplain => simpa [isControl] using hplain
  | _ => simp [isControl]

theorem hexUnit?_hexDigit {n : Nat} (h : n < 32) :
    hexUnit? '0' '0' (hexDigit (n / 16)) (hexDigit (n % 16)) = some n := by
  revert n
  decide

theorem readChars_escapeChar : (readChars (escapeChar c ++ rest) : Scan ε _) =
    (readChars rest).map fun read => (c :: read.1, read.2) := by
  fun_cases escapeChar c with
  | case8 _ _ _ _ _ _ _ _ hcontrol =>
    have hunit := hexUnit?_hexDigit hcontrol
    have hlow : isLowSurrogate c.toNat = false := by
      simp [isLowSurrogate]
      omega
    have hhigh : isHighSurrogate c.toNat = false := by
      simp [isHighSurrogate]
      omega
    simp [readChars, hunit, hlow, hhigh]
  | case9 _ hquote hbackslash _ _ _ _ _ hplain =>
    rw [List.singleton_append, readChars]
    · simp [isControl, hplain]
    -- The equations before this one are for a quote and a backslash.
    all_goals simp +contextual [hquote, hbackslash]
  | _ => simp [readChars, escaped?]

theorem readChars_escaped (text : List Char) :
    (readChars (text.flatMap escapeChar ++ '\"' :: rest) : Scan ε _) = .ok (text, rest) := by
  induction text with
  | nil => rw [List.flatMap_nil, List.nil_append, readChars]
  | cons c text ih =>
    rw [List.flatMap_cons, List.append_assoc, readChars_escapeChar, ih]
    rfl

theorem readString_escaped :
    (readString (value.toList.flatMap escapeChar ++ '\"' :: rest) : Scan ε _) = .ok (value, rest) := by
  rw [readString, readChars_escaped]
  simp [Except.map]

theorem readValue_string (depth : Nat) :
    (readValue depth ('\"' :: (value.toList.flatMap escapeChar ++ '\"' :: rest)) : Scan ε _) =
      .ok (.string value, rest) := by
  unfold readValue
  change Except.map _ (readString _) = _
  rw [readString_escaped]
  rfl

end ElementMetadata.Json
