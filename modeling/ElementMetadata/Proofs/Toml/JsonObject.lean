import ElementMetadata.Toml.Parser
import ElementMetadata.Proofs.Json.Depth

/-!
No text is both a TOML document and a JSON object. The first character of an object that is no blank
is its brace, and no statement of a document begins with one.
-/
namespace ElementMetadata

namespace Json
variable {members : List (String × Json)}

theorem skipBlanks_of_readValue {depth : Nat} {text rest : List Char}
    (h : (readValue depth text : Scan SyntaxFault _) = .ok (.object members, rest)) :
    ∃ rest, skipBlanks text = '\x7b' :: rest := by
  unfold readValue at h
  split at h
  case h_4 _ behind htext => exact ⟨behind, htext⟩
  case h_8 =>
    split at h
    · cases isNumber_of_readNumber h
    · cases h
  case h_3 =>
    split at h
    · cases h
    · obtain ⟨_, -, h⟩ := map_eq_ok_iff.1 h
      cases h
  case h_1 => cases h
  all_goals
    obtain ⟨_, -, h⟩ := map_eq_ok_iff.1 h
    cases h

theorem skipBlanks_of_parse {text : String} (h : parse text = .ok (.object members)) :
    ∃ rest, skipBlanks text.toList = '\x7b' :: rest := by
  obtain ⟨w, rest, hread, -, hv⟩ := parse_eq_ok_iff.1 h
  cases w with
  | object raw => exact skipBlanks_of_readValue hread
  | _ => cases hv

end Json

namespace Toml
variable {text rest : List Char}

theorem json_isBlank_of_isBlank {c : Char} (h : isBlank c = true) : Json.isBlank c = true := by
  obtain h | h := Bool.or_eq_true_iff.1 h <;> rw [beq_iff_eq.1 h] <;> rfl

theorem json_skipBlanks_cons {c : Char} (h : Json.isBlank c = true) (text : List Char) :
    Json.skipBlanks (c :: text) = Json.skipBlanks text := List.dropWhile_cons_of_pos h

theorem json_skipBlanks_skipBlanks (text : List Char) :
    Json.skipBlanks (skipBlanks text) = Json.skipBlanks text := by
  induction text with
  | nil => rfl
  | cons c text ih =>
    by_cases hblank : isBlank c
    · rw [skipBlanks, List.dropWhile_cons_of_pos hblank,
        json_skipBlanks_cons (json_isBlank_of_isBlank hblank)]
      exact ih
    · rw [skipBlanks, List.dropWhile_cons_of_neg hblank]

theorem afterLine?_newline : afterLine? ('\n' :: rest) = some rest := rfl

theorem afterLine?_return {behind : List Char} (h : afterLine? ('\r' :: rest) = some behind) :
    rest = '\n' :: behind := by
  change afterBreak? ('\r' :: rest) = some behind at h
  unfold afterBreak? at h
  split at h <;> simp_all

theorem readStatement_brace : readStatement ('\x7b' :: rest) = none := rfl

theorem eq_newline_or_return {c : Char} (h : Json.isBlank c = true) (hnot : isBlank c = false) :
    c = '\n' ∨ c = '\r' := by
  simp only [Json.isBlank, Bool.or_eq_true, beq_iff_eq] at h
  obtain ((rfl | rfl) | rfl) | rfl := h
  · cases hnot
  · exact .inl rfl
  · cases hnot
  · exact .inr rfl

/-- What begins with a brace, behind blanks of JSON, is no sequence of statements. -/
theorem readStatements_eq_none (fuel : Nat) (h : Json.skipBlanks text = '\x7b' :: rest) :
    readStatements fuel text = none := by
  induction fuel generalizing text with
  | zero => rfl
  | succ fuel ih =>
    rw [← json_skipBlanks_skipBlanks] at h
    rw [readStatements]
    cases htext : skipBlanks text with
    | nil =>
      rw [htext] at h
      cases h
    | cons c behind =>
      rw [htext] at h
      have hnot : isBlank c = false := by
        have hhead := List.head?_dropWhile_not isBlank text
        rw [← skipBlanks, htext] at hhead
        simpa using hhead
      -- A blank of JSON alone breaks a line, and the brace is on a line behind it.
      by_cases hblank : Json.isBlank c
      · rw [json_skipBlanks_cons hblank] at h
        obtain rfl | rfl := eq_newline_or_return hblank hnot
        · simpa [afterLine?_newline] using ih h
        · simp only [or_true, if_true, Option.bind_eq_none_iff]
          intro next hline
          obtain rfl := afterLine?_return hline
          exact ih h
      · rw [Json.skipBlanks, List.dropWhile_cons_of_neg hblank] at h
        obtain ⟨rfl, rfl⟩ := List.cons.inj h
        simp [readStatement_brace]

theorem parse_ne_object {text : String} {entries : Entries} (h : parse text = some entries)
    (members : List (String × Json)) : Json.parse text ≠ .ok (.object members) := by
  intro hjson
  obtain ⟨rest, hfront⟩ := Json.skipBlanks_of_parse hjson
  have hmark : ∀ behind, text.toList ≠ '\ufeff' :: behind := by
    intro behind hbehind
    rw [hbehind] at hfront
    cases hfront
  have hstatements := readStatements_eq_none (text.toList.length + 1) hfront
  unfold parse at h
  split at h
  · next behind hbehind => exact hmark behind hbehind
  · dsimp only at h
    rw [hstatements] at h
    cases h

end Toml
end ElementMetadata
