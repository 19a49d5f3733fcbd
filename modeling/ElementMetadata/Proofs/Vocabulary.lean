import ElementMetadata.Proofs.Wire
import ElementMetadata.Resolution

/-!
Vocabularies are faithful to the wire: what is read from a string goes back as that string, listed
or not, and no two strings are taken for one another. So what an element links is told by the string
of its type alone.
-/
namespace ElementMetadata

/-- Strings are kept apart and given back. What is not read from its own string is a listed word's
string that is kept as an unlisted one. -/
structure Wire.Faithful (α : Type) [Vocabulary α] : Prop where
  toString_ofString (s : String) : (ofString s : Wire α).toString = s
  shown_ofString (s : String) : ToString.toString (ofString s : Wire α) = s
  toJson_ofString (s : String) : (ofString s : Wire α).toJson = .string s
  read_string (s : String) : Codec.read (.string s) = .ok (ofString s : Wire α)
  ofString_inj (s t : String) : (ofString s : Wire α) = ofString t ↔ s = t
  ofString_toString (w : Wire α) :
    ofString w.toString = w ↔ ¬∃ word : α, w = .other (Vocabulary.wire word)

theorem Wire.faithful (α : Type) [Vocabulary α] : Faithful α where
  toString_ofString := Wire.toString_ofString
  shown_ofString := Wire.toString_ofString
  toJson_ofString s := congrArg Json.string (Wire.toString_ofString s)
  read_string _ := rfl
  ofString_inj _ _ := Wire.ofString_inj
  ofString_toString _ := Wire.ofString_toString_iff.trans Wire.proper_iff

namespace ElementType

/-- What an element of this type links besides jobs, kind by kind. -/
def links (type : Wire ElementType) : List Bool :=
  [linksCalledProcess type, linksDecision type, linksUserTask type]

theorem count_links_le (type : Wire ElementType) : (links type).count true ≤ 1 := by
  cases type with
  | listed word => cases word <;> decide
  | other raw => simp [links, linksCalledProcess, linksDecision, linksUserTask]

end ElementType
open ElementType

/-- The five vocabularies are faithful, and an element whose type was read from a string links what
that string names, at most one kind of record besides jobs. -/
theorem every_vocabulary_is_faithful :
    (Wire.Faithful ElementType ∧ Wire.Faithful ElementState ∧ Wire.Faithful UserTaskState ∧
      Wire.Faithful DecisionState ∧ Wire.Faithful ProcessState) ∧
    ∀ s : String,
      (linksCalledProcess (.ofString s) = true ↔ s = "CALL_ACTIVITY") ∧
      (linksDecision (.ofString s) = true ↔ s = "BUSINESS_RULE_TASK") ∧
      (linksUserTask (.ofString s) = true ↔ s = "USER_TASK") ∧
      (links (.ofString s)).count true ≤ 1 := by
  refine ⟨⟨Wire.faithful _, Wire.faithful _, Wire.faithful _, Wire.faithful _, Wire.faithful _⟩, ?_⟩
  intro s
  have hlisted (word : ElementType) :
      decide (.ofString s = Wire.listed word) = true ↔ s = Vocabulary.wire word := by
    rw [decide_eq_true_iff, Wire.ofString_eq_listed_iff]
  exact ⟨hlisted .callActivity, hlisted .businessRuleTask, hlisted .userTask, count_links_le _⟩

end ElementMetadata
