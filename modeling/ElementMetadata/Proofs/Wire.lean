import ElementMetadata.Wire
import Mathlib.Data.List.Nodup

/-!
Words as strings. Reading a word and writing it gives the string back, and a word is read from its
own string unless it is a listed word's string kept as an unlisted one.
-/
namespace ElementMetadata
namespace Wire
variable {α : Type} [Vocabulary α] {w : Wire α} {s : String} {a : α}

/-- No listed word's string is kept as an unlisted one. -/
def Proper : Wire α → Prop
  | .listed _ => True
  | .other s => ∀ a : α, Vocabulary.wire a ≠ s

theorem wire_injective : Function.Injective (Vocabulary.wire (α := α)) := fun a b h =>
  List.inj_on_of_nodup_map Vocabulary.wire_nodup (Vocabulary.mem_words a) (Vocabulary.mem_words b) h

theorem ofString_wire (a : α) : ofString (Vocabulary.wire a) = .listed a := by
  have hp : Vocabulary.words.find? (fun b : α => Vocabulary.wire b == Vocabulary.wire a) =
      some a := by
    cases hf : Vocabulary.words.find? fun b : α => Vocabulary.wire b == Vocabulary.wire a with
    | none => exact absurd (List.find?_eq_none.1 hf a (Vocabulary.mem_words a)) (by simp)
    | some b =>
      have hb : Vocabulary.wire b = Vocabulary.wire a := by simpa using List.find?_some hf
      rw [wire_injective hb]
  rw [ofString, hp]

theorem ofString_of_forall_ne (h : ∀ a : α, Vocabulary.wire a ≠ s) :
    ofString s = (.other s : Wire α) := by
  have hf : Vocabulary.words.find? (fun a : α => Vocabulary.wire a == s) = none := by
    simpa using fun a _ => h a
  rw [ofString, hf]

theorem exists_wire_eq_or (s : String) :
    (∃ a : α, Vocabulary.wire a = s) ∨ ∀ a : α, Vocabulary.wire a ≠ s := by
  by_cases h : ∃ a : α, Vocabulary.wire a = s
  · exact .inl h
  · exact .inr (not_exists.1 h)

@[simp] theorem toString_ofString (s : String) : (ofString s : Wire α).toString = s := by
  obtain ⟨a, rfl⟩ | h := exists_wire_eq_or (α := α) s
  · rw [ofString_wire, toString]
  · rw [ofString_of_forall_ne h, toString]

theorem proper_ofString (s : String) : (ofString s : Wire α).Proper := by
  obtain ⟨a, rfl⟩ | h := exists_wire_eq_or (α := α) s
  · rw [ofString_wire]
    trivial
  · rw [ofString_of_forall_ne h]
    exact h

theorem ofString_toString_iff : ofString w.toString = w ↔ w.Proper := by
  cases w with
  | listed a => simp [toString, ofString_wire, Proper]
  | other s =>
    constructor
    · intro h
      rw [← h]
      exact proper_ofString _
    · exact ofString_of_forall_ne

theorem toString_inj {w x : Wire α} (hw : w.Proper) (hx : x.Proper) :
    w.toString = x.toString ↔ w = x := by
  refine ⟨fun h => ?_, congrArg _⟩
  rw [← ofString_toString_iff.2 hw, h, ofString_toString_iff.2 hx]

theorem ofString_inj {s t : String} : (ofString s : Wire α) = ofString t ↔ s = t := by
  rw [← toString_inj (proper_ofString s) (proper_ofString t), toString_ofString, toString_ofString]

theorem ofString_eq_listed_iff : ofString s = .listed a ↔ s = Vocabulary.wire a := by
  rw [← ofString_wire, ofString_inj]

theorem proper_iff : w.Proper ↔ ¬∃ a : α, w = .other (Vocabulary.wire a) := by
  cases w with
  | listed => simp [Proper]
  | other s => simp [Proper, eq_comm]

theorem ofString_getD (o : Option String) (s : String) :
    (ofString (o.getD s) : Wire α) = (o.map ofString).getD (ofString s) := (Option.getD_map ..).symm

theorem toJson_inj {w x : Wire α} (hw : w.Proper) (hx : x.Proper) :
    w.toJson = x.toJson ↔ w = x := by
  rw [toJson, toJson, Json.string.injEq, toString_inj hw hx]

theorem map_toJson_inj {a b : Option (Wire α)} (ha : ∀ w ∈ a, w.Proper) (hb : ∀ w ∈ b, w.Proper) :
    a.map toJson = b.map toJson ↔ a = b := by
  cases a with
  | none => cases b <;> simp
  | some w =>
    cases b with
    | none => simp
    | some x => simp [toJson_inj (ha w rfl) (hb x rfl)]

@[simp] theorem canonical_toJson (w : Wire α) : w.toJson.canonical = w.toJson := by
  rw [toJson, Json.canonical.eq_def]

theorem proper_of_mem_map_ofString {o : Option String} {w : Wire α} (h : w ∈ o.map ofString) :
    w.Proper := by
  obtain ⟨s, -, rfl⟩ := Option.map_eq_some_iff.1 h
  exact proper_ofString s

end Wire
end ElementMetadata
