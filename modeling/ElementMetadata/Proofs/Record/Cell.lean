import ElementMetadata.Proofs.Json.Canonical
import ElementMetadata.Proofs.Record.Form
import ElementMetadata.Proofs.Wire

/-!
The values of the forms as typed values. A form encodes a type if it accepts what values of the type
are written as and nothing else; then what stands at a key is taken out and written again unchanged.
-/
namespace ElementMetadata

namespace WireInt

theorem ofInt64_ofInt {n : WireInt} (h : Width.signed64.Holds n.val) :
    ofInt64 (Int64.ofInt n.val) = n := by
  obtain ⟨n, hn⟩ := n
  simp only [Width.Holds] at h
  simp only [ofInt64, mk.injEq]
  exact Int64.toInt_ofInt_of_le (by omega) (by omega)

theorem ofInt32_ofInt {n : WireInt} (h : Width.signed32.Holds n.val) :
    ofInt32 (Int32.ofInt n.val) = n := by
  obtain ⟨n, hn⟩ := n
  simp only [Width.Holds] at h
  simp only [ofInt32, mk.injEq]
  exact Int32.toInt_ofInt_of_le (by omega) (by omega)

theorem ofUInt64_ofNat {n : WireInt} (h : Width.unsigned64.Holds n.val) :
    ofUInt64 (UInt64.ofNat n.val.toNat) = n := by
  obtain ⟨n, hn⟩ := n
  simp only [Width.Holds] at h
  simp only [ofUInt64, mk.injEq]
  rw [UInt64.toNat_ofNat_of_lt' (by simp only [UInt64.size]; omega)]
  omega

theorem holds_ofInt64 (n : Int64) : Width.signed64.Holds (ofInt64 n).val := by
  have hl := Int64.le_toInt n
  have hr := Int64.toInt_lt n
  simp only [Width.Holds, ofInt64]
  omega

theorem holds_ofInt32 (n : Int32) : Width.signed32.Holds (ofInt32 n).val := by
  have hl := Int32.le_toInt n
  have hr := Int32.toInt_lt n
  simp only [Width.Holds, ofInt32]
  omega

theorem holds_ofUInt64 (n : UInt64) : Width.unsigned64.Holds (ofUInt64 n).val := by
  have hr := UInt64.toNat_lt n
  simp only [Width.Holds, ofUInt64]
  omega

@[simp] theorem ofInt64_inj {m n : Int64} : ofInt64 m = ofInt64 n ↔ m = n := by
  simp [ofInt64, Int64.toInt_inj]

@[simp] theorem ofInt32_inj {m n : Int32} : ofInt32 m = ofInt32 n ↔ m = n := by
  simp [ofInt32, Int32.toInt_inj]

@[simp] theorem ofUInt64_inj {m n : UInt64} : ofUInt64 m = ofUInt64 n ↔ m = n := by
  rw [ofUInt64, ofUInt64, mk.injEq, Int.natCast_inj, UInt64.toNat_inj]

end WireInt

namespace Json

@[simp] theorem ofTexts_inj {a b : List String} : ofTexts a = ofTexts b ↔ a = b := by
  simp [ofTexts, List.map_inj_right]

@[simp] theorem ofLabels_inj {a b : List (String × String)} : ofLabels a = ofLabels b ↔ a = b := by
  simp [ofLabels, List.map_inj_right]

theorem ofOption_inj {a b : Option Json} (ha : ∀ v ∈ a, v ≠ .null) (hb : ∀ v ∈ b, v ≠ .null) :
    ofOption a = ofOption b ↔ a = b := by
  cases a with
  | none =>
    cases b with
    | none => simp
    | some w => simpa [ofOption, eq_comm] using hb w rfl
  | some v =>
    cases b with
    | none => simpa [ofOption] using ha v rfl
    | some w => simp [ofOption]

@[simp] theorem canonical_ofTexts (texts : List String) :
    (ofTexts texts).canonical = ofTexts texts := by
  simp [ofTexts, canonical, canonicalItems_eq_map]

theorem canonical_ofLabels_iff {labels : List (String × String)} :
    Canonical (ofLabels labels) ↔ Ascending labels := by
  rw [ofLabels, canonical_object_iff, ascending_map_value, and_iff_left]
  intro m hm
  obtain ⟨l, -, rfl⟩ := List.mem_map.1 hm
  rw [Canonical, canonical.eq_def]

theorem members?_eq_some_iff {v : Json} {key : String} {ms : List (String × Json)} :
    v.members? key = some ms ↔ v.member? key = some (.object ms) := by
  rw [members?]
  split
  · next h => rw [h, Option.some.injEq, Option.some.injEq, object.injEq]
  · next h => simpa using h ms

theorem canonical_ofOption (v : Option Json) :
    (ofOption v).canonical = ofOption (v.map canonical) := by
  cases v with
  | none => simp [ofOption, canonical]
  | some v => rfl

end Json

namespace Form
variable {form : Form} {α : Type} {write : α → Json} {v w : Json} {key : String}

/-- The form accepts what values of a type are written as, nothing else, and keeps it. -/
def Encodes (form : Form) (write : α → Json) : Prop :=
  ∀ v w, form.ofValue v = .ok w ↔ ∃ a, write a = v ∧ write a = w

theorem Encodes.keeps (h : form.Encodes write) : form.Keeps := by
  intro v w hv
  obtain ⟨a, rfl, rfl⟩ := (h v w).1 hv
  rfl

theorem Encodes.ofValue_write (h : form.Encodes write) (a : α) :
    form.ofValue (write a) = .ok (write a) := (h _ _).2 ⟨a, rfl, rfl⟩

theorem any_encodes : any.Encodes fun v : Json => v := fun v w => by simp [any]

theorem text_encodes : text.Encodes Json.string := fun _ _ => ofValue_text

theorem boolean_encodes : boolean.Encodes Json.bool := fun _ _ => ofValue_boolean

theorem integer_encodes {width : Width} {ofWord : α → WireInt} {toWord : WireInt → α}
    (h : ∀ a, width.Holds (ofWord a).val) (ho : ∀ n, width.Holds n.val → ofWord (toWord n) = n) :
    (integer width).Encodes fun a => .integer (ofWord a) := by
  intro v w
  rw [ofValue_integer]
  constructor
  · intro hex
    obtain ⟨n, hn, rfl, rfl⟩ := hex
    exact ⟨toWord n, congrArg Json.integer (ho n hn), congrArg Json.integer (ho n hn)⟩
  · intro hex
    obtain ⟨a, rfl, rfl⟩ := hex
    exact ⟨ofWord a, h a, rfl, rfl⟩

theorem signed64_encodes : (integer .signed64).Encodes fun n => .integer (.ofInt64 n) :=
  integer_encodes WireInt.holds_ofInt64 fun _ => WireInt.ofInt64_ofInt

theorem signed32_encodes : (integer .signed32).Encodes fun n => .integer (.ofInt32 n) :=
  integer_encodes WireInt.holds_ofInt32 fun _ => WireInt.ofInt32_ofInt

theorem unsigned64_encodes : (integer .unsigned64).Encodes fun n => .integer (.ofUInt64 n) :=
  integer_encodes WireInt.holds_ofUInt64 fun _ => WireInt.ofUInt64_ofNat

theorem forall₂_iff_exists_map {β γ : Type} {r : β → β → Prop} {f : γ → β}
    (h : ∀ x y, r x y ↔ ∃ c, f c = x ∧ f c = y) {xs ys : List β} :
    List.Forall₂ r xs ys ↔ ∃ cs : List γ, cs.map f = xs ∧ cs.map f = ys := by
  constructor
  · intro hs
    induction hs with
    | nil => exact ⟨[], rfl, rfl⟩
    | cons hxy _ ih =>
      obtain ⟨c, hx, hy⟩ := (h _ _).1 hxy
      obtain ⟨cs, hxs, hys⟩ := ih
      exact ⟨c :: cs, by rw [List.map_cons, hx, hxs], by rw [List.map_cons, hy, hys]⟩
  · intro hex
    obtain ⟨cs, rfl, rfl⟩ := hex
    exact List.forall₂_same.2 fun x hx => by
      obtain ⟨c, -, rfl⟩ := List.mem_map.1 hx
      exact (h _ _).2 ⟨c, rfl, rfl⟩

theorem Encodes.list (h : form.Encodes write) :
    form.list.Encodes fun as : List α => .array (as.map write) := by
  intro v w
  rw [ofValue_list]
  constructor
  · intro hex
    obtain ⟨xs, ys, rfl, hs, rfl⟩ := hex
    obtain ⟨as, rfl, rfl⟩ := (forall₂_iff_exists_map (h · ·)).1 hs
    exact ⟨as, rfl, rfl⟩
  · intro hex
    obtain ⟨as, rfl, rfl⟩ := hex
    exact ⟨_, _, rfl, (forall₂_iff_exists_map (h · ·)).2 ⟨as, rfl, rfl⟩, rfl⟩

theorem Encodes.map (h : form.Encodes write) :
    form.map.Encodes fun ls : List (String × α) => .object (ls.map fun l => (l.1, write l.2)) := by
  have hmember (m n : String × Json) : form.ofValue m.2 = .ok n.2 ∧ m.1 = n.1 ↔
      ∃ l : String × α, (l.1, write l.2) = m ∧ (l.1, write l.2) = n := by
    rw [h]
    constructor
    · intro hex
      obtain ⟨⟨a, hm, hn⟩, hk⟩ := hex
      exact ⟨(m.1, a), Prod.ext rfl hm, Prod.ext hk hn⟩
    · intro hex
      obtain ⟨l, rfl, rfl⟩ := hex
      exact ⟨⟨l.2, rfl, rfl⟩, rfl⟩
  intro v w
  rw [ofValue_map]
  constructor
  · intro hex
    obtain ⟨ms, ns, rfl, hs, rfl⟩ := hex
    obtain ⟨ls, rfl, rfl⟩ := (forall₂_iff_exists_map hmember).1 hs
    exact ⟨ls, rfl, rfl⟩
  · intro hex
    obtain ⟨ls, rfl, rfl⟩ := hex
    exact ⟨_, _, rfl, (forall₂_iff_exists_map hmember).2 ⟨ls, rfl, rfl⟩, rfl⟩

theorem members_encodes : any.map.Encodes Json.object := by
  simpa using any_encodes.map

def FitsAt (form : Form) (v : Json) (key : String) : Prop :=
  ∀ x, v.member? key = some x → form.ofValue x = .ok x ∧ x ≠ .null

theorem FitsAt.of_optional (h : form.optional.FitsAt v key) : form.FitsAt v key := by
  intro x hx
  obtain ⟨ho, hn⟩ := h x hx
  obtain ⟨rfl, -⟩ | ⟨-, ho⟩ := ofValue_optional.1 ho
  · exact absurd rfl hn
  · exact ⟨ho, hn⟩

end Form

/-- A form together with how its values are written and how they are taken out of an object: what
fits at a key is taken out and written again unchanged. -/
structure Cell {α : Type} (form : Form) (write : α → Json) (take : Json → String → Option α) :
    Prop where
  encodes : form.Encodes write
  isNull_write (a : α) : (write a).isNull = false
  map_take (v : Json) (key : String) : form.FitsAt v key → (take v key).map write = v.member? key

namespace Cell
variable {α : Type} {form : Form} {write : α → Json} {take : Json → String → Option α}

theorem of_take_eq (he : form.Encodes write) (hn : ∀ a, (write a).isNull = false)
    (ht : ∀ v key (a : Option α), v.member? key = a.map write → take v key = a) :
    Cell form write take where
  encodes := he
  isNull_write := hn
  map_take v key h := by
    have hw : ∃ a : Option α, v.member? key = a.map write := by
      cases hx : v.member? key with
      | none => exact ⟨none, rfl⟩
      | some x =>
        obtain ⟨a, rfl, -⟩ := (he x x).1 (h x hx).1
        exact ⟨some a, rfl⟩
    obtain ⟨a, ha⟩ := hw
    rw [ht v key a ha, ha]

theorem text : Cell .text .string Json.text? :=
  of_take_eq Form.text_encodes (fun _ => rfl) fun v key a h => by cases a <;> simp [Json.text?, h]

theorem boolean : Cell .boolean .bool Json.flag? :=
  of_take_eq Form.boolean_encodes (fun _ => rfl) fun v key a h => by
    cases a <;> simp [Json.flag?, h]

theorem members : Cell (.map .any) .object Json.members? :=
  of_take_eq Form.members_encodes (fun _ => rfl) fun v key a h => by
    cases a <;> simp [Json.members?, h]

theorem texts : Cell (.list .text) .ofTexts Json.texts? :=
  of_take_eq Form.text_encodes.list (fun _ => rfl) fun v key a h => by
    cases a <;> simp [Json.texts?, Json.items?, h, Json.ofTexts, Json.asText, Function.comp_def]

theorem labels : Cell (.map .text) .ofLabels Json.labels? :=
  of_take_eq Form.text_encodes.map (fun _ => rfl) fun v key a h => by
    cases a <;> simp [Json.labels?, Json.members?, h, Json.ofLabels, Json.asText, Function.comp_def]

theorem signed64 : Cell (.integer .signed64) (fun n => .integer (.ofInt64 n))
    fun v key => (v.integer? key).map Int64.ofInt :=
  of_take_eq Form.signed64_encodes (fun _ => rfl) fun v key a h => by
    cases a <;> simp [Json.integer?, h, WireInt.ofInt64]

theorem signed32 : Cell (.integer .signed32) (fun n => .integer (.ofInt32 n))
    fun v key => (v.integer? key).map Int32.ofInt :=
  of_take_eq Form.signed32_encodes (fun _ => rfl) fun v key a h => by
    cases a <;> simp [Json.integer?, h, WireInt.ofInt32]

theorem unsigned64 : Cell (.integer .unsigned64) (fun n => .integer (.ofUInt64 n))
    fun v key => (v.integer? key).map fun n => UInt64.ofNat n.toNat :=
  of_take_eq Form.unsigned64_encodes (fun _ => rfl) fun v key a h => by
    cases a <;> simp [Json.integer?, h, WireInt.ofUInt64]

theorem filter_write (c : Cell form write take) (a : α) :
    (some (write a)).filter (!·.isNull) = some (write a) := by
  simp [Option.filter, c.isNull_write]

/-- A word may be either listed or not; the string on the wire is the same. -/
theorem word {ω : Type} [Vocabulary ω] : Cell .text (Wire.toJson (α := ω))
    fun v key => (v.text? key).map Wire.ofString where
  encodes v w := by
    rw [Form.text_encodes]
    constructor
    · intro hex
      obtain ⟨s, rfl, rfl⟩ := hex
      have hs : (Wire.ofString s : Wire ω).toJson = .string s := by
        rw [Wire.toJson, Wire.toString_ofString]
      exact ⟨.ofString s, hs, hs⟩
    · intro hex
      obtain ⟨a, rfl, rfl⟩ := hex
      exact ⟨a.toString, rfl, rfl⟩
  isNull_write _ := rfl
  map_take v key h := by
    rw [← text.map_take v key h]
    simp [Function.comp_def, Wire.toJson, Wire.toString_ofString]

end Cell
end ElementMetadata
