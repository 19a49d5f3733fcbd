import ElementMetadata.Proofs.Record.Kind

/-!
Shapes of records: the keys that a record knows. A record is read from an object exactly if what stands
at these keys may stand there, and the required ones are there. Otherwise the fault is that of the least
key with a value that may not stand there, or else that of the first key that is missing.
-/
namespace ElementMetadata

abbrev Shape := List KnownField

namespace Shape
variable {shape : Shape} {slots : List Slot} {ms : Members} {fault : Fault} {key : String}

def WellTyped (shape : Shape) (ms : Members) : Prop :=
  ∀ f ∈ shape, ∀ v, (f.key, v) ∈ ms → f.Holds v

/-- The fault of the least key with a value that may not stand there. -/
def LeastFault (shape : Shape) (ms : Members) (fault : Fault) : Prop :=
  ∃ f ∈ shape, ∃ v, (f.key, v) ∈ ms ∧ f.fault? v = some fault ∧
    ∀ g ∈ shape, ∀ w, (g.key, w) ∈ ms → ¬ g.Holds w → f.key ≤ g.key

def FirstMissing (shape : Shape) (ms : Members) (key : String) : Prop :=
  ∃ before f after, shape = before ++ f :: after ∧ f.key = key ∧ f.presence = .required ∧
    (∀ v, (f.key, v) ∉ ms) ∧ ∀ g ∈ before, g.presence = .required → ∃ v, (g.key, v) ∈ ms

def memberFault? (shape : Shape) (m : String × Json) : Option Fault :=
  (shape.find? (·.key == m.1)).bind (·.fault? m.2)

def typeFault? (shape : Shape) (ms : Members) : Option Fault := ms.findSome? shape.memberFault?

def missing? (shape : Shape) (ms : Members) : Option String :=
  (shape.find? fun f => f.presence = .required && (ms.lookup f.key).isNone).map (·.key)

theorem memberFault?_eq_some_iff (hn : (shape.map KnownField.key).Nodup) {m : String × Json} :
    shape.memberFault? m = some fault ↔ ∃ f ∈ shape, f.key = m.1 ∧ f.fault? m.2 = some fault := by
  simp only [memberFault?, Option.bind_eq_some_iff, Json.find?_key_eq_some_iff hn, and_assoc]

theorem memberFault?_eq_none_iff (hn : (shape.map KnownField.key).Nodup) {m : String × Json} :
    shape.memberFault? m = none ↔ ∀ f ∈ shape, f.key = m.1 → f.Holds m.2 := by
  simp only [memberFault?, Option.bind_eq_none_iff, Json.find?_key_eq_some_iff hn, and_imp,
    KnownField.fault?_eq_none_iff]

theorem typeFault?_eq_none_iff (hn : (shape.map KnownField.key).Nodup) :
    shape.typeFault? ms = none ↔ shape.WellTyped ms := by
  simp only [typeFault?, List.findSome?_eq_none_iff, memberFault?_eq_none_iff hn, WellTyped]
  constructor
  · intro h f hf v hv
    exact h (f.key, v) hv f hf rfl
  · intro h m hm f hf hkey
    apply h f hf
    rwa [hkey]

theorem findSome?_eq_some_iff_of_ascending {β : Type} {g : String × Json → Option β} {b : β}
    (h : Json.Ascending ms) :
    ms.findSome? g = some b ↔
      ∃ m ∈ ms, g m = some b ∧ ∀ n ∈ ms, g n ≠ none → m.1 ≤ n.1 := by
  induction ms with
  | nil => simp
  | cons m ms ih =>
    obtain ⟨hm, hms⟩ := List.pairwise_cons.1 h
    have ih := ih hms
    rw [List.findSome?_cons]
    cases hg : g m with
    | none =>
      simp only [ih, List.mem_cons, exists_eq_or_imp, forall_eq_or_imp, hg]
      simp
    | some c =>
      constructor
      · rintro ⟨⟩
        refine ⟨m, List.mem_cons_self, hg, fun n hn _ => ?_⟩
        obtain rfl | hn := List.mem_cons.1 hn
        · exact le_rfl
        · exact (hm n hn).le
      · rintro ⟨n, hn, hb, hleast⟩
        have hle : n.1 ≤ m.1 := hleast m List.mem_cons_self (by simp [hg])
        obtain rfl | hn := List.mem_cons.1 hn
        · exact hg.symm.trans hb
        · exact absurd (hm n hn) (not_lt.2 hle)

theorem typeFault?_eq_some_iff (hn : (shape.map KnownField.key).Nodup) (ha : Json.Ascending ms) :
    shape.typeFault? ms = some fault ↔ shape.LeastFault ms fault := by
  simp only [typeFault?, findSome?_eq_some_iff_of_ascending ha, memberFault?_eq_some_iff hn, ne_eq,
    memberFault?_eq_none_iff hn, LeastFault]
  constructor
  · rintro ⟨m, hm, ⟨f, hf, hkey, hfault⟩, hleast⟩
    refine ⟨f, hf, m.2, hkey ▸ hm, hfault, fun g hg w hw hnot => ?_⟩
    rw [hkey]
    exact hleast (g.key, w) hw fun hall => hnot (hall g hg rfl)
  · rintro ⟨f, hf, v, hv, hfault, hleast⟩
    refine ⟨(f.key, v), hv, ⟨f, hf, rfl, hfault⟩, fun n hn hnot => ?_⟩
    simp only [not_forall] at hnot
    obtain ⟨g, hg, hkey, hnot⟩ := hnot
    rw [← hkey]
    exact hleast g hg n.2 (hkey ▸ hn) hnot

theorem lookup_eq_none_iff : ms.lookup key = none ↔ ∀ v, (key, v) ∉ ms := by
  rw [List.lookup_eq_none_iff]
  constructor
  · intro h v hv
    simpa using h _ hv
  · rintro h ⟨k, v⟩ hm
    rw [bne_iff_ne]
    rintro rfl
    exact h v hm

theorem missing?_eq_none_iff : shape.missing? ms = none ↔
    ∀ f ∈ shape, f.presence = .required → ∃ v, (f.key, v) ∈ ms := by
  simp only [missing?, Option.map_eq_none_iff, List.find?_eq_none, Bool.and_eq_true,
    decide_eq_true_eq, Option.isNone_iff_eq_none, lookup_eq_none_iff, not_and, not_forall, not_not]

theorem missing?_eq_some_iff : shape.missing? ms = some key ↔ shape.FirstMissing ms key := by
  simp only [missing?, Option.map_eq_some_iff, List.find?_eq_some_iff_append, Bool.and_eq_true,
    Bool.not_eq_true', Bool.and_eq_false_imp, decide_eq_true_eq, Option.isNone_iff_eq_none,
    Option.isNone_eq_false_iff, Option.isSome_iff_ne_none, lookup_eq_none_iff, not_forall, not_not,
    ne_eq, FirstMissing]
  constructor
  · rintro ⟨f, ⟨⟨hneeded, habsent⟩, before, after, rfl, hbefore⟩, rfl⟩
    exact ⟨before, f, after, rfl, rfl, hneeded, habsent, hbefore⟩
  · rintro ⟨before, f, after, rfl, rfl, hneeded, habsent, hbefore⟩
    exact ⟨f, ⟨⟨hneeded, habsent⟩, before, after, rfl, hbefore⟩, rfl⟩

section Reading
variable (h : List.Forall₂ KnownField.Describes shape slots)
include h

theorem faultIn?_find? (m : String × Json) :
    ((Slot.find? slots m.1).bind fun slot => faultIn? (slot.form.ofValue m.2)) =
      shape.memberFault? m := by
  induction h with
  | nil => rfl
  | @cons f slot shape slots hf _ ih =>
    simp only [Slot.find?, memberFault?, List.find?_cons, hf.key_eq]
    cases f.key == m.1 with
    | true => exact hf.faultIn?_eq m.2
    | false => exact ih

theorem faultIn?_readKnown (ms : Members) :
    faultIn? (Slot.readKnown slots ms) = shape.typeFault? ms := by
  induction ms with
  | nil => rfl
  | cons m ms ih =>
    obtain ⟨key, v⟩ := m
    have hm := faultIn?_find? h (key, v)
    rw [typeFault?, List.findSome?_cons, ← hm, Slot.readKnown]
    cases Slot.find? slots key with
    | none => exact ih
    | some slot =>
      have hrest (w : Json) :
          faultIn? (do return (key, w) :: (← Slot.readKnown slots ms)) = shape.typeFault? ms := by
        rw [faultIn?_bind (o := none) fun _ _ => rfl, Option.or_none, ih]
      change faultIn? (slot.form.ofValue v >>= _) = _
      rw [faultIn?_bind fun w _ => hrest w, Option.bind_some]
      cases faultIn? (slot.form.ofValue v) <;> rfl

theorem faultIn?_complete {read : Members} (ha : Slot.Accepts slots ms)
    (hread : ∀ slot ∈ slots, read.lookup slot.key = slot.value? ms) :
    faultIn? (Slot.complete slots read) = (shape.missing? ms).map .missingField := by
  have hnone : ∀ slot ∈ slots, (read.lookup slot.key).isNone = (ms.lookup slot.key).isNone := by
    intro slot hslot
    rw [hread slot hslot, ← Option.not_isSome, ← Option.not_isSome, Slot.isSome_value? ha hslot]
  have hmissing : (Slot.missing? slots read).map Slot.key = shape.missing? ms := by
    clear ha hread
    induction h with
    | nil => rfl
    | @cons f slot shape slots hf _ ih =>
      have hneeded : slot.needed = decide (f.presence = .required) := by
        rw [Bool.eq_iff_iff, hf.needed_iff, decide_eq_true_eq]
      have hslot := hnone slot List.mem_cons_self
      have ih := ih fun s hs => hnone s (List.mem_cons_of_mem _ hs)
      rw [hf.key_eq] at hslot
      simp only [Slot.missing?, missing?, List.find?_cons, hneeded, hf.key_eq, hslot] at ih ⊢
      cases decide (f.presence = .required) && (ms.lookup f.key).isNone with
      | true => exact congrArg some hf.key_eq
      | false => exact ih
  rw [← hmissing, Slot.complete]
  cases Slot.missing? slots read <;> rfl

theorem map_key_eq : slots.map Slot.key = shape.map KnownField.key := by
  induction h with
  | nil => rfl
  | cons hf _ ih => rw [List.map_cons, List.map_cons, hf.key_eq, ih]

theorem faultIn?_record (hn : (shape.map KnownField.key).Nodup) (name : String) (ms : Members) :
    faultIn? ((Form.record name slots).ofValue (.object ms)) =
      (shape.typeFault? ms).or ((shape.missing? ms).map .missingField) := by
  rw [← map_key_eq h] at hn
  rw [← faultIn?_readKnown h]
  apply faultIn?_bind
  intro read hread
  exact faultIn?_complete h ((Slot.readKnown_isOk_iff hn).1 ⟨read, hread⟩)
    fun slot hslot => Slot.lookup_readKnown hn hread hslot

end Reading

theorem faultIn?_merged {own inner : Shape} {ownSlots innerSlots : List Slot}
    (hown : List.Forall₂ KnownField.Describes own ownSlots)
    (hinner : List.Forall₂ KnownField.Describes inner innerSlots)
    (hn : ((own ++ inner).map KnownField.key).Nodup) (name : String) (ms : Members) :
    faultIn? ((Form.merged name ownSlots innerSlots).ofValue (.object ms)) =
      (own.typeFault? ms).or ((inner.typeFault? ms).or
        ((missing? (own ++ inner) ms).map .missingField)) := by
  have hall := List.rel_append hown hinner
  rw [← map_key_eq hall] at hn
  have hsplit := hn
  rw [List.map_append, List.nodup_append] at hsplit
  rw [← faultIn?_readKnown hown, ← faultIn?_readKnown hinner]
  refine faultIn?_bind fun first hfirst => faultIn?_bind fun second hsecond => ?_
  refine faultIn?_complete hall (Form.accepts_append.2 ⟨?_, ?_⟩)
    fun slot hslot => Form.lookup_readKnown_append hn hfirst hsecond hslot
  · exact (Slot.readKnown_isOk_iff hsplit.1).1 ⟨first, hfirst⟩
  · exact (Slot.readKnown_isOk_iff hsplit.2.1).1 ⟨second, hsecond⟩

end Shape

/-- How an object is refused that is read in passes, each over the keys of one shape: a pass refuses it
for its least key with a value that may not stand there, if the passes before do not; and where none
does, the first key is missing that has to be there. -/
inductive RefusedFor (passes : List Shape) (ms : Members) : Fault → Prop
  | illTyped {before after : List Shape} {pass : Shape} {fault : Fault} :
    passes = before ++ pass :: after → (∀ p ∈ before, p.WellTyped ms) → pass.LeastFault ms fault →
    RefusedFor passes ms fault
  | missing {key : String} : (∀ p ∈ passes, p.WellTyped ms) →
    Shape.FirstMissing passes.flatten ms key → RefusedFor passes ms (.missingField key)

/-- Objects are read as a type in these passes: those that have the shapes, and where null stands for
nothing at the optional keys only. Any other object is refused. -/
structure ReadInPasses (α : Type) [Codec α] (passes : List Shape) : Prop where
  ok_iff (ms : Members) : (∃ r : α, Codec.read (.object ms) = .ok r) ↔
    (∀ f ∈ passes.flatten, f.presence = .required → ∃ v, (f.key, v) ∈ ms) ∧
      ∀ f ∈ passes.flatten, ∀ v, (f.key, v) ∈ ms → f.Holds v
  error_iff (ms : Members) (fault : Fault) : Json.Ascending ms →
    (Codec.read (.object ms) = (.error fault : Except Fault α) ↔ RefusedFor passes ms fault)
  holds_null_iff (f : KnownField) : f ∈ passes.flatten → (f.Holds .null ↔ f.presence = .optional)

namespace ReadInPasses
variable {α : Type} [Codec α] {passes : List Shape}

theorem of_faultIn? (hn : ∀ pass ∈ passes, (pass.map KnownField.key).Nodup)
    (hnull : ∀ f ∈ passes.flatten, f.Holds .null ↔ f.presence = .optional)
    (h : ∀ ms, faultIn? (Codec.read (.object ms) : Except Fault α) =
      (passes.findSome? fun pass => pass.typeFault? ms).or
        ((Shape.missing? passes.flatten ms).map .missingField)) : ReadInPasses α passes where
  ok_iff ms := by
    have hflatten : (∀ pass ∈ passes, pass.typeFault? ms = none) ↔
        ∀ f ∈ passes.flatten, ∀ v, (f.key, v) ∈ ms → f.Holds v := by
      rw [List.forall_mem_flatten]
      exact forall₂_congr fun pass hpass => Shape.typeFault?_eq_none_iff (hn pass hpass)
    rw [← faultIn?_eq_none_iff, h, Option.or_eq_none_iff, List.findSome?_eq_none_iff, hflatten,
      Option.map_eq_none_iff, Shape.missing?_eq_none_iff, and_comm]
  error_iff ms fault ha := by
    have hnone {pass : Shape} (hpass : pass ∈ passes) :
        pass.typeFault? ms = none ↔ pass.WellTyped ms := Shape.typeFault?_eq_none_iff (hn pass hpass)
    rw [← faultIn?_eq_some_iff, h, Option.or_eq_some_iff, List.findSome?_eq_some_iff,
      List.findSome?_eq_none_iff]
    constructor
    · rintro (⟨before, pass, after, rfl, hpass, hbefore⟩ | ⟨hall, hmissing⟩)
      · refine .illTyped rfl (fun p hp => ?_) ?_
        · exact (hnone (List.mem_append_left _ hp)).1 (hbefore p hp)
        · exact (Shape.typeFault?_eq_some_iff (hn pass (by simp)) ha).1 hpass
      · obtain ⟨key, hkey, rfl⟩ := Option.map_eq_some_iff.1 hmissing
        exact .missing (fun p hp => (hnone hp).1 (hall p hp)) (Shape.missing?_eq_some_iff.1 hkey)
    · intro hrefused
      cases hrefused with
      | @illTyped before after pass _ hpasses hbefore hleast =>
        subst hpasses
        refine .inl ⟨before, pass, after, rfl, ?_, fun p hp => ?_⟩
        · exact (Shape.typeFault?_eq_some_iff (hn pass (by simp)) ha).2 hleast
        · exact (hnone (List.mem_append_left _ hp)).2 (hbefore p hp)
      | @missing key hall hfirst =>
        refine .inr ⟨fun p hp => (hnone hp).2 (hall p hp), ?_⟩
        exact Option.map_eq_some_iff.2 ⟨key, Shape.missing?_eq_some_iff.2 hfirst, rfl⟩
  holds_null_iff := hnull

variable {shape own inner : Shape} {slots ownSlots innerSlots : List Slot} {name : String}

theorem of_record (hform : Codec.form α = .record name slots)
    (h : List.Forall₂ KnownField.Describes shape slots) (hn : (shape.map KnownField.key).Nodup)
    (hnull : ∀ f ∈ shape, f.Holds .null ↔ f.presence = .optional) : ReadInPasses α [shape] := by
  refine of_faultIn? (by simpa using hn) (by simpa using hnull) fun ms => ?_
  rw [Codec.read, faultIn?_map, hform, Shape.faultIn?_record h hn]
  simp

theorem of_merged (hform : Codec.form α = .merged name ownSlots innerSlots)
    (hown : List.Forall₂ KnownField.Describes own ownSlots)
    (hinner : List.Forall₂ KnownField.Describes inner innerSlots)
    (hn : ((own ++ inner).map KnownField.key).Nodup)
    (hnull : ∀ f ∈ own ++ inner, f.Holds .null ↔ f.presence = .optional) :
    ReadInPasses α [own, inner] := by
  have hsplit := hn
  rw [List.map_append, List.nodup_append] at hsplit
  refine of_faultIn? (by simpa using ⟨hsplit.1, hsplit.2.1⟩) (by simpa using hnull) fun ms => ?_
  rw [Codec.read, faultIn?_map, hform, Shape.faultIn?_merged hown hinner hn]
  simp only [List.findSome?_cons, List.flatten_cons, List.flatten_nil, List.append_nil]
  cases own.typeFault? ms <;> cases inner.typeFault? ms <;> rfl

end ReadInPasses
end ElementMetadata
