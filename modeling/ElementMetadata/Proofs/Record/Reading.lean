import ElementMetadata.Proofs.Json.Depth
import ElementMetadata.Proofs.Record.Form
import ElementMetadata.Record.Table

/-!
What a record is read as from an object. That depends on nothing but what the object holds at each
known key: `ofValue_record` says when reading succeeds and what it gives, and an object that is two
records in one is read as a record with the slots of both.
-/
namespace ElementMetadata
open Json (lookup_cons_of_ne)

namespace Slot
variable {slots : List Slot} {ms read : Members}

def Accepts (slots : List Slot) (ms : Members) : Prop :=
  ∀ m ∈ ms, ∀ slot ∈ slots, slot.key = m.1 → ∃ w, slot.form.ofValue m.2 = .ok w

def Covers (slots : List Slot) (ms : Members) : Prop :=
  ∀ slot ∈ slots, slot.needed → (ms.lookup slot.key).isSome

def value? (slot : Slot) (ms : Members) : Option Json :=
  (ms.lookup slot.key).bind fun v => (slot.form.ofValue v).toOption

def kept? (slot : Slot) (ms : Members) : Option Json := (slot.value? ms).filter (!·.isNull)

def keptAll (slots : List Slot) (ms : Members) : Json :=
  .object (slots.filterMap fun slot => (slot.kept? ms).map (slot.key, ·))

theorem eq_of_key_eq (hn : (slots.map Slot.key).Nodup) {s t : Slot} (hs : s ∈ slots)
    (ht : t ∈ slots) (h : s.key = t.key) : s = t :=
  List.inj_on_of_nodup_map hn hs ht h

theorem find?_eq_some_iff (hn : (slots.map Slot.key).Nodup) {key : String} {slot : Slot} :
    find? slots key = some slot ↔ slot ∈ slots ∧ slot.key = key :=
  Json.find?_key_eq_some_iff hn

theorem find?_eq_none_iff {key : String} :
    find? slots key = none ↔ ∀ slot ∈ slots, slot.key ≠ key := by
  simp [find?]

theorem readKnown_cons_eq_ok_iff {key : String} {v : Json} :
    readKnown slots ((key, v) :: ms) = .ok read ↔
      find? slots key = none ∧ readKnown slots ms = .ok read ∨
      ∃ slot w rest, find? slots key = some slot ∧ slot.form.ofValue v = .ok w ∧
        readKnown slots ms = .ok rest ∧ (key, w) :: rest = read := by
  rw [readKnown]
  cases find? slots key with
  | none => simp
  | some slot => simp [bind_eq_ok_iff, pure, Except.pure]

theorem readKnown_isOk_iff (hn : (slots.map Slot.key).Nodup) :
    (∃ read, readKnown slots ms = .ok read) ↔ Accepts slots ms := by
  induction ms with
  | nil => simp [readKnown, Accepts]
  | cons m ms ih =>
    obtain ⟨key, v⟩ := m
    have hcons : Accepts slots ((key, v) :: ms) ↔
        (∀ slot ∈ slots, slot.key = key → ∃ w, slot.form.ofValue v = .ok w) ∧ Accepts slots ms := by
      simp [Accepts]
    rw [hcons, ← ih]
    constructor
    · intro hex
      obtain ⟨read, h⟩ := hex
      obtain ⟨hf, hr⟩ | ⟨slot, w, rest, hf, hv, hr, -⟩ := readKnown_cons_eq_ok_iff.1 h
      · exact ⟨fun s hs hk => absurd hk (find?_eq_none_iff.1 hf s hs), read, hr⟩
      · obtain ⟨hm, hkey⟩ := (find?_eq_some_iff hn).1 hf
        refine ⟨fun s hs hk => ⟨w, ?_⟩, rest, hr⟩
        rwa [eq_of_key_eq hn hs hm (hk.trans hkey.symm)]
    · intro hex
      obtain ⟨hv, rest, hr⟩ := hex
      cases hf : find? slots key with
      | none => exact ⟨rest, readKnown_cons_eq_ok_iff.2 (.inl ⟨hf, hr⟩)⟩
      | some slot =>
        obtain ⟨hm, hkey⟩ := (find?_eq_some_iff hn).1 hf
        obtain ⟨w, hw⟩ := hv slot hm hkey
        exact ⟨_, readKnown_cons_eq_ok_iff.2 (.inr ⟨slot, w, rest, hf, hw, hr, rfl⟩)⟩

theorem lookup_readKnown (hn : (slots.map Slot.key).Nodup) (h : readKnown slots ms = .ok read)
    {slot : Slot} (hs : slot ∈ slots) : read.lookup slot.key = slot.value? ms := by
  induction ms generalizing read with
  | nil =>
    obtain rfl : read = [] := by simpa [readKnown, eq_comm] using h
    rfl
  | cons m ms ih =>
    obtain ⟨key, v⟩ := m
    obtain ⟨hf, hr⟩ | ⟨s, w, rest, hf, hv, hr, rfl⟩ := readKnown_cons_eq_ok_iff.1 h
    · have hk := find?_eq_none_iff.1 hf slot hs
      rw [ih hr, value?, value?, lookup_cons_of_ne _ hk]
    · obtain ⟨hm, rfl⟩ := (find?_eq_some_iff hn).1 hf
      by_cases hk : slot.key = s.key
      · obtain rfl := eq_of_key_eq hn hs hm hk
        simp [value?, hv, Except.toOption]
      · rw [lookup_cons_of_ne _ hk, ih hr, value?, value?, lookup_cons_of_ne _ hk]

theorem lookup_readKnown_of_forall_ne (hn : (slots.map Slot.key).Nodup)
    (h : readKnown slots ms = .ok read) {key : String} (hk : ∀ slot ∈ slots, slot.key ≠ key) :
    read.lookup key = none := by
  induction ms generalizing read with
  | nil =>
    obtain rfl : read = [] := by simpa [readKnown, eq_comm] using h
    rfl
  | cons m ms ih =>
    obtain ⟨k, v⟩ := m
    obtain ⟨-, hr⟩ | ⟨s, w, rest, hf, -, hr, rfl⟩ := readKnown_cons_eq_ok_iff.1 h
    · exact ih hr
    · obtain ⟨hm, rfl⟩ := (find?_eq_some_iff hn).1 hf
      rw [lookup_cons_of_ne _ (hk s hm).symm, ih hr]

theorem complete_eq_ok_iff {v : Json} :
    complete slots read = .ok v ↔ Covers slots read ∧ normal slots read = v := by
  unfold complete
  cases hm : missing? slots read with
  | none =>
    have hc : Covers slots read := by
      intro slot hs hneed
      have := List.find?_eq_none.1 hm slot hs
      simpa [hneed] using this
    simp [hc]
  | some slot =>
    have hc : ¬ Covers slots read := by
      intro h
      have hb := List.find?_some hm
      rw [Bool.and_eq_true, Option.isNone_iff_eq_none] at hb
      have := h slot (List.mem_of_find?_eq_some hm) hb.1
      rw [hb.2] at this
      cases this
    simp [hc]

theorem normal_eq_table (slots : List Slot) (read : Members) : normal slots read =
    .object (slots.filterMap fun slot =>
      ((read.lookup slot.key).filter (!·.isNull)).map (slot.key, ·)) := by
  unfold normal
  congr 1
  refine List.filterMap_congr fun slot _ => ?_
  cases read.lookup slot.key with
  | none => rfl
  | some v => cases v <;> rfl

theorem normal_eq_keptAll (h : ∀ slot ∈ slots, read.lookup slot.key = slot.value? ms) :
    normal slots read = keptAll slots ms := by
  rw [normal_eq_table, keptAll]
  congr 1
  refine List.filterMap_congr fun slot hs => ?_
  rw [h slot hs, kept?]

theorem member?_normal (hn : (slots.map Slot.key).Nodup) {slot : Slot} (hs : slot ∈ slots) :
    (normal slots read).member? slot.key = (read.lookup slot.key).filter (!·.isNull) := by
  rw [normal_eq_table]
  exact Json.lookup_table Slot.key (fun slot => (read.lookup slot.key).filter (!·.isNull)) hn hs

theorem mem_of_member?_normal {key : String} {x : Json}
    (h : (normal slots read).member? key = some x) : (key, x) ∈ read := by
  rw [normal_eq_table] at h
  obtain ⟨l₁, l₂, he, -⟩ := List.lookup_eq_some_iff.1 h
  have hmem : (key, x) ∈ l₁ ++ (key, x) :: l₂ := by simp
  rw [← he, List.mem_filterMap] at hmem
  obtain ⟨slot, -, hslot⟩ := hmem
  obtain ⟨y, hy, heq⟩ := Option.map_eq_some_iff.1 hslot
  obtain ⟨rfl, rfl⟩ := Prod.mk.inj heq
  obtain ⟨l₁, l₂, rfl, -⟩ := List.lookup_eq_some_iff.1 (Option.filter_eq_some_iff.1 hy).1
  simp

theorem mem_of_mem_readKnown (hk : ∀ slot ∈ slots, slot.form.Keeps)
    (h : readKnown slots ms = .ok read) {m : String × Json} (hm : m ∈ read) : m ∈ ms := by
  induction ms generalizing read with
  | nil =>
    obtain rfl : read = [] := by simpa [readKnown, eq_comm] using h
    exact hm
  | cons n ms ih =>
    obtain ⟨key, v⟩ := n
    obtain ⟨-, hr⟩ | ⟨s, w, rest, hf, hv, hr, rfl⟩ := readKnown_cons_eq_ok_iff.1 h
    · exact List.mem_cons_of_mem _ (ih hr hm)
    · obtain rfl := hk s (List.mem_of_find?_eq_some hf) v w hv
      obtain rfl | hm := List.mem_cons.1 hm
      · exact List.mem_cons_self
      · exact List.mem_cons_of_mem _ (ih hr hm)

theorem readInOrder_cons_eq_ok_iff {record : String} {fields length index : Nat} {slot : Slot}
    {v : Json} {vs : List Json} :
    readInOrder record fields length index (slot :: slots) (v :: vs) = .ok read ↔
      ∃ w rest, slot.form.ofValue v = .ok w ∧
        readInOrder record fields length (index + 1) slots vs = .ok rest ∧
        (slot.key, w) :: rest = read := by
  simp [readInOrder, bind_eq_ok_iff, pure, Except.pure]

theorem eq_nil_of_readInOrder_nil {record : String} {fields length index : Nat}
    (h : readInOrder record fields length index slots [] = .ok read) : read = [] := by
  induction slots generalizing index with
  | nil => simpa [readInOrder, eq_comm] using h
  | cons slot slots ih =>
    rw [readInOrder] at h
    split at h
    · cases h
    · exact ih h

theorem mem_of_mem_readInOrder {record : String} {fields length index : Nat} {vs : List Json}
    (hk : ∀ slot ∈ slots, slot.form.Keeps)
    (h : readInOrder record fields length index slots vs = .ok read) {m : String × Json}
    (hm : m ∈ read) : m.2 ∈ vs := by
  induction slots generalizing index vs read with
  | nil =>
    cases vs with
    | nil =>
      rw [eq_nil_of_readInOrder_nil h] at hm
      cases hm
    | cons v vs => cases h
  | cons slot slots ih =>
    cases vs with
    | nil =>
      rw [eq_nil_of_readInOrder_nil h] at hm
      cases hm
    | cons v vs =>
      obtain ⟨w, rest, hw, hr, rfl⟩ := readInOrder_cons_eq_ok_iff.1 h
      obtain rfl := hk slot List.mem_cons_self v w hw
      obtain rfl | hm := List.mem_cons.1 hm
      · exact List.mem_cons_self
      · exact List.mem_cons_of_mem _ (ih (fun s hs => hk s (List.mem_cons_of_mem _ hs)) hr hm)

theorem Accepts.exists_ofValue (ha : Accepts slots ms) {slot : Slot} (hs : slot ∈ slots) {v : Json}
    (hl : ms.lookup slot.key = some v) : ∃ w, slot.form.ofValue v = .ok w := by
  obtain ⟨l₁, l₂, rfl, -⟩ := List.lookup_eq_some_iff.1 hl
  exact ha (slot.key, v) (by simp) slot hs rfl

theorem value?_of_lookup {slot : Slot} {v w : Json} (hl : ms.lookup slot.key = some v)
    (hw : slot.form.ofValue v = .ok w) : slot.value? ms = some w := by
  rw [value?, hl, Option.bind_some, hw, Except.toOption]

theorem isSome_value? (ha : Accepts slots ms) {slot : Slot} (hs : slot ∈ slots) :
    (slot.value? ms).isSome = (ms.lookup slot.key).isSome := by
  cases hl : ms.lookup slot.key with
  | none => rw [value?, hl, Option.bind_none]
  | some v =>
    obtain ⟨w, hw⟩ := ha.exists_ofValue hs hl
    rw [value?_of_lookup hl hw, Option.isSome_some, Option.isSome_some]

theorem covers_of_lookup (ha : Accepts slots ms)
    (h : ∀ slot ∈ slots, read.lookup slot.key = slot.value? ms) :
    Covers slots read ↔ Covers slots ms := by
  refine forall_congr' fun slot => forall_congr' fun hs => ?_
  rw [h slot hs, isSome_value? ha hs]

theorem member?_keptAll (hn : (slots.map Slot.key).Nodup) {slot : Slot} (hs : slot ∈ slots) :
    (keptAll slots ms).member? slot.key = slot.kept? ms :=
  Json.lookup_table Slot.key (kept? · ms) hn hs

end Slot

namespace Form
open Slot
variable {slots own inner : List Slot} {ms : Members} {name : String} {v : Json}

theorem ofValue_record (hn : (slots.map Slot.key).Nodup) :
    (record name slots).ofValue (.object ms) = .ok v ↔
      Accepts slots ms ∧ Covers slots ms ∧ keptAll slots ms = v := by
  simp only [record, bind_eq_ok_iff, complete_eq_ok_iff]
  constructor
  · intro hex
    obtain ⟨read, hr, hc, hv⟩ := hex
    have ha := (readKnown_isOk_iff hn).1 ⟨read, hr⟩
    have hl (slot) (hs : slot ∈ slots) := lookup_readKnown hn hr hs
    exact ⟨ha, (covers_of_lookup ha hl).1 hc, by rw [← hv, normal_eq_keptAll hl]⟩
  · intro hex
    obtain ⟨ha, hc, hv⟩ := hex
    obtain ⟨read, hr⟩ := (readKnown_isOk_iff hn).2 ha
    have hl (slot) (hs : slot ∈ slots) := lookup_readKnown hn hr hs
    exact ⟨read, hr, (covers_of_lookup ha hl).2 hc, by rw [← hv, normal_eq_keptAll hl]⟩

theorem isNull_ofValue_record {w : Json} (h : (record name slots).ofValue v = .ok w) :
    w.isNull = false := by
  cases v with
  | object ms =>
    obtain ⟨read, -, hc⟩ := bind_eq_ok_iff.1 h
    obtain ⟨-, rfl⟩ := complete_eq_ok_iff.1 hc
    rfl
  | array vs =>
    obtain ⟨read, -, hc⟩ := bind_eq_ok_iff.1 h
    obtain rfl := Except.ok.inj hc
    rfl
  | _ => cases h

theorem mem_parts_of_ofValue_record (hk : ∀ slot ∈ slots, slot.form.Keeps) {n x : Json}
    {key : String} (h : (record name slots).ofValue v = .ok n) (hx : n.member? key = some x) :
    x ∈ v.parts := by
  cases v with
  | object ms =>
    obtain ⟨read, hr, hc⟩ := bind_eq_ok_iff.1 h
    obtain ⟨-, rfl⟩ := complete_eq_ok_iff.1 hc
    have hm := mem_of_mem_readKnown hk hr (mem_of_member?_normal hx)
    exact List.mem_map_of_mem hm
  | array vs =>
    obtain ⟨read, hr, hc⟩ := bind_eq_ok_iff.1 h
    obtain rfl := Except.ok.inj hc
    exact mem_of_mem_readInOrder hk hr (mem_of_member?_normal hx)
  | _ => cases h

theorem canonical_ofValue_record (hk : ∀ slot ∈ slots, slot.form.Keeps) {n x : Json} {key : String}
    (hv : v.Canonical) (h : (record name slots).ofValue v = .ok n) (hx : n.member? key = some x) :
    x.Canonical := hv.part (mem_parts_of_ofValue_record hk h hx)

theorem mem_parts_of_ofValue_merged (hk : ∀ slot ∈ own ++ inner, slot.form.Keeps) {n x : Json}
    {key : String} (h : (merged name own inner).ofValue v = .ok n) (hx : n.member? key = some x) :
    x ∈ v.parts := by
  cases v with
  | object ms =>
    obtain ⟨first, hf, h⟩ := bind_eq_ok_iff.1 h
    obtain ⟨second, hs, hc⟩ := bind_eq_ok_iff.1 h
    obtain ⟨-, rfl⟩ := complete_eq_ok_iff.1 hc
    have hm : (key, x) ∈ ms := by
      obtain hm | hm := List.mem_append.1 (mem_of_member?_normal hx)
      · exact mem_of_mem_readKnown (fun s hs => hk s (List.mem_append_left inner hs)) hf hm
      · exact mem_of_mem_readKnown (fun s hs => hk s (List.mem_append_right own hs)) hs hm
    exact List.mem_map_of_mem hm
  | _ => cases h

theorem canonical_ofValue_merged (hk : ∀ slot ∈ own ++ inner, slot.form.Keeps) {n x : Json}
    {key : String} (hv : v.Canonical) (h : (merged name own inner).ofValue v = .ok n)
    (hx : n.member? key = some x) : x.Canonical := hv.part (mem_parts_of_ofValue_merged hk h hx)

theorem accepts_append : Accepts (own ++ inner) ms ↔ Accepts own ms ∧ Accepts inner ms := by
  constructor
  · exact fun h => ⟨fun m hm slot hs => h m hm slot (List.mem_append_left inner hs),
      fun m hm slot hs => h m hm slot (List.mem_append_right own hs)⟩
  · intro h m hm slot hs
    obtain hs | hs := List.mem_append.1 hs
    · exact h.1 m hm slot hs
    · exact h.2 m hm slot hs

/-- No key is read in both passes over an object, so the passes together find what one would find. -/
theorem lookup_readKnown_append (hn : ((own ++ inner).map Slot.key).Nodup) {first second : Members}
    (hfirst : readKnown own ms = .ok first) (hsecond : readKnown inner ms = .ok second)
    {slot : Slot} (hs : slot ∈ own ++ inner) :
    (first ++ second).lookup slot.key = slot.value? ms := by
  rw [List.map_append, List.nodup_append] at hn
  obtain ⟨hown, hinner, hdisjoint⟩ := hn
  rw [List.lookup_append]
  obtain hs | hs := List.mem_append.1 hs
  · have hnone : second.lookup slot.key = none :=
      lookup_readKnown_of_forall_ne hinner hsecond fun s hsm hk =>
        hdisjoint slot.key (List.mem_map_of_mem hs) s.key (List.mem_map_of_mem hsm) hk.symm
    rw [lookup_readKnown hown hfirst hs, hnone, Option.or_none]
  · have hnone : first.lookup slot.key = none :=
      lookup_readKnown_of_forall_ne hown hfirst fun s hsm hk =>
        hdisjoint s.key (List.mem_map_of_mem hsm) slot.key (List.mem_map_of_mem hs) hk
    rw [lookup_readKnown hinner hsecond hs, hnone, Option.none_or]

/-- Two records in one object are read as one record with the slots of both. -/
theorem ofValue_merged (hn : ((own ++ inner).map Slot.key).Nodup) :
    (merged name own inner).ofValue (.object ms) = .ok v ↔
      Accepts (own ++ inner) ms ∧ Covers (own ++ inner) ms ∧ keptAll (own ++ inner) ms = v := by
  have hsplit := hn
  rw [List.map_append, List.nodup_append] at hsplit
  obtain ⟨hown, hinner, -⟩ := hsplit
  simp only [merged, bind_eq_ok_iff, complete_eq_ok_iff]
  constructor
  · intro hex
    obtain ⟨first, hf, second, hs, hc, hv⟩ := hex
    have ha := accepts_append.2
      ⟨(readKnown_isOk_iff hown).1 ⟨first, hf⟩, (readKnown_isOk_iff hinner).1 ⟨second, hs⟩⟩
    have hl (slot) (hm : slot ∈ own ++ inner) := lookup_readKnown_append hn hf hs hm
    exact ⟨ha, (covers_of_lookup ha hl).1 hc, by rw [← hv, normal_eq_keptAll hl]⟩
  · intro hex
    obtain ⟨ha, hc, hv⟩ := hex
    obtain ⟨first, hf⟩ := (readKnown_isOk_iff hown).2 (accepts_append.1 ha).1
    obtain ⟨second, hs⟩ := (readKnown_isOk_iff hinner).2 (accepts_append.1 ha).2
    have hl (slot) (hm : slot ∈ own ++ inner) := lookup_readKnown_append hn hf hs hm
    exact ⟨first, hf, second, hs, (covers_of_lookup ha hl).2 hc, by
      rw [← hv, normal_eq_keptAll hl]⟩

end Form
end ElementMetadata
