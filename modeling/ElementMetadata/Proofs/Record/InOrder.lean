import ElementMetadata.Proofs.Record.Plain

/-!
Records that are read from arrays. Items are read by the slots in declaration order, which comes to
reading the object that holds them at the keys of these slots. The two differ in what they do with
the other slots: the end of an array asks of each one whether it has to be there, an object is asked
for the missing ones after it was read.
-/
namespace ElementMetadata

namespace Slot
variable {slots suffix : List Slot} {vs : List Json} {ms ns read : Members}

theorem readInOrder_eq_ok_iff (hn : (slots.map Slot.key).Nodup) (hs : ∀ slot ∈ suffix, slot ∈ slots)
    {record : String} {fields length index : Nat} :
    readInOrder record fields length index suffix vs = .ok read ↔
      vs.length ≤ suffix.length ∧ (∀ slot ∈ suffix.drop vs.length, slot.needed = false) ∧
        readKnown slots ((suffix.map Slot.key).zip vs) = .ok read := by
  induction suffix generalizing index vs read with
  | nil =>
    cases vs with
    | nil => simp [readInOrder, readKnown]
    | cons v vs => simp [readInOrder]
  | cons slot suffix ih =>
    have hslot : find? slots slot.key = some slot :=
      (find?_eq_some_iff hn).2 ⟨hs slot List.mem_cons_self, rfl⟩
    have hsuffix : ∀ s ∈ suffix, s ∈ slots := fun s h => hs s (List.mem_cons_of_mem slot h)
    cases vs with
    | nil =>
      rw [readInOrder]
      cases hneeded : slot.needed with
      | false => simp [hneeded, ih hsuffix]
      | true => simp [hneeded]
    | cons v vs =>
      rw [readInOrder_cons_eq_ok_iff, List.map_cons, List.zip_cons_cons, readKnown_cons_eq_ok_iff]
      simp only [hslot, reduceCtorEq, false_and, false_or, Option.some.injEq, exists_and_left,
        exists_eq_left', ih hsuffix, List.length_cons, Nat.add_le_add_iff_right, List.drop_succ_cons]
      grind

theorem covers_zip_iff (hn : (slots.map Slot.key).Nodup) :
    Covers slots ((slots.map Slot.key).zip vs) ↔
      ∀ slot ∈ slots.drop vs.length, slot.needed = false := by
  have hkeys (slot : Slot) : (((slots.map Slot.key).zip vs).lookup slot.key).isSome ↔
      slot.key ∈ (slots.take vs.length).map Slot.key := by
    rw [Json.isSome_lookup, Json.map_fst_zip, List.map_take]
  rw [← List.take_append_drop vs.length slots, List.map_append, List.nodup_append] at hn
  obtain ⟨-, -, hdisjoint⟩ := hn
  constructor
  · intro h slot hs
    by_contra hneeded
    have hmem := (hkeys slot).1 (h slot (List.mem_of_mem_drop hs) (by simpa using hneeded))
    exact hdisjoint slot.key hmem slot.key (List.mem_map_of_mem hs) rfl
  · intro h slot hs hneeded
    rw [hkeys]
    rw [← List.take_append_drop vs.length slots, List.mem_append] at hs
    obtain hs | hs := hs
    · exact List.mem_map_of_mem hs
    · rw [h slot hs] at hneeded
      cases hneeded

end Slot

namespace Form
open Slot
variable {slots : List Slot} {name : String} {vs : List Json} {ms ns : Members} {v : Json}

theorem ofValue_record_of_perm (hn : (slots.map Slot.key).Nodup) (hkeys : (ms.map Prod.fst).Nodup)
    (h : ms.Perm ns) :
    (record name slots).ofValue (.object ms) = .ok v ↔
      (record name slots).ofValue (.object ns) = .ok v := by
  have hlookup (key : String) : ms.lookup key = ns.lookup key := Json.lookup_eq_of_perm hkeys h
  rw [ofValue_record hn, ofValue_record hn]
  refine and_congr ?_ (and_congr ?_ ?_)
  · exact forall_congr' fun m => imp_congr_left h.mem_iff
  · simp only [Covers, hlookup]
  · simp only [keptAll, kept?, value?, hlookup]

theorem ofValue_record_array (hn : (slots.map Slot.key).Nodup) :
    (record name slots).ofValue (.array vs) = .ok v ↔
      vs.length ≤ slots.length ∧
        (record name slots).ofValue (.object ((slots.map Slot.key).zip vs)) = .ok v := by
  simp only [record, bind_eq_ok_iff, readInOrder_eq_ok_iff hn fun _ h => h, complete_eq_ok_iff,
    ← covers_zip_iff hn, pure, Except.pure, Except.ok.injEq]
  -- Nothing needed is missing from the object exactly if nothing needed is missing from what is read.
  have hcovers {read} (h : readKnown slots ((slots.map Slot.key).zip vs) = .ok read) :
      Covers slots read ↔ Covers slots ((slots.map Slot.key).zip vs) :=
    covers_of_lookup ((readKnown_isOk_iff hn).1 ⟨read, h⟩) fun slot hs => lookup_readKnown hn h hs
  constructor
  · intro hex
    obtain ⟨read, ⟨hlength, hc, hr⟩, hv⟩ := hex
    exact ⟨hlength, read, hr, (hcovers hr).2 hc, hv⟩
  · intro hex
    obtain ⟨hlength, read, hr, hc, hv⟩ := hex
    exact ⟨read, ⟨hlength, (hcovers hr).1 hc, hr⟩, hv⟩

end Form

/-- An array is read as the object is that holds its items at the keys in their order, whatever the
order of the members, and it is not read if there are more items than keys. -/
structure ReadsInOrder (α : Type) [Codec α] (keys : List String) : Prop where
  read_iff (vs : List Json) (ms : Members) (r : α) : ms.Perm (keys.zip vs) →
    (Codec.read (.array vs) = .ok r ↔ vs.length ≤ keys.length ∧ Codec.read (.object ms) = .ok r)
  not_read (vs : List Json) (r : α) : keys.length < vs.length → Codec.read (.array vs) ≠ .ok r

theorem ReadsInOrder.of_record {α : Type} [Codec α] [Tabular α] {name : String}
    (hform : Codec.form α = .record name (Field.slots (Tabular.fields (α := α)))) :
    ReadsInOrder α (Field.keys (Tabular.fields (α := α))) where
  read_iff vs ms r hperm := by
    have hn := Tabular.slots_nodup (α := α)
    rw [← Field.map_key_slots] at hperm ⊢
    have hkeys := (hperm.map Prod.fst).nodup_iff.2 (Json.nodup_zip hn vs)
    simp only [Codec.read_eq_ok_iff, hform, Form.ofValue_record_array hn,
      Form.ofValue_record_of_perm hn hkeys hperm, List.length_map, and_assoc, exists_and_left]
  not_read vs r hlong h := by
    have hn := Tabular.slots_nodup (α := α)
    obtain ⟨n, hread, -⟩ := Codec.read_eq_ok_iff.1 h
    rw [hform, Form.ofValue_record_array hn] at hread
    rw [← Field.map_key_slots, List.length_map] at hlong
    exact absurd hread.1 (Nat.not_le.2 hlong)

end ElementMetadata
