import ElementMetadata.Proofs.Record.Tabular

/-!
Plain records, whose every field obeys the law: what is read from an object is written again key by
key, and what is written is read as the same record.
-/
namespace ElementMetadata

/-- What values of a type are like in memory: no listed word's string is kept as an unlisted one,
and the keys of maps ascend. -/
class WellFormed (α : Type) where
  Proper : α → Prop
  Ordered : α → Prop

open WellFormed (Proper Ordered)

class Plain (α : Type) [Codec α] [WellFormed α] extends Tabular α where
  blank : Members
  law (f : Field α) : f ∈ fields → f.Law Codec.ofNormal (blank.lookup f.column.key)
  proper_ofNormal (v : Json) : Proper (Codec.ofNormal v : α)
  eq_of_write_eq (r s : α) : Proper r → Proper s →
    (∀ f ∈ fields, f.column.write r = f.column.write s) → r = s
  canonical_write (r : α) : Ordered r → ∀ f ∈ fields, ∀ x, f.column.write r = some x → x.Canonical
  canonical_ofValue : (∀ slot ∈ Field.slots fields, slot.form.Keeps) → ∀ v n : Json, v.Canonical →
    (Codec.form α).ofValue v = .ok n → ∀ key x, n.member? key = some x → x.Canonical
  ordered_ofNormal (n : Json) : (∀ key x, n.member? key = some x → x.Canonical) →
    Ordered (Codec.ofNormal n : α)

theorem Codec.read_eq_ok_iff {α : Type} [Codec α] {v : Json} {r : α} :
    Codec.read v = .ok r ↔ ∃ n, (Codec.form α).ofValue v = .ok n ∧ Codec.ofNormal n = r :=
  map_eq_ok_iff

theorem Json.text?_of_filter {v : Json} {key : String} {o : Option String}
    (h : (v.member? key).filter (!·.isNull) = o.map .string) : v.text? key = o := by
  rw [text?]
  cases o with
  | none =>
    split
    · next s hs =>
      rw [hs] at h
      cases h
    · rfl
  | some s =>
    obtain ⟨hm, -⟩ := Option.filter_eq_some_iff.1 h
    rw [hm]

namespace Plain
variable {α : Type} [Codec α] [WellFormed α] [Plain α] {v : Json} {ms : Members} {r : α}
open Tabular (fields slots_nodup Carries)

theorem proper_of_read (h : Codec.read v = .ok r) : Proper r := by
  obtain ⟨n, -, rfl⟩ := Codec.read_eq_ok_iff.1 h
  exact proper_ofNormal n

theorem keeps (slot : Slot) (hs : slot ∈ Field.slots (fields (α := α))) : slot.form.Keeps := by
  obtain ⟨f, hf, rfl⟩ := List.mem_map.1 hs
  exact (law f hf).keeps

theorem ordered_of_read (hv : v.Canonical) (h : Codec.read v = .ok r) : Ordered r := by
  obtain ⟨n, hn, rfl⟩ := Codec.read_eq_ok_iff.1 h
  exact ordered_ofNormal n (canonical_ofValue keeps v n hv hn)

theorem value?_eq (ha : Slot.Accepts (Field.slots (fields (α := α))) ms) {f : Field α}
    (hf : f ∈ fields) : f.slot.value? ms = ms.lookup f.column.key := by
  cases hl : ms.lookup f.column.key with
  | none => rw [Slot.value?, Field.slot_key, hl, Option.bind_none]
  | some v =>
    obtain ⟨w, hw⟩ := ha.exists_ofValue (Field.mem_slots hf) hl
    rw [Slot.value?_of_lookup hl hw, (law f hf).keeps v w hw]

theorem member?_keptAll (ha : Slot.Accepts (Field.slots (fields (α := α))) ms) {f : Field α}
    (hf : f ∈ fields) : (Slot.keptAll (Field.slots (fields (α := α))) ms).member? f.column.key =
      (ms.lookup f.column.key).filter (!·.isNull) := by
  rw [← Field.slot_key, Slot.member?_keptAll slots_nodup (Field.mem_slots hf), Slot.kept?,
    value?_eq ha hf, Field.slot_key]

theorem write_of_read (h : Codec.read (.object ms) = .ok r) {f : Field α} (hf : f ∈ fields) :
    f.column.write r =
      ((ms.lookup f.column.key).filter (!·.isNull)).or ((blank α).lookup f.column.key) := by
  obtain ⟨ha, hc, rfl⟩ := Tabular.read_object_eq_ok_iff.1 h
  have hm := member?_keptAll ha hf
  rw [← hm]
  refine (law f hf).write_make _ ?_ ?_
  · intro x hx
    obtain ⟨hl, hn⟩ := Option.filter_eq_some_iff.1 (hm.symm.trans hx)
    obtain ⟨w, hw⟩ := ha.exists_ofValue (Field.mem_slots hf) hl
    obtain rfl := (law f hf).keeps x w hw
    refine ⟨hw, ?_⟩
    intro hnull
    subst hnull
    cases hn
  · intro hneeded
    obtain ⟨v, hl⟩ := Option.isSome_iff_exists.1 (hc f.slot (Field.mem_slots hf) hneeded)
    obtain ⟨w, hw⟩ := ha.exists_ofValue (Field.mem_slots hf) hl
    obtain rfl := (law f hf).keeps v w hw
    have hn := (law f hf).not_null w w hneeded hw
    rw [Field.slot_key] at hl
    simp [hm, hl, Option.filter, hn]

theorem field_value?_of_read (h : Codec.read (.object ms) = .ok r) {f : Field α} (hf : f ∈ fields) :
    f.value? r = ((ms.lookup f.column.key).filter (!·.isNull)).or
      (((blank α).lookup f.column.key).filter (!·.isNull)) := by
  rw [Field.value?, write_of_read h hf]
  cases hx : (ms.lookup f.column.key).filter (!·.isNull) with
  | none => rfl
  | some x =>
    have hn := (Option.filter_eq_some_iff.1 hx).2
    rw [Option.some_or, Option.some_or, Option.filter_some, if_pos hn]

theorem text?_of_read (h : Codec.read (.object ms) = .ok r) {key : String} {get : α → Option String}
    (hf : Field.optional key .text (fun r => (get r).map .string) ∈ fields)
    (hb : (blank α).lookup key = none) : (Json.object ms).text? key = get r := by
  have hv := field_value?_of_read h hf
  rw [Field.value?_optional Cell.text, Field.optional_column, Column.omitted_key, hb,
    Option.filter_none, Option.or_none] at hv
  exact Json.text?_of_filter hv.symm

theorem read_of_carries {g : Json → Json} (h : Carries g r ms) (hp : Proper r)
    (hg : ∀ f ∈ fields (α := α), ∀ x, f.column.write r = some x → g x = x) :
    Codec.read (.object ms) = .ok r := by
  have hread := Tabular.read_of_carries h
    (fun f hf x hx => ⟨x, by rw [hg f hf x hx, (law f hf).ofValue_write r x hx]⟩)
    (fun f hf => (law f hf).isSome_write r)
  rw [hread]
  -- What is read is compared with `r` by what both write, since that is known key by key.
  refine congrArg _ (eq_of_write_eq _ _ (proper_ofNormal _) hp fun f hf => ?_)
  have hl : ms.lookup f.column.key = f.column.write r := by
    rw [h.lookup f hf]
    cases hx : f.column.write r with
    | none => rfl
    | some x => rw [Option.map_some, hg f hf x hx]
  rw [write_of_read hread hf, hl, (law f hf).filter_or_blank]

theorem read_toJson (hp : Proper r) : Codec.read (Codec.toJson r) = .ok r := by
  rw [Tabular.toJson_eq]
  exact read_of_carries (Tabular.carries_written r) hp fun _ _ _ _ => rfl

theorem read_canonical_toJson (hp : Proper r) (ho : Ordered r) :
    Codec.read (Codec.toJson r).canonical = .ok r := by
  obtain ⟨ms, hms, hc⟩ := Tabular.exists_canonical_toJson r
  rw [hms]
  exact read_of_carries hc hp (canonical_write r ho)

end Plain
end ElementMetadata
