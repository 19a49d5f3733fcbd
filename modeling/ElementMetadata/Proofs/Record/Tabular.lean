import ElementMetadata.Proofs.Record.Cell
import ElementMetadata.Proofs.Record.Reading

/-!
Records that are read and written by one table of fields. A field obeys a law if what it writes is
accepted again, and if it writes from a normal form what stands there, or else a blank value.
-/
namespace ElementMetadata

namespace Column
variable {ρ : Type} {r : ρ}

@[simp] theorem always_key (key : String) (write : ρ → Json) : (always key write).key = key := rfl

@[simp] theorem omitted_key (key : String) (write : ρ → Option Json) :
    (omitted key write).key = key := rfl

@[simp] theorem nullable_key (key : String) (write : ρ → Option Json) :
    (nullable key write).key = key := rfl

@[simp] theorem always_write (key : String) (write : ρ → Json) :
    (always key write).write r = some (write r) := rfl

@[simp] theorem omitted_write (key : String) (write : ρ → Option Json) :
    (omitted key write).write r = write r := rfl

@[simp] theorem nullable_write (key : String) (write : ρ → Option Json) :
    (nullable key write).write r = some (.ofOption (write r)) := rfl

end Column

namespace Field
variable {ρ : Type} {fields : List (Field ρ)} {r : ρ}

def keys (fields : List (Field ρ)) : List String := fields.map fun f => f.column.key

def written (fields : List (Field ρ)) (r : ρ) : Members :=
  fields.filterMap fun f => (f.column.write r).map (f.column.key, ·)

@[simp] theorem slot_key (f : Field ρ) : f.slot.key = f.column.key := rfl

@[simp] theorem within_slot {σ : Type} (f : Field ρ) (part : σ → ρ) :
    (f.within part).slot = f.slot := rfl

@[simp] theorem required_column (key : String) (form : Form) (write : ρ → Json) :
    (Field.required key form write).column = .always key write := rfl

@[simp] theorem optional_column (key : String) (form : Form) (write : ρ → Option Json) :
    (Field.optional key form write).column = .omitted key write := rfl

@[simp] theorem nullable_column (key : String) (form : Form) (write : ρ → Option Json) :
    (Field.nullable key form write).column = .nullable key write := rfl

@[simp] theorem defaulted_column (key : String) (form : Form) (write : ρ → Json) :
    (Field.defaulted key form write).column = .always key write := rfl

theorem map_key_slots : (slots fields).map Slot.key = keys fields := by
  simp [slots, keys, slot]

theorem mem_slots {f : Field ρ} (hf : f ∈ fields) : f.slot ∈ slots fields := List.mem_map_of_mem hf

theorem writeAll_eq : writeAll fields r = .object (written fields r) := by
  simp [writeAll, Column.writeAll, written, List.filterMap_map]

theorem mem_written {m : String × Json} : m ∈ written fields r ↔
    ∃ f ∈ fields, ∃ x, f.column.write r = some x ∧ (f.column.key, x) = m := by
  simp [written]

theorem lookup_written (hn : (keys fields).Nodup) {f : Field ρ} (hf : f ∈ fields) :
    (written fields r).lookup f.column.key = f.column.write r :=
  Json.lookup_table (fun f : Field ρ => f.column.key) (fun f => f.column.write r) hn hf

theorem lookup_written_of_not_mem {k : String} (hk : k ∉ keys fields) :
    (written fields r).lookup k = none :=
  Json.lookup_table_of_forall_ne _ _ fun _ hf h => hk (h ▸ List.mem_map_of_mem hf)

theorem nodup_written (hn : (keys fields).Nodup) : ((written fields r).map Prod.fst).Nodup :=
  Json.nodup_table (fun f : Field ρ => f.column.key) (fun f => f.column.write r) hn

def value? (f : Field ρ) (r : ρ) : Option Json := (f.column.write r).filter (!·.isNull)

section Value
variable {α : Type} {form : Form} {write : α → Json} {take : Json → String → Option α}
  {key : String}

theorem value?_required (c : Cell form write take) (get : ρ → α) (r : ρ) :
    (Field.required key form fun r => write (get r)).value? r = some (write (get r)) :=
  c.filter_write (get r)

theorem value?_optional (c : Cell form write take) (get : ρ → Option α) (r : ρ) :
    (Field.optional key form fun r => (get r).map write).value? r = (get r).map write := by
  rw [value?, optional_column, Column.omitted_write]
  cases get r with
  | none => rfl
  | some a => exact c.filter_write a

theorem value?_nullable (c : Cell form write take) (get : ρ → Option α) (r : ρ) :
    (Field.nullable key form fun r => (get r).map write).value? r = (get r).map write := by
  rw [value?, nullable_column, Column.nullable_write]
  cases get r with
  | none => rfl
  | some a => exact c.filter_write a

theorem value?_defaulted (c : Cell form write take) (get : ρ → α) (r : ρ) :
    (Field.defaulted key form fun r => write (get r)).value? r = some (write (get r)) :=
  c.filter_write (get r)

theorem bind_value?_optional (c : Cell form write take) (get : ρ → Option α) (o : Option ρ) :
    o.bind (Field.optional key form fun r => (get r).map write).value? =
      (o.bind get).map write := by
  cases o with
  | none => rfl
  | some r => exact value?_optional c get r

theorem bind_value?_nullable (c : Cell form write take) (get : ρ → Option α) (o : Option ρ) :
    o.bind (Field.nullable key form fun r => (get r).map write).value? =
      (o.bind get).map write := by
  cases o with
  | none => rfl
  | some r => exact value?_nullable c get r

end Value

/-- How one field's reading and writing agree: `make` builds a record from a normal form, and
`blank` is what is written at the field's key where nothing was read. -/
structure Law (f : Field ρ) (make : Json → ρ) (blank : Option Json) : Prop where
  keeps : f.form.Keeps
  not_null (v w : Json) : f.needed → f.form.ofValue v = .ok w → w.isNull = false
  ofValue_write (r : ρ) (x : Json) : f.column.write r = some x → f.form.ofValue x = .ok x
  isSome_write (r : ρ) : f.needed → (f.column.write r).isSome
  write_make (v : Json) : f.form.FitsAt v f.column.key →
    (f.needed → (v.member? f.column.key).isSome) →
    f.column.write (make v) = (v.member? f.column.key).or blank
  filter_or_blank (r : ρ) :
    ((f.column.write r).filter (!·.isNull)).or blank = f.column.write r

namespace Law
variable {α : Type} {form : Form} {write : α → Json} {take : Json → String → Option α}
  {make : Json → ρ} {key : String}

theorem required (c : Cell form write take) (get : ρ → α) (d : α)
    (h : ∀ v, get (make v) = (take v key).getD d) :
    Law (.required key form fun r => write (get r)) make none where
  keeps := c.encodes.keeps
  not_null v w _ hv := by
    obtain ⟨a, -, rfl⟩ := (c.encodes v w).1 hv
    exact c.isNull_write a
  ofValue_write r x hx := by
    obtain rfl : write (get r) = x := Option.some.inj hx
    exact c.encodes.ofValue_write _
  isSome_write r _ := rfl
  write_make v hv hn := by
    obtain ⟨x, hx⟩ := Option.isSome_iff_exists.1 (hn rfl)
    have ht := c.map_take v key hv
    simp only [required_column, Column.always_key, Column.always_write] at hx ⊢
    rw [hx] at ht ⊢
    obtain ⟨a, ha, rfl⟩ := Option.map_eq_some_iff.1 ht
    simp [h, ha]
  filter_or_blank r := by simp [c.filter_write]

theorem ofValue_optional_write (c : Cell form write take) {a : Option α} {x : Json}
    (hx : a.map write = some x) : form.optional.ofValue x = .ok x := by
  obtain ⟨a, -, rfl⟩ := Option.map_eq_some_iff.1 hx
  have hn : write a ≠ .null := by
    intro h
    have := c.isNull_write a
    rw [h] at this
    cases this
  exact Form.ofValue_optional.2 (.inr ⟨hn, c.encodes.ofValue_write a⟩)

theorem optional (c : Cell form write take) (get : ρ → Option α)
    (h : ∀ v, get (make v) = take v key) :
    Law (.optional key form fun r => (get r).map write) make none where
  keeps := c.encodes.keeps.optional
  not_null _ _ := nofun
  ofValue_write _ _ hx := ofValue_optional_write c hx
  isSome_write _ := nofun
  write_make v hv _ := by
    have ht := c.map_take v key (Form.FitsAt.of_optional hv)
    simpa [h] using ht
  filter_or_blank r := by
    cases hg : get r <;> simp [hg, c.filter_write]

theorem nullable (c : Cell form write take) (get : ρ → Option α)
    (h : ∀ v, get (make v) = take v key) :
    Law (.nullable key form fun r => (get r).map write) make (some .null) where
  keeps := c.encodes.keeps.optional
  not_null _ _ := nofun
  ofValue_write r x hx := by
    obtain rfl : Json.ofOption ((get r).map write) = x := Option.some.inj hx
    cases hg : get r with
    | none => rfl
    | some a => exact ofValue_optional_write (a := some a) c rfl
  isSome_write _ := nofun
  write_make v hv _ := by
    have ht := c.map_take v key (Form.FitsAt.of_optional hv)
    simp only [nullable_column, Column.nullable_key, Column.nullable_write, h, ht]
    cases v.member? key <;> rfl
  filter_or_blank r := by
    cases hg : get r with
    | none => simp only [nullable_column, Column.nullable_write, hg]; rfl
    | some a => simp [hg, Json.ofOption, c.filter_write]

theorem defaulted (c : Cell form write take) (get : ρ → α) (d : α)
    (h : ∀ v, get (make v) = (take v key).getD d) :
    Law (.defaulted key form fun r => write (get r)) make (some (write d)) where
  keeps := c.encodes.keeps
  not_null _ _ := nofun
  ofValue_write r x hx := by
    obtain rfl : write (get r) = x := Option.some.inj hx
    exact c.encodes.ofValue_write _
  isSome_write _ := nofun
  write_make v hv _ := by
    have ht := c.map_take v key hv
    simp only [defaulted_column, Column.always_key, Column.always_write, h, ← ht]
    cases take v key <;> rfl
  filter_or_blank r := by simp [c.filter_write]

theorem within {σ : Type} {f : Field ρ} {blank : Option Json} (l : Law f make blank) {part : σ → ρ}
    {whole : Json → σ} (h : ∀ v, part (whole v) = make v) : Law (f.within part) whole blank where
  keeps := l.keeps
  not_null := l.not_null
  ofValue_write s := l.ofValue_write (part s)
  isSome_write s := l.isSome_write (part s)
  write_make v hv hn := by
    have hw := l.write_make v hv hn
    rwa [← h] at hw
  filter_or_blank s := l.filter_or_blank (part s)

end Law
end Field

class Tabular (α : Type) [Codec α] where
  fields : List (Field α)
  keys_nodup : (Field.keys fields).Nodup
  ofValue_object (ms : Members) (v : Json) : (Codec.form α).ofValue (.object ms) = .ok v ↔
    Slot.Accepts (Field.slots fields) ms ∧ Slot.Covers (Field.slots fields) ms ∧
      Slot.keptAll (Field.slots fields) ms = v
  toJson_eq (r : α) : Codec.toJson r = .object (Field.written fields r)

namespace Tabular
variable {α : Type} [Codec α] [Tabular α] {ms : Members} {r : α}

theorem slots_nodup : ((Field.slots (fields (α := α))).map Slot.key).Nodup := by
  rw [Field.map_key_slots]
  exact keys_nodup

theorem read_object_eq_ok_iff : Codec.read (.object ms) = .ok r ↔
    Slot.Accepts (Field.slots (fields (α := α))) ms ∧
      Slot.Covers (Field.slots (fields (α := α))) ms ∧
      Codec.ofNormal (Slot.keptAll (Field.slots (fields (α := α))) ms) = r := by
  simp only [Codec.read, map_eq_ok_iff, ofValue_object]
  constructor
  · intro hex
    obtain ⟨v, ⟨ha, hc, rfl⟩, hr⟩ := hex
    exact ⟨ha, hc, hr⟩
  · intro hex
    obtain ⟨ha, hc, hr⟩ := hex
    exact ⟨_, ⟨ha, hc, rfl⟩, hr⟩

theorem exists_read_iff (hn : ∀ slot ∈ Field.slots (fields (α := α)), slot.needed = false) :
    (∃ r : α, Codec.read (.object ms) = .ok r) ↔ Slot.Accepts (Field.slots (fields (α := α))) ms := by
  constructor
  · rintro ⟨r, hr⟩
    exact (read_object_eq_ok_iff.1 hr).1
  · intro ha
    have hc : Slot.Covers (Field.slots (fields (α := α))) ms := by
      intro slot hs hneeded
      rw [hn slot hs] at hneeded
      cases hneeded
    exact ⟨_, read_object_eq_ok_iff.2 ⟨ha, hc, rfl⟩⟩

/-- Members that hold at the known keys what was written there, changed by `g`, and nothing else. -/
structure Carries (g : Json → Json) (r : α) (ms : Members) : Prop where
  mem (m : String × Json) : m ∈ ms →
    ∃ f ∈ fields (α := α), ∃ x, f.column.write r = some x ∧ (f.column.key, g x) = m
  lookup (f : Field α) : f ∈ fields → ms.lookup f.column.key = (f.column.write r).map g

theorem carries_written (r : α) : Carries id r (Field.written fields r) where
  mem _ hm := Field.mem_written.1 hm
  lookup f hf := by rw [Field.lookup_written keys_nodup hf, Option.map_id_fun, id]

theorem exists_canonical_toJson (r : α) :
    ∃ ms, (Codec.toJson r).canonical = .object ms ∧ Carries Json.canonical r ms := by
  refine ⟨_, by rw [toJson_eq, Json.canonical, Json.canonicalMembers_eq_map], ?_, ?_⟩
  · intro m hm
    obtain ⟨n, hn, rfl⟩ := List.mem_map.1 (Json.mem_of_mem_sortMembers hm)
    obtain ⟨f, hf, x, hx, rfl⟩ := Field.mem_written.1 hn
    exact ⟨f, hf, x, hx, rfl⟩
  · intro f hf
    have hn := Field.nodup_written (r := r) (keys_nodup (α := α))
    rw [Json.lookup_sortMembers (by simpa [Function.comp_def] using hn), Json.lookup_map_value,
      Field.lookup_written keys_nodup hf]

theorem read_of_carries {g : Json → Json} (h : Carries g r ms)
    (hok : ∀ f ∈ fields (α := α), ∀ x, f.column.write r = some x →
      ∃ y, f.form.ofValue (g x) = .ok y)
    (hneed : ∀ f ∈ fields (α := α), f.needed → (f.column.write r).isSome) :
    Codec.read (.object ms) =
      .ok (Codec.ofNormal (Slot.keptAll (Field.slots (fields (α := α))) ms) : α) := by
  refine read_object_eq_ok_iff.2 ⟨?_, ?_, rfl⟩
  · intro m hm slot hs hk
    obtain ⟨f, hf, x, hx, rfl⟩ := h.mem m hm
    obtain rfl := Slot.eq_of_key_eq slots_nodup hs (Field.mem_slots hf) hk
    exact hok f hf x hx
  · intro slot hs hneeded
    obtain ⟨f, hf, rfl⟩ := List.mem_map.1 hs
    have hl := h.lookup f hf
    simp only [Field.slot] at hl hneeded ⊢
    rw [hl, Option.isSome_map]
    exact hneed f hf hneeded

end Tabular
end ElementMetadata
