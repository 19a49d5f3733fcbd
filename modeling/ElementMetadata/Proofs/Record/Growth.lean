import ElementMetadata.Proofs.Json.Members
import ElementMetadata.Proofs.Record.Reading

/-!
Records that grow. A record grows by members at keys that it does not know, and the values at its
known keys may grow in their turn. A form that is blind to the growth of its values reads the grown
value as it reads the other, also where it refuses both.
-/
namespace ElementMetadata

abbrev Growth := Json → Json → Prop

/-- The known keys of a record in declaration order, and how the values there may grow. -/
abbrev KnownKeys := List (String × Growth)

/-- Members to which others are added at unknown keys, at any places, while known ones may grow. -/
inductive MembersGrow (known : KnownKeys) : Members → Members → Prop
  | nil : MembersGrow known [] []
  | add {key : String} {v : Json} {ms ns : Members} : (∀ k ∈ known, k.1 ≠ key) →
      MembersGrow known ms ns → MembersGrow known ms ((key, v) :: ns)
  | grow {key : String} {growth : Growth} {v w : Json} {ms ns : Members} :
      (key, growth) ∈ known → growth v w →
      MembersGrow known ms ns → MembersGrow known ((key, v) :: ms) ((key, w) :: ns)
  | keep {m : String × Json} {ms ns : Members} :
      MembersGrow known ms ns → MembersGrow known (m :: ms) (m :: ns)

inductive FieldsGrow : List Growth → List Json → List Json → Prop
  | nil {growths : List Growth} : FieldsGrow growths [] []
  | beyond {vs : List Json} : FieldsGrow [] vs vs
  | cons {growth : Growth} {growths : List Growth} {v w : Json} {vs ws : List Json} :
      growth v w → FieldsGrow growths vs ws → FieldsGrow (growth :: growths) (v :: vs) (w :: ws)

/-- Growth of a record with these known keys. What is neither an object nor an array stays. -/
inductive RecordGrows (known : KnownKeys) : Json → Json → Prop
  | same {v : Json} : RecordGrows known v v
  | members {ms ns : Members} : MembersGrow known ms ns →
      RecordGrows known (.object ms) (.object ns)
  | fields {vs ws : List Json} : FieldsGrow (known.map Prod.snd) vs ws →
      RecordGrows known (.array vs) (.array ws)

inductive ListGrows (growth : Growth) : Json → Json → Prop
  | same {v : Json} : ListGrows growth v v
  | items {vs ws : List Json} : List.Forall₂ growth vs ws →
      ListGrows growth (.array vs) (.array ws)

def fixedKeys (keys : List String) : KnownKeys := keys.map fun key => (key, Eq)

namespace MembersGrow
variable {known : KnownKeys} {ms ns : Members}

theorem refl (known : KnownKeys) (ms : Members) : MembersGrow known ms ms := by
  induction ms with
  | nil => exact .nil
  | cons m ms ih => exact .keep ih

theorem insertMember {key : String} {v : Json} (h : MembersGrow known ms ns)
    (hkey : ∀ k ∈ known, k.1 ≠ key) (hfresh : ∀ m ∈ ns, m.1 ≠ key) :
    MembersGrow known ms (Json.insertMember key v ns) := by
  -- Whatever the first grown member is, the new one goes in front of it or further behind.
  induction h with
  | nil => exact .add hkey .nil
  | @add k x ms ns hk hrest ih =>
    have hne : key ≠ k := (hfresh (k, x) List.mem_cons_self).symm
    by_cases hlt : key < k
    · rw [Json.insertMember, if_pos hlt]
      exact .add hkey (.add hk hrest)
    · rw [Json.insertMember, if_neg hlt, if_neg hne]
      exact .add hk (ih fun n hn => hfresh n (List.mem_cons_of_mem _ hn))
  | @grow k growth x y ms ns hk hxy hrest ih =>
    have hne : key ≠ k := (hfresh (k, y) List.mem_cons_self).symm
    by_cases hlt : key < k
    · rw [Json.insertMember, if_pos hlt]
      exact .add hkey (.grow hk hxy hrest)
    · rw [Json.insertMember, if_neg hlt, if_neg hne]
      exact .grow hk hxy (ih fun n hn => hfresh n (List.mem_cons_of_mem _ hn))
  | @keep m ms ns hrest ih =>
    have hne : key ≠ m.1 := (hfresh m List.mem_cons_self).symm
    by_cases hlt : key < m.1
    · rw [Json.insertMember, if_pos hlt]
      exact .add hkey (.keep hrest)
    · rw [Json.insertMember, if_neg hlt, if_neg hne]
      exact .keep (ih fun n hn => hfresh n (List.mem_cons_of_mem _ hn))

theorem lookup (h : MembersGrow known ms ns) (hn : (known.map Prod.fst).Nodup) {key : String}
    {growth : Growth} (hk : (key, growth) ∈ known) (hrefl : ∀ v, growth v v) :
    Option.Rel growth (ms.lookup key) (ns.lookup key) := by
  induction h with
  | nil => exact .none
  | @add k v ms ns hfresh _ ih =>
    have hne : key ≠ k := hfresh (key, growth) hk
    rwa [Json.lookup_cons_of_ne v hne]
  | @grow k other v w ms ns hother hgrow _ ih =>
    by_cases heq : key = k
    · subst heq
      have hsame : other = growth :=
        congrArg Prod.snd (List.inj_on_of_nodup_map hn hother hk rfl)
      rw [List.lookup_cons_self, List.lookup_cons_self]
      exact .some (hsame ▸ hgrow)
    · rwa [Json.lookup_cons_of_ne v heq, Json.lookup_cons_of_ne w heq]
  | @keep m ms ns _ ih =>
    obtain ⟨k, v⟩ := m
    by_cases heq : key = k
    · subst heq
      rw [List.lookup_cons_self, List.lookup_cons_self]
      exact .some (hrefl v)
    · rwa [Json.lookup_cons_of_ne v heq, Json.lookup_cons_of_ne v heq]

end MembersGrow

theorem FieldsGrow.length_eq {growths : List Growth} {vs ws : List Json}
    (h : FieldsGrow growths vs ws) : ws.length = vs.length := by
  induction h with
  | nil => rfl
  | beyond => rfl
  | cons _ _ ih => rw [List.length_cons, List.length_cons, ih]

theorem RecordGrows.isNull_eq {known : KnownKeys} {v w : Json} (h : RecordGrows known v w) :
    w.isNull = v.isNull := by
  cases h <;> rfl

namespace Form
variable {form : Form} {growth : Growth} {known : KnownKeys} {slots own inner : List Slot}
  {name : String}

def Blind (form : Form) (growth : Growth) : Prop :=
  ∀ v w, growth v w → form.ofValue w = form.ofValue v

theorem blind_eq (form : Form) : form.Blind Eq := by
  rintro v w rfl
  rfl

theorem Blind.list (h : form.Blind growth) : form.list.Blind (ListGrows growth) := by
  intro v w hgrows
  cases hgrows with
  | same => rfl
  | @items vs ws hitems =>
    have hmapM : ws.mapM form.ofValue = vs.mapM form.ofValue := by
      induction hitems with
      | nil => rfl
      | @cons v w vs ws hvw _ ih => rw [List.mapM_cons, List.mapM_cons, h v w hvw, ih]
    simp only [Form.list, hmapM]

def BlindAt (slots : List Slot) (known : KnownKeys) : Prop :=
  ∀ slot ∈ slots, (∃ k ∈ known, k.1 = slot.key) ∧
    ∀ k ∈ known, k.1 = slot.key → slot.form.Blind k.2

theorem readKnown_of_grows (h : BlindAt slots known) {ms ns : Members}
    (hgrows : MembersGrow known ms ns) : Slot.readKnown slots ns = Slot.readKnown slots ms := by
  induction hgrows with
  | nil => rfl
  | @add key v ms ns hfresh _ ih =>
    have hfind : Slot.find? slots key = none := by
      rw [Slot.find?_eq_none_iff]
      intro slot hslot heq
      obtain ⟨k, hk, hkey⟩ := (h slot hslot).1
      exact hfresh k hk (hkey.trans heq)
    rw [Slot.readKnown, hfind]
    exact ih
  | @grow key growth v w ms ns hk hvw _ ih =>
    rw [Slot.readKnown, Slot.readKnown]
    cases hfind : Slot.find? slots key with
    | none => exact ih
    | some slot =>
      have hslot : slot ∈ slots := List.mem_of_find?_eq_some hfind
      have hkey : slot.key = key := by simpa using List.find?_some hfind
      simp only [(h slot hslot).2 (key, growth) hk hkey.symm v w hvw, ih]
  | @keep m ms ns _ ih =>
    obtain ⟨key, v⟩ := m
    rw [Slot.readKnown, Slot.readKnown]
    simp only [ih]

theorem readInOrder_of_grows {record : String} {fields length index : Nat} {growths : List Growth}
    (h : List.Forall₂ (fun slot growth => slot.form.Blind growth) slots growths)
    {vs ws : List Json} (hgrows : FieldsGrow growths vs ws) :
    Slot.readInOrder record fields length index slots ws =
      Slot.readInOrder record fields length index slots vs := by
  induction hgrows generalizing slots index with
  | nil => rfl
  | beyond => rfl
  | @cons growth growths v w vs ws hvw _ ih =>
    cases h with
    | @cons slot _ slots _ hslot hslots =>
      rw [Slot.readInOrder, Slot.readInOrder, hslot v w hvw, ih hslots]

theorem blind_record (hn : (known.map Prod.fst).Nodup)
    (h : List.Forall₂ (fun slot k => slot.key = k.1 ∧ slot.form.Blind k.2) slots known) :
    (record name slots).Blind (RecordGrows known) := by
  have hat : BlindAt slots known := by
    intro slot hslot
    obtain ⟨k, hk, hkey, hblind⟩ : ∃ k ∈ known, slot.key = k.1 ∧ slot.form.Blind k.2 := by
      clear hn
      induction h with
      | nil => cases hslot
      | @cons s k slots known hs _ ih =>
        obtain rfl | hslot := List.mem_cons.1 hslot
        · exact ⟨k, List.mem_cons_self, hs⟩
        · obtain ⟨k, hk, hs⟩ := ih hslot
          exact ⟨k, List.mem_cons_of_mem _ hk, hs⟩
    refine ⟨⟨k, hk, hkey.symm⟩, fun other hother heq => ?_⟩
    rwa [List.inj_on_of_nodup_map hn hother hk (heq.trans hkey)]
  have hfields : List.Forall₂ (fun slot growth => slot.form.Blind growth) slots
      (known.map Prod.snd) := by
    rw [List.forall₂_map_right_iff]
    exact h.imp fun _ _ hs => hs.2
  intro v w hgrows
  cases hgrows with
  | same => rfl
  | members hms => simp only [record, readKnown_of_grows hat hms]
  | fields hvs => simp only [record, hvs.length_eq, readInOrder_of_grows hfields hvs]

theorem blind_merged : (merged name own inner).Blind
    (RecordGrows (fixedKeys ((own ++ inner).map Slot.key))) := by
  have hat (slots : List Slot) (hslots : ∀ slot ∈ slots, slot ∈ own ++ inner) :
      BlindAt slots (fixedKeys ((own ++ inner).map Slot.key)) := by
    intro slot hslot
    refine ⟨⟨(slot.key, Eq), ?_, rfl⟩, fun k hk _ => ?_⟩
    · exact List.mem_map_of_mem (List.mem_map_of_mem (hslots slot hslot))
    · obtain ⟨key, -, rfl⟩ := List.mem_map.1 hk
      exact blind_eq _
  intro v w hgrows
  cases hgrows with
  | same => rfl
  | members hms =>
    simp only [merged, readKnown_of_grows (hat own fun _ => List.mem_append_left _) hms,
      readKnown_of_grows (hat inner fun _ => List.mem_append_right _) hms]
  | fields => rfl

end Form
end ElementMetadata
