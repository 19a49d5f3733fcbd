import ElementMetadata.Proofs.Json.Members
import Mathlib.Data.String.Basic

/-!
Canonical values: those whose objects have ascending keys at any depth. Sorting makes the keys
ascend and leaves ascending keys alone, so an object is canonical exactly if its keys ascend and
its values are canonical.
-/
namespace ElementMetadata.Json
variable {α β : Type} {key k : String} {value : α} {ms : List (String × α)}

def Ascending (ms : List (String × α)) : Prop := ms.Pairwise (·.1 < ·.1)

theorem ascending_map_value (f : α → β) :
    Ascending (ms.map fun m => (m.1, f m.2)) ↔ Ascending ms := by
  rw [Ascending, Ascending, List.pairwise_map]

theorem ascending_insertMember (h : Ascending ms) : Ascending (insertMember key value ms) := by
  induction ms with
  | nil => exact List.pairwise_singleton _ _
  | cons m ms ih =>
    obtain ⟨k, v⟩ := m
    have hp := List.pairwise_cons.mp h
    rw [insertMember]
    split
    · next hlt =>
      refine List.pairwise_cons.mpr ⟨?_, h⟩
      intro n hn
      obtain rfl | hn := List.mem_cons.mp hn
      · exact hlt
      · exact lt_trans hlt (hp.1 n hn)
    · next hlt =>
      split
      · next heq =>
        subst heq
        exact List.pairwise_cons.mpr ⟨hp.1, hp.2⟩
      · next hne =>
        have hgt : k < key := lt_of_le_of_ne (not_lt.mp hlt) (Ne.symm hne)
        refine List.pairwise_cons.mpr ⟨?_, ih hp.2⟩
        intro n hn
        obtain rfl | hn := mem_of_mem_insertMember hn
        · exact hgt
        · exact hp.1 n hn

theorem ascending_sortMembers (ms : List (String × α)) : Ascending (sortMembers ms) := by
  -- Members are put in from the front, so the last one is the last step.
  induction ms using List.reverseRecOn with
  | nil => exact List.Pairwise.nil
  | append_singleton ms m ih =>
    rw [sortMembers_append]
    exact ascending_insertMember ih

theorem insertMember_of_forall_lt (h : ∀ m ∈ ms, m.1 < key) :
    insertMember key value ms = ms ++ [(key, value)] := by
  induction ms with
  | nil => rfl
  | cons m ms ih =>
    obtain ⟨k, v⟩ := m
    have hk : k < key := h (k, v) List.mem_cons_self
    have hrest := ih fun n hn => h n (List.mem_cons_of_mem _ hn)
    rw [insertMember, if_neg (not_lt_of_gt hk), if_neg (ne_of_gt hk), hrest, List.cons_append]

theorem sortMembers_of_ascending (h : Ascending ms) : sortMembers ms = ms := by
  induction ms using List.reverseRecOn with
  | nil => rfl
  | append_singleton ms m ih =>
    obtain ⟨hms, -, hlast⟩ := List.pairwise_append.mp h
    rw [sortMembers_append, ih hms]
    exact insertMember_of_forall_lt fun n hn => hlast n hn m List.mem_cons_self

/-- The value is the one that its text denotes. -/
def Canonical (v : Json) : Prop := v.canonical = v

theorem canonical_object_iff {ms : List (String × Json)} :
    Canonical (.object ms) ↔ Ascending ms ∧ ∀ m ∈ ms, Canonical m.2 := by
  have hsort (h : Ascending ms) :
      sortMembers (ms.map fun m => (m.1, m.2.canonical)) = ms.map fun m => (m.1, m.2.canonical) :=
    sortMembers_of_ascending ((ascending_map_value _).mpr h)
  rw [Canonical, canonical, canonicalMembers_eq_map, Json.object.injEq]
  constructor
  · intro h
    have hasc : Ascending ms := by
      rw [← h]
      exact ascending_sortMembers _
    rw [hsort hasc] at h
    refine ⟨hasc, fun m hm => ?_⟩
    have heq := List.map_inj_left.mp (h.trans (List.map_id ms).symm) m hm
    exact congrArg Prod.snd heq
  · intro hex
    obtain ⟨hasc, hall⟩ := hex
    rw [hsort hasc]
    have heq : ms.map (fun m => (m.1, m.2.canonical)) = ms.map id :=
      List.map_inj_left.mpr fun m hm => Prod.ext rfl (hall m hm)
    rw [heq, List.map_id]

theorem canonical_array_iff {vs : List Json} :
    Canonical (.array vs) ↔ ∀ v ∈ vs, Canonical v := by
  rw [Canonical, canonical, canonicalItems_eq_map, Json.array.injEq]
  constructor
  · intro h
    exact List.map_inj_left.mp (h.trans (List.map_id vs).symm)
  · intro h
    have heq : vs.map canonical = vs.map id := List.map_inj_left.mpr h
    rw [heq, List.map_id]

theorem Canonical.lookup {ms : List (String × Json)} {v : Json} (h : Canonical (.object ms))
    (hl : ms.lookup k = some v) : Canonical v := by
  obtain ⟨l₁, l₂, rfl, -⟩ := List.lookup_eq_some_iff.mp hl
  exact (canonical_object_iff.mp h).2 (k, v) (by simp)

end ElementMetadata.Json
