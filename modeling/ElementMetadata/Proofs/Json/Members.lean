import ElementMetadata.Json.Basic
import Mathlib.Data.List.Induction
import Mathlib.Data.List.Nodup

/-!
What lists of members hold at a key: tables with one entry for each key, and members with sorted
keys. Sorting changes neither which members there are nor, where the keys differ, what stands at
a key, and neither does any other order of the members.
-/
namespace ElementMetadata.Json
variable {α β : Type} {key k : String} {value : α} {ms ns : List (String × α)}

theorem lookup_cons_ite (v : α) :
    ((k, v) :: ms).lookup key = if key = k then some v else ms.lookup key := by
  by_cases hk : key = k
  · simp [hk]
  · rw [List.lookup_cons, beq_eq_false_iff_ne.2 hk, if_neg hk]

theorem lookup_cons_of_ne (v : α) (h : key ≠ k) : ((k, v) :: ms).lookup key = ms.lookup key := by
  rw [lookup_cons_ite, if_neg h]

theorem isSome_lookup : (ms.lookup key).isSome ↔ key ∈ ms.map Prod.fst := by
  rw [← not_iff_not, Bool.not_eq_true, Option.isSome_eq_false_iff, Option.isNone_iff_eq_none,
    List.lookup_eq_none_iff]
  simp only [bne_iff_ne, List.mem_map, not_exists, not_and]
  exact forall₂_congr fun _ _ => ne_comm

theorem lookup_eq_some_iff_mem (hn : (ms.map Prod.fst).Nodup) {v : α} :
    ms.lookup key = some v ↔ (key, v) ∈ ms := by
  induction ms with
  | nil => simp
  | cons m ms ih =>
    obtain ⟨k, w⟩ := m
    rw [List.map_cons, List.nodup_cons] at hn
    rw [lookup_cons_ite, List.mem_cons]
    by_cases hk : key = k
    · subst hk
      have hmem : (key, v) ∉ ms := fun h => hn.1 (List.mem_map.2 ⟨_, h, rfl⟩)
      simp [hmem, eq_comm]
    · simp [hk, ih hn.2]

theorem lookup_eq_of_perm (hn : (ms.map Prod.fst).Nodup) (h : ms.Perm ns) :
    ms.lookup key = ns.lookup key := by
  have hns : (ns.map Prod.fst).Nodup := (h.map Prod.fst).nodup_iff.1 hn
  refine Option.ext fun v => ?_
  rw [lookup_eq_some_iff_mem hn, lookup_eq_some_iff_mem hns, h.mem_iff]

theorem map_fst_zip (keys : List String) (vs : List α) :
    (keys.zip vs).map Prod.fst = keys.take vs.length := by
  induction keys generalizing vs with
  | nil => simp
  | cons key keys ih =>
    cases vs with
    | nil => rfl
    | cons v vs => rw [List.zip_cons_cons, List.map_cons, ih, List.length_cons, List.take_succ_cons]

theorem nodup_zip {keys : List String} (hn : keys.Nodup) (vs : List α) :
    ((keys.zip vs).map Prod.fst).Nodup := by
  rw [map_fst_zip]
  exact hn.sublist (List.take_sublist _ _)

theorem find?_key_eq_some_iff {ε : Type*} {entries : List ε} {keyOf : ε → String}
    (hn : (entries.map keyOf).Nodup) {a : ε} :
    entries.find? (keyOf · == key) = some a ↔ a ∈ entries ∧ keyOf a = key := by
  constructor
  · intro h
    exact ⟨List.mem_of_find?_eq_some h, by simpa using List.find?_some h⟩
  · rintro ⟨ha, rfl⟩
    cases hfind : entries.find? (keyOf · == keyOf a) with
    | none => exact absurd (List.find?_eq_none.1 hfind a ha) (by simp)
    | some b =>
      have hb : keyOf b = keyOf a := by simpa using List.find?_some hfind
      rw [List.inj_on_of_nodup_map hn (List.mem_of_find?_eq_some hfind) ha hb]

theorem lookup_map_value (f : α → β) :
    (ms.map fun m => (m.1, f m.2)).lookup key = (ms.lookup key).map f := by
  induction ms with
  | nil => rfl
  | cons m ms ih =>
    obtain ⟨k, v⟩ := m
    by_cases hk : key = k <;> simp [lookup_cons_ite, hk, ih]

theorem lookup_table {entries : List α} (key : α → String) (value : α → Option β)
    (hn : (entries.map key).Nodup) {a : α} (ha : a ∈ entries) :
    (entries.filterMap fun a => (value a).map (key a, ·)).lookup (key a) = value a := by
  induction entries with
  | nil => simp at ha
  | cons b entries ih =>
    simp only [List.map_cons, List.nodup_cons, List.mem_map, not_exists, not_and] at hn
    have hfresh : (entries.filterMap fun a => (value a).map (key a, ·)).lookup (key b) = none := by
      simp only [List.lookup_eq_none_iff, List.mem_filterMap, Option.map_eq_some_iff]
      intro m hm
      obtain ⟨c, hc, v, -, rfl⟩ := hm
      simpa using fun h => hn.1 c hc h.symm
    obtain rfl | ha := List.mem_cons.1 ha
    · cases hb : value a <;> simp [hb, hfresh]
    · have hab : key a ≠ key b := hn.1 a ha
      cases hb : value b <;> simp [hb, lookup_cons_of_ne _ hab, ih hn.2 ha]

theorem lookup_table_of_forall_ne {entries : List α} (key : α → String) (value : α → Option β)
    (hk : ∀ a ∈ entries, key a ≠ k) :
    (entries.filterMap fun a => (value a).map (key a, ·)).lookup k = none := by
  simp only [List.lookup_eq_none_iff, List.mem_filterMap, Option.map_eq_some_iff]
  intro m hm
  obtain ⟨a, ha, v, -, rfl⟩ := hm
  simpa using fun h => hk a ha h.symm

theorem nodup_table {entries : List α} (key : α → String) (value : α → Option β)
    (hn : (entries.map key).Nodup) :
    ((entries.filterMap fun a => (value a).map (key a, ·)).map Prod.fst).Nodup := by
  refine List.Nodup.sublist ?_ hn
  induction entries with
  | nil => simp
  | cons a entries ih =>
    have ih := ih hn.of_cons
    cases ha : value a with
    | none => simpa [ha] using ih.cons (key a)
    | some v => simpa [ha] using ih

theorem lookup_insertMember :
    (insertMember key value ms).lookup k = if k = key then some value else ms.lookup k := by
  induction ms with
  | nil => simp [insertMember, lookup_cons_ite]
  | cons m ms ih =>
    obtain ⟨l, v⟩ := m
    rw [insertMember]
    split
    · rw [lookup_cons_ite]
    · split
      · next h =>
        subst h
        by_cases hk : k = key <;> simp [lookup_cons_ite, hk]
      · next h =>
        by_cases hl : k = l
        · simp [hl, Ne.symm h]
        · simp [lookup_cons_ite, hl, ih]

theorem mem_of_mem_insertMember {m : String × α} (h : m ∈ insertMember key value ms) :
    m = (key, value) ∨ m ∈ ms := by
  induction ms with
  | nil => simpa [insertMember] using h
  | cons n ms ih =>
    rw [insertMember] at h
    split at h
    · simpa using h
    · split at h
      · obtain rfl | h := List.mem_cons.1 h
        · exact .inl rfl
        · exact .inr (List.mem_cons_of_mem n h)
      · obtain rfl | h := List.mem_cons.1 h
        · exact .inr List.mem_cons_self
        · exact (ih h).imp_right (List.mem_cons_of_mem n)

theorem sortMembers_append (ms : List (String × α)) (m : String × α) :
    sortMembers (ms ++ [m]) = insertMember m.1 m.2 (sortMembers ms) := by
  simp [sortMembers]

theorem mem_of_mem_sortMembers {m : String × α} (h : m ∈ sortMembers ms) : m ∈ ms := by
  induction ms using List.reverseRecOn with
  | nil => simp [sortMembers] at h
  | append_singleton ms n ih =>
    rw [sortMembers_append] at h
    obtain rfl | h := mem_of_mem_insertMember h
    · simp
    · simp [ih h]

theorem lookup_sortMembers (hn : (ms.map Prod.fst).Nodup) :
    (sortMembers ms).lookup k = ms.lookup k := by
  induction ms using List.reverseRecOn with
  | nil => rfl
  | append_singleton ms m ih =>
    rw [List.map_append, List.nodup_append] at hn
    rw [sortMembers_append, lookup_insertMember, ih hn.1, List.lookup_append]
    by_cases hk : k = m.1
    · have hnone : ms.lookup k = none := by
        rw [List.lookup_eq_none_iff]
        intro n hm
        simpa [hk] using (hn.2.2 n.1 (List.mem_map_of_mem hm) m.1 (by simp)).symm
      rw [if_pos hk, hnone, hk, Option.none_or, List.lookup_cons_self]
    · rw [if_neg hk, lookup_cons_of_ne _ hk, List.lookup_nil, Option.or_none]

theorem canonicalMembers_eq_map (ms : List (String × Json)) :
    canonicalMembers ms = ms.map fun m => (m.1, m.2.canonical) := by
  induction ms with
  | nil => rfl
  | cons m ms ih => rw [canonicalMembers, ih, List.map_cons]

theorem canonicalItems_eq_map (xs : List Json) : canonicalItems xs = xs.map canonical := by
  induction xs with
  | nil => rfl
  | cons x xs ih => rw [canonicalItems, ih, List.map_cons]

end ElementMetadata.Json
