import ElementMetadata.Process.SearchPage
import ElementMetadata.Proofs.Process.Records

/-!
Pages of search results. A page is read item by item: its items are those that the values of the
array are read as, one by one and in order. A page is no plain record, since its items do not stand
as they were read.
-/
namespace ElementMetadata
open WellFormed (Proper Ordered)

def ReadAll {α : Type} [Codec α] (vs : List Json) (items : List α) : Prop :=
  List.Forall₂ (fun v item => Codec.read v = .ok item) vs items

namespace ReadAll
variable {α : Type} [Codec α] {vs : List Json} {items : List α}

theorem of_ofValue {ns : List Json}
    (h : List.Forall₂ (fun v n => (Codec.form α).ofValue v = .ok n) vs ns) :
    ReadAll vs (ns.map Codec.ofNormal : List α) := by
  rw [ReadAll, List.forall₂_map_right_iff]
  exact h.imp fun v n hn => Codec.read_eq_ok_iff.2 ⟨n, hn, rfl⟩

theorem exists_ofValue (h : ReadAll vs items) :
    ∃ n, (Codec.form α).list.ofValue (.array vs) = .ok n := by
  have hn : ∃ ns, List.Forall₂ (fun v n => (Codec.form α).ofValue v = .ok n) vs ns := by
    induction h with
    | nil => exact ⟨[], .nil⟩
    | cons hv _ ih =>
      obtain ⟨n, hn, -⟩ := Codec.read_eq_ok_iff.1 hv
      obtain ⟨ns, hns⟩ := ih
      exact ⟨n :: ns, .cons hn hns⟩
  obtain ⟨ns, hns⟩ := hn
  exact ⟨.array ns, Form.ofValue_list.2 ⟨vs, ns, rfl, hns, rfl⟩⟩

theorem eq {more : List α} (h : ReadAll vs items) (hm : ReadAll vs more) : items = more := by
  induction h generalizing more with
  | nil =>
    cases hm
    rfl
  | cons hv _ ih =>
    cases hm with
    | cons hw hrest =>
      have hitem := Except.ok.inj (hv.symm.trans hw)
      rw [hitem, ih hrest]

theorem map_toJson {g : Json → Json}
    (h : ∀ item ∈ items, Codec.read (g (Codec.toJson item)) = .ok item) :
    ReadAll (items.map fun item => g (Codec.toJson item)) items := by
  rw [ReadAll, List.forall₂_map_left_iff, List.forall₂_same]
  exact h

theorem exists_read {item : α} (h : ReadAll vs items) (hi : item ∈ items) :
    ∃ v ∈ vs, Codec.read v = .ok item := by
  induction h with
  | nil => cases hi
  | cons hv _ ih =>
    obtain rfl | hi := List.mem_cons.1 hi
    · exact ⟨_, List.mem_cons_self, hv⟩
    · obtain ⟨v, hvs, hread⟩ := ih hi
      exact ⟨v, List.mem_cons_of_mem _ hvs, hread⟩

theorem exists_item {v : Json} (h : ReadAll vs items) (hv : v ∈ vs) :
    ∃ item, (Codec.read v : Except Fault α) = .ok item := by
  induction h with
  | nil => cases hv
  | cons hread _ ih =>
    obtain rfl | hv := List.mem_cons.1 hv
    · exact ⟨_, hread⟩
    · exact ih hv

end ReadAll

namespace SearchPage
variable {α : Type} [Codec α] {page : SearchPage α} {v : Json} {ms : Members}

instance [WellFormed α] : WellFormed (SearchPage α) where
  Proper p := ∀ item ∈ p.items, Proper item
  Ordered p := ∀ item ∈ p.items, Ordered item

theorem keys_fields : Field.keys (fields (α := α)) = ["items", "page"] := rfl

instance : Tabular (SearchPage α) where
  fields := fields
  keys_nodup := by simp [keys_fields]
  ofValue_object _ _ := Form.ofValue_record (by simp [Field.map_key_slots, keys_fields])
  toJson_eq _ := Field.writeAll_eq

/-- What stands for the items is an array of their values; nothing stands for none. -/
def ItemsAt (v : Option Json) (items : List α) : Prop :=
  ∃ vs, v.getD (.array []) = .array vs ∧ ReadAll vs items

def InfoAt (v : Option Json) (info : PageInfo) : Prop := Codec.read (v.getD (.object [])) = .ok info

theorem itemsAt_ofNormal {n : Json} {v : Option Json}
    (hv : ∀ x ∈ v, ∃ w, (Codec.form α).list.ofValue x = .ok w)
    (hn : n.member? "items" =
      (v.bind fun x => ((Codec.form α).list.ofValue x).toOption).filter (!·.isNull)) :
    ItemsAt v (Codec.ofNormal n : SearchPage α).items := by
  cases v with
  | none =>
    have hi : n.items? "items" = none := by rw [Json.items?, hn]; rfl
    refine ⟨[], rfl, ?_⟩
    simp only [Codec.ofNormal, hi]
    exact .nil
  | some x =>
    obtain ⟨w, hw⟩ := hv x rfl
    obtain ⟨vs, ns, rfl, hns, rfl⟩ := Form.ofValue_list.1 hw
    have hi : n.items? "items" = some ns := by
      rw [Json.items?, hn, Option.bind_some, hw]
      rfl
    refine ⟨vs, rfl, ?_⟩
    simp only [Codec.ofNormal, hi]
    exact ReadAll.of_ofValue hns

theorem infoAt_ofNormal {n : Json} {v : Option Json}
    (hv : ∀ x ∈ v, ∃ w, (Codec.form PageInfo).ofValue x = .ok w ∧ w.isNull = false)
    (hn : n.member? "page" =
      (v.bind fun x => ((Codec.form PageInfo).ofValue x).toOption).filter (!·.isNull)) :
    InfoAt v (Codec.ofNormal n : SearchPage α).info := by
  cases v with
  | none =>
    simp only [Codec.ofNormal, hn]
    rfl
  | some x =>
    obtain ⟨w, hw, hnull⟩ := hv x rfl
    have hm : n.member? "page" = some w := by
      rw [hn, Option.bind_some, hw]
      simp [Except.toOption, Option.filter, hnull]
    simp only [Codec.ofNormal, hm]
    exact Codec.read_eq_ok_iff.2 ⟨w, hw, rfl⟩

def itemsSlot (α : Type) [Codec α] : Slot := ⟨"items", false, (Codec.form α).list⟩

def infoSlot : Slot := ⟨"page", false, Codec.form PageInfo⟩

theorem slots_fields :
    Field.slots (Tabular.fields (α := SearchPage α)) = [itemsSlot α, infoSlot] := rfl

theorem nodup_slots (α : Type) [Codec α] : ([itemsSlot α, infoSlot].map Slot.key).Nodup := by
  rw [← slots_fields]
  exact Tabular.slots_nodup

/-- What stands for the items: the value at their key or, in an array, the first one. -/
def rawItems? : Json → Option Json
  | .object ms => ms.lookup "items"
  | .array vs => vs.head?
  | _ => none

theorem itemsAt_of_read (h : Codec.read v = .ok page) : ItemsAt (rawItems? v) page.items := by
  have hs : itemsSlot α ∈ [itemsSlot α, infoSlot] := List.mem_cons_self
  cases v with
  | object ms =>
    obtain ⟨ha, -, rfl⟩ := Tabular.read_object_eq_ok_iff.1 h
    rw [slots_fields] at ha ⊢
    exact itemsAt_ofNormal (fun x hx => ha.exists_ofValue hs hx)
      (Slot.member?_keptAll (nodup_slots α) hs)
  | array vs =>
    obtain ⟨n, hrecord, rfl⟩ := Codec.read_eq_ok_iff.1 h
    obtain ⟨read, hr, hc⟩ := bind_eq_ok_iff.1 hrecord
    obtain rfl := Except.ok.inj hc
    have hm : (Slot.normal [itemsSlot α, infoSlot] read).member? "items" =
        (read.lookup "items").filter (!·.isNull) := Slot.member?_normal (nodup_slots α) hs
    have hr : Slot.readInOrder "SearchPage" 2 vs.length 0 [itemsSlot α, infoSlot] vs =
        .ok read := hr
    cases vs with
    | nil =>
      rw [Slot.eq_nil_of_readInOrder_nil hr] at hm ⊢
      exact itemsAt_ofNormal nofun hm
    | cons v vs =>
      obtain ⟨w, rest, hw, -, rfl⟩ := Slot.readInOrder_cons_eq_ok_iff.1 hr
      refine itemsAt_ofNormal (v := some v) ?_ ?_
      · intro x hx
        cases hx
        exact ⟨w, hw⟩
      · refine hm.trans ?_
        have hw : (Codec.form α).list.ofValue v = .ok w := hw
        have hl : List.lookup "items" (((itemsSlot α).key, w) :: rest) = some w :=
          List.lookup_cons_self
        rw [hl, Option.bind_some, hw]
        rfl
  | _ => cases h

theorem infoAt_of_read (h : Codec.read (.object ms) = .ok page) :
    InfoAt (ms.lookup "page") page.info := by
  have hs : infoSlot ∈ [itemsSlot α, infoSlot] := by simp
  obtain ⟨ha, -, rfl⟩ := Tabular.read_object_eq_ok_iff.1 h
  rw [slots_fields] at ha ⊢
  refine infoAt_ofNormal (fun x hx => ?_) (Slot.member?_keptAll (nodup_slots α) hs)
  obtain ⟨w, hw⟩ := ha.exists_ofValue hs hx
  exact ⟨w, hw, Form.isNull_ofValue_record hw⟩

theorem read_of_carries {g : Json → Json} (h : Tabular.Carries g page ms)
    (hg : ∀ vs, g (.array vs) = .array (vs.map g))
    (hitems : ∀ item ∈ page.items, Codec.read (g (Codec.toJson item)) = .ok item)
    (hinfo : Codec.read (g (Codec.toJson page.info)) = .ok page.info) :
    Codec.read (.object ms) = .ok page := by
  have hall := ReadAll.map_toJson hitems
  obtain ⟨n, hn⟩ := hall.exists_ofValue
  obtain ⟨k, hk, -⟩ := Codec.read_eq_ok_iff.1 hinfo
  obtain ⟨read, hread⟩ : ∃ read : SearchPage α, Codec.read (.object ms) = .ok read := by
    refine ⟨_, Tabular.read_of_carries h ?_ ?_⟩
    · simp only [Tabular.fields, fields, List.forall_mem_cons, Field.defaulted_column,
        Column.always_write, Option.some.injEq, forall_eq']
      refine ⟨⟨n, ?_⟩, ⟨k, hk⟩, List.forall_mem_nil _⟩
      rw [hg, List.map_map]
      exact hn
    · intro f hf hneeded
      simp only [Tabular.fields, fields, List.mem_cons, List.not_mem_nil, or_false] at hf
      obtain rfl | rfl := hf <;> cases hneeded
  -- The page that was read and the one that was written have the same values at both keys, and
  -- these determine a page.
  obtain ⟨vs, hvs, hread_items⟩ := itemsAt_of_read hread
  have hread_info := infoAt_of_read hread
  have hl_items : ms.lookup "items" = some (g (.array (page.items.map Codec.toJson))) :=
    h.lookup _ List.mem_cons_self
  have hl_info : ms.lookup "page" = some (g (Codec.toJson page.info)) :=
    h.lookup _ (List.mem_cons_of_mem _ List.mem_cons_self)
  have hitems_eq : page.items = read.items := by
    rw [rawItems?, hl_items, Option.getD_some, hg, List.map_map] at hvs
    obtain rfl := Json.array.inj hvs
    exact hall.eq hread_items
  have hinfo_eq : page.info = read.info := by
    rw [InfoAt, hl_info, Option.getD_some, hinfo] at hread_info
    exact Except.ok.inj hread_info
  have heq : read = page := by
    cases page
    cases read
    rw [mk.injEq]
    exact ⟨hitems_eq.symm, hinfo_eq.symm⟩
  rw [hread, heq]

theorem read_toJson [WellFormed α] [Plain α] (hp : Proper page) :
    Codec.read (Codec.toJson page) = .ok page := by
  rw [Tabular.toJson_eq]
  exact read_of_carries (Tabular.carries_written page) (fun vs => by simp)
    (fun item hi => Plain.read_toJson (hp item hi)) (Plain.read_toJson trivial)

theorem read_canonical_toJson [WellFormed α] [Plain α] (hp : Proper page) (ho : Ordered page) :
    Codec.read (Codec.toJson page).canonical = .ok page := by
  obtain ⟨ms, hms, hc⟩ := Tabular.exists_canonical_toJson page
  rw [hms]
  refine read_of_carries hc (fun vs => ?_) (fun item hi => ?_) ?_
  · rw [Json.canonical, Json.canonicalItems_eq_map]
  · exact Plain.read_canonical_toJson (hp item hi) (ho item hi)
  · exact Plain.read_canonical_toJson trivial trivial

theorem proper_of_read [WellFormed α] [Plain α] (h : Codec.read v = .ok page) : Proper page := by
  obtain ⟨vs, -, hall⟩ := itemsAt_of_read h
  intro item hi
  obtain ⟨x, -, hx⟩ := hall.exists_read hi
  exact Plain.proper_of_read hx

theorem ordered_of_read [WellFormed α] [Plain α] (hv : v.Canonical) (h : Codec.read v = .ok page) :
    Ordered page := by
  obtain ⟨vs, hvs, hall⟩ := itemsAt_of_read h
  have harray : (Json.array vs).Canonical := by
    cases hraw : rawItems? v with
    | none =>
      rw [← hvs, hraw]
      exact Json.canonical_array_iff.2 (List.forall_mem_nil _)
    | some x =>
      rw [hraw, Option.getD_some] at hvs
      rw [← hvs]
      cases v with
      | object ms => exact hv.lookup hraw
      | array xs => exact Json.canonical_array_iff.1 hv x (List.mem_of_head? hraw)
      | _ => cases hraw
  intro item hi
  obtain ⟨x, hx, hread⟩ := hall.exists_read hi
  exact Plain.ordered_of_read (Json.canonical_array_iff.1 harray x hx) hread

end SearchPage
end ElementMetadata
