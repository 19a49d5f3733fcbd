import ElementMetadata.Process.DecisionInstance
import ElementMetadata.Process.ElementInstance
import ElementMetadata.Process.Job
import ElementMetadata.Process.ProcessInstance
import ElementMetadata.Process.SearchPage
import ElementMetadata.Process.UserTask
import ElementMetadata.Proofs.Record.Plain

/-!
The records of a process are plain: their fields obey the law, and what their fields write
determines them.
-/
namespace ElementMetadata
open WellFormed (Proper Ordered)

namespace ElementInstance

instance : WellFormed ElementInstance where
  Proper e := e.type.Proper ∧ e.state.Proper
  Ordered _ := True

instance : Plain ElementInstance where
  fields := fields
  keys_nodup := by decide
  ofValue_object _ _ := Form.ofValue_record (by decide)
  toJson_eq _ := Field.writeAll_eq
  blank := [("endDate", .null), ("hasIncident", .bool false)]
  law := by
    simp only [fields, List.forall_mem_cons]
    exact ⟨.required .text _ _ fun _ => rfl, .required .text _ _ fun _ => rfl,
      .optional .text _ fun _ => rfl,
      .required .word _ (.ofString "") fun _ => Wire.ofString_getD _ _,
      .required .word _ (.ofString "") fun _ => Wire.ofString_getD _ _,
      .optional .text _ fun _ => rfl,
      .nullable .text _ fun _ => rfl, .optional .text _ fun _ => rfl,
      .optional .text _ fun _ => rfl, .optional .text _ fun _ => rfl,
      .defaulted .boolean _ false fun _ => rfl, .optional .text _ fun _ => rfl,
      .optional .text _ fun _ => rfl, List.forall_mem_nil _⟩
  proper_ofNormal _ := ⟨Wire.proper_ofString _, Wire.proper_ofString _⟩
  eq_of_write_eq r s hr hs h := by
    cases r
    cases s
    simpa [fields, Option.map_inj_right, Json.ofOption_inj, Wire.toJson_inj hr.1 hs.1,
      Wire.toJson_inj hr.2 hs.2] using h
  canonical_write r _ := by
    simp [fields, Json.Canonical, Json.canonical, Json.canonical_ofOption, Function.comp_def]
  canonical_ofValue hk _ _ hv h _ _ := Form.canonical_ofValue_record hk hv h
  ordered_ofNormal _ _ := trivial

end ElementInstance

namespace Job

instance : WellFormed Job where
  Proper _ := True
  Ordered j := ∀ ms ∈ j.customHeaders, (Json.object ms).Canonical

instance : Plain Job where
  fields := fields
  keys_nodup := by decide
  ofValue_object _ _ := Form.ofValue_record (by decide)
  toJson_eq _ := Field.writeAll_eq
  blank := [("retries", .null)]
  law := by
    simp only [fields, List.forall_mem_cons]
    exact ⟨.optional .text _ fun _ => rfl, .nullable .signed64 _ fun _ => rfl,
      .optional .text _ fun _ => rfl, .optional .text _ fun _ => rfl,
      .optional .text _ fun _ => rfl,
      .optional .members _ fun _ => rfl, .optional .text _ fun _ => rfl, List.forall_mem_nil _⟩
  proper_ofNormal _ := trivial
  eq_of_write_eq r s _ _ h := by
    cases r
    cases s
    simpa [fields, Option.map_inj_right, Json.ofOption_inj] using h
  canonical_write r ho := by
    simpa [fields, Json.Canonical, Json.canonical, Json.canonical_ofOption, Function.comp_def,
      WellFormed.Ordered] using ho
  canonical_ofValue hk _ _ hv h _ _ := Form.canonical_ofValue_record hk hv h
  ordered_ofNormal n hn ms hms := by
    have hm : n.members? "customHeaders" = some ms := hms
    exact hn "customHeaders" _ (Json.members?_eq_some_iff.1 hm)

end Job

namespace ProcessInstance

instance : WellFormed ProcessInstance where
  Proper p := ∀ w ∈ p.state, w.Proper
  Ordered _ := True

instance : Plain ProcessInstance where
  fields := fields
  keys_nodup := by decide
  ofValue_object _ _ := Form.ofValue_record (by decide)
  toJson_eq _ := Field.writeAll_eq
  blank := []
  law := by
    simp only [fields, List.forall_mem_cons]
    exact ⟨.optional .text _ fun _ => rfl, .optional .text _ fun _ => rfl,
      .optional .text _ fun _ => rfl, .optional .text _ fun _ => rfl,
      .optional .text _ fun _ => rfl,
      .optional .word _ fun _ => rfl, .optional .text _ fun _ => rfl, List.forall_mem_nil _⟩
  proper_ofNormal _ _ := Wire.proper_of_mem_map_ofString
  eq_of_write_eq r s hr hs h := by
    cases r
    cases s
    simpa [fields, Option.map_inj_right, Wire.map_toJson_inj hr hs] using h
  canonical_write r _ := by simp [fields, Json.Canonical, Json.canonical]
  canonical_ofValue hk _ _ hv h _ _ := Form.canonical_ofValue_record hk hv h
  ordered_ofNormal _ _ := trivial

end ProcessInstance

namespace DecisionInstance

instance : WellFormed DecisionInstance where
  Proper d := ∀ w ∈ d.state, w.Proper
  Ordered _ := True

instance : Plain DecisionInstance where
  fields := fields
  keys_nodup := by decide
  ofValue_object _ _ := Form.ofValue_record (by decide)
  toJson_eq _ := Field.writeAll_eq
  blank := []
  law := by
    simp only [fields, List.forall_mem_cons]
    exact ⟨.optional .text _ fun _ => rfl, .optional .text _ fun _ => rfl,
      .optional .text _ fun _ => rfl, .optional .text _ fun _ => rfl,
      .optional .text _ fun _ => rfl,
      .optional .word _ fun _ => rfl, .optional .text _ fun _ => rfl,
      .optional .text _ fun _ => rfl,
      List.forall_mem_nil _⟩
  proper_ofNormal _ _ := Wire.proper_of_mem_map_ofString
  eq_of_write_eq r s hr hs h := by
    cases r
    cases s
    simpa [fields, Option.map_inj_right, Wire.map_toJson_inj hr hs] using h
  canonical_write r _ := by simp [fields, Json.Canonical, Json.canonical]
  canonical_ofValue hk _ _ hv h _ _ := Form.canonical_ofValue_record hk hv h
  ordered_ofNormal _ _ := trivial

end DecisionInstance

namespace TaskDetails

instance : WellFormed TaskDetails where
  Proper t := ∀ w ∈ t.state, w.Proper
  Ordered t := ∀ ls ∈ t.customHeaders, Json.Ascending ls

instance : Plain TaskDetails where
  fields := fields
  keys_nodup := by decide
  ofValue_object _ _ := Form.ofValue_record (by decide)
  toJson_eq _ := Field.writeAll_eq
  blank := []
  law := by
    simp only [fields, List.forall_mem_cons]
    exact ⟨.optional .text _ fun _ => rfl, .optional .text _ fun _ => rfl,
      .optional .text _ fun _ => rfl, .optional .text _ fun _ => rfl,
      .optional .text _ fun _ => rfl,
      .optional .texts _ fun _ => rfl, .optional .texts _ fun _ => rfl,
      .optional .word _ fun _ => rfl, .optional .text _ fun _ => rfl,
      .optional .text _ fun _ => rfl,
      .optional .text _ fun _ => rfl, .optional .labels _ fun _ => rfl,
      .optional .signed32 _ fun _ => rfl, List.forall_mem_nil _⟩
  proper_ofNormal _ _ := Wire.proper_of_mem_map_ofString
  eq_of_write_eq r s hr hs h := by
    cases r
    cases s
    simpa [fields, Option.map_inj_right, Wire.map_toJson_inj hr hs] using h
  canonical_write r ho := by
    have hl (ls) (h : r.customHeaders = some ls) : (Json.ofLabels ls).canonical = .ofLabels ls :=
      Json.canonical_ofLabels_iff.2 (ho ls h)
    simpa [fields, Json.Canonical, Json.canonical] using hl
  canonical_ofValue hk _ _ hv h _ _ := Form.canonical_ofValue_record hk hv h
  ordered_ofNormal n hn ls hls := by
    have hl : n.labels? "customHeaders" = some ls := hls
    obtain ⟨ms, hm, rfl⟩ := Option.map_eq_some_iff.1 hl
    rw [Json.ascending_map_value]
    exact (Json.canonical_object_iff.1 (hn "customHeaders" _ (Json.members?_eq_some_iff.1 hm))).1

end TaskDetails

namespace UserTask

instance : WellFormed UserTask where
  Proper t := Proper t.details
  Ordered t := Ordered t.details

theorem slots_fields :
    Field.slots fields = Field.slots ownFields ++ Field.slots TaskDetails.fields := by
  simp [fields, Field.slots]

instance : Plain UserTask where
  fields := fields
  keys_nodup := by decide
  ofValue_object _ _ := by
    rw [slots_fields]
    exact Form.ofValue_merged (by decide)
  toJson_eq _ := Field.writeAll_eq
  blank := []
  law := by
    simp only [fields, ownFields, List.forall_mem_append, List.forall_mem_cons, List.forall_mem_map]
    exact ⟨⟨.optional .text _ fun _ => rfl, .optional .text _ fun _ => rfl,
      .optional .text _ fun _ => rfl, .optional .text _ fun _ => rfl,
      .optional .text _ fun _ => rfl,
      List.forall_mem_nil _⟩, fun f hf => (Plain.law f hf).within fun _ => rfl⟩
  proper_ofNormal v := Plain.proper_ofNormal (α := TaskDetails) v
  eq_of_write_eq r s hr hs h := by
    simp only [fields, List.forall_mem_append, List.forall_mem_map] at h
    have hd : r.details = s.details := Plain.eq_of_write_eq _ _ hr hs h.2
    have ho := h.1
    cases r
    cases s
    simpa [ownFields, Option.map_inj_right, and_assoc] using And.intro ho hd
  canonical_write r ho := by
    simp only [fields, List.forall_mem_append, List.forall_mem_map]
    refine ⟨?_, Plain.canonical_write r.details ho⟩
    simp [ownFields, Json.Canonical, Json.canonical]
  canonical_ofValue hk _ _ hv h _ _ := by
    rw [slots_fields] at hk
    exact Form.canonical_ofValue_merged hk hv h
  ordered_ofNormal n hn := Plain.ordered_ofNormal (α := TaskDetails) n hn

end UserTask

namespace PageInfo

instance : WellFormed PageInfo where
  Proper _ := True
  Ordered _ := True

instance : Plain PageInfo where
  fields := fields
  keys_nodup := by decide
  ofValue_object _ _ := Form.ofValue_record (by decide)
  toJson_eq _ := Field.writeAll_eq
  blank := [("totalItems", .integer (.ofUInt64 0))]
  law := by
    simp only [fields, List.forall_mem_cons]
    refine ⟨.defaulted .unsigned64 _ 0 fun v => ?_, List.forall_mem_nil _⟩
    cases h : v.integer? "totalItems" <;> simp [Codec.ofNormal, h]
  proper_ofNormal _ := trivial
  eq_of_write_eq r s _ _ h := by
    cases r
    cases s
    simpa [fields] using h
  canonical_write r _ := by simp [fields, Json.Canonical, Json.canonical]
  canonical_ofValue hk _ _ hv h _ _ := Form.canonical_ofValue_record hk hv h
  ordered_ofNormal _ _ := trivial

end PageInfo
end ElementMetadata
