import ElementMetadata.Proofs.Process.SearchPage

/-!
Reading and writing the records of a process. What a record is written as is read as the same
record, and what is written of a record that was read is what stood there, key by key.
-/
namespace ElementMetadata
open WellFormed (Proper Ordered)

/-- Reading undoes writing, both in the order of the fields and in the canonical order of the keys.
What is read is proper, so that it may be written and read again. -/
structure ReadsBack (α : Type) [Codec α] [WellFormed α] : Prop where
  read_toJson (r : α) : Proper r → Codec.read (Codec.toJson r) = .ok r
  read_canonical (r : α) : Proper r → Ordered r → Codec.read (Codec.toJson r).canonical = .ok r
  again (v : Json) (r : α) : Codec.read v = .ok r → Proper r ∧ Codec.read (Codec.toJson r) = .ok r
  canonical_again (v : Json) (r : α) : v.Canonical → Codec.read v = .ok r →
    Ordered r ∧ Codec.read (Codec.toJson r).canonical = .ok r

namespace ReadsBack
variable {α : Type} [Codec α] [WellFormed α]

theorem of_read (hw : ∀ r : α, Proper r → Codec.read (Codec.toJson r) = .ok r)
    (hc : ∀ r : α, Proper r → Ordered r → Codec.read (Codec.toJson r).canonical = .ok r)
    (hp : ∀ (v : Json) (r : α), Codec.read v = .ok r → Proper r)
    (ho : ∀ (v : Json) (r : α), v.Canonical → Codec.read v = .ok r → Ordered r) : ReadsBack α where
  read_toJson := hw
  read_canonical := hc
  again v r h := by
    have hr := hp v r h
    exact ⟨hr, hw r hr⟩
  canonical_again v r hv h := by
    have hr := ho v r hv h
    exact ⟨hr, hc r (hp v r h) hr⟩

variable [Plain α]

theorem of_plain : ReadsBack α :=
  of_read (fun _ hp => Plain.read_toJson hp) (fun _ hp ho => Plain.read_canonical_toJson hp ho)
    (fun _ _ h => Plain.proper_of_read h) fun _ _ hv h => Plain.ordered_of_read hv h

theorem of_items : ReadsBack (SearchPage α) :=
  of_read (fun _ hp => SearchPage.read_toJson hp)
    (fun _ hp ho => SearchPage.read_canonical_toJson hp ho)
    (fun _ _ h => SearchPage.proper_of_read h) fun _ _ hv h => SearchPage.ordered_of_read hv h

end ReadsBack

theorem every_record_reads_back :
    ReadsBack ElementInstance ∧ ReadsBack Job ∧ ReadsBack ProcessInstance ∧
      ReadsBack DecisionInstance ∧ ReadsBack TaskDetails ∧ ReadsBack UserTask ∧ ReadsBack PageInfo ∧
      ReadsBack (SearchPage Job) ∧ ReadsBack (SearchPage ProcessInstance) ∧
      ReadsBack (SearchPage DecisionInstance) ∧ ReadsBack (SearchPage UserTask) :=
  ⟨.of_plain, .of_plain, .of_plain, .of_plain, .of_plain, .of_plain, .of_plain, .of_items,
    .of_items, .of_items, .of_items⟩

def nestedJob : Job where
  key := none
  retries := some 0
  deadline := none
  type := some ""
  worker := none
  customHeaders := some [ ("a", .array [.null, .float 1.5]), ("b", .object [ ("c", .null) ]) ]
  elementInstanceKey := some "7"

theorem nestedJob_reads_back : Codec.read (Codec.toJson nestedJob) = .ok nestedJob ∧
    Codec.read (Codec.toJson nestedJob).canonical = .ok nestedJob := by
  have hjob := every_record_reads_back.2.1
  have ho : Ordered nestedJob := by
    intro ms hms
    cases hms
    rfl
  exact ⟨hjob.read_toJson _ trivial, hjob.read_canonical _ trivial ho⟩

/-- What is written of a record that was read from an object holds at each known key the value of
the object, or the blank one where that is absent or null, and nothing at any other key. -/
def KeepsMembers (α : Type) [Codec α] (known : List String) (blank : Members) : Prop :=
  ∀ (ms : Members) (r : α), Codec.read (.object ms) = .ok r →
    ∃ written, Codec.toJson r = .object written ∧ (written.map Prod.fst).Nodup ∧
      ∀ key, written.lookup key =
        if key ∈ known then ((ms.lookup key).filter (!·.isNull)).or (blank.lookup key) else none

theorem Plain.keepsMembers (α : Type) [Codec α] [WellFormed α] [Plain α] :
    KeepsMembers α (Field.keys (Tabular.fields (α := α))) (blank α) := by
  intro ms r h
  refine ⟨_, Tabular.toJson_eq r, Field.nodup_written Tabular.keys_nodup, fun key => ?_⟩
  by_cases hk : key ∈ Field.keys (Tabular.fields (α := α))
  · obtain ⟨f, hf, rfl⟩ := List.mem_map.1 hk
    rw [if_pos hk, Field.lookup_written Tabular.keys_nodup hf, write_of_read h hf]
  · rw [if_neg hk, Field.lookup_written_of_not_mem hk]

/-- A page that was read from an object is written as the written forms of its items, which were
read one by one in their order, and the written page information. -/
def KeepsItems (α : Type) [Codec α] : Prop :=
  ∀ (ms : Members) (page : SearchPage α), Codec.read (.object ms) = .ok page →
    Codec.toJson page = .object [("items", .array (page.items.map Codec.toJson)),
      ("page", Codec.toJson page.info)] ∧
    (match ms.lookup "items" with
      | none => page.items = []
      | some v => ∃ vs, v = .array vs ∧
        List.Forall₂ (fun v item => Codec.read v = .ok item) vs page.items) ∧
    match ms.lookup "page" with
      | none => Codec.toJson page.info = .object [("totalItems", .integer (.ofUInt64 0))]
      | some v => Codec.read v = .ok page.info

theorem SearchPage.keepsItems (α : Type) [Codec α] : KeepsItems α := by
  intro ms page h
  obtain ⟨vs, hvs, hall⟩ := itemsAt_of_read h
  have hinfo := infoAt_of_read h
  refine ⟨rfl, ?_, ?_⟩
  · rw [rawItems?] at hvs
    cases hl : ms.lookup "items" with
    | none =>
      rw [hl] at hvs
      obtain rfl := Json.array.inj hvs
      exact hall.eq List.Forall₂.nil
    | some v =>
      rw [hl] at hvs
      exact ⟨vs, hvs, hall⟩
  · cases hl : ms.lookup "page" with
    | none =>
      rw [InfoAt, hl] at hinfo
      rw [← Except.ok.inj hinfo]
      rfl
    | some v =>
      rw [InfoAt, hl] at hinfo
      exact hinfo

theorem every_record_keeps_what_was_read :
    KeepsMembers ElementInstance
      ["elementInstanceKey", "elementId", "elementName", "type", "state", "startDate", "endDate",
        "processDefinitionId", "processInstanceKey", "processDefinitionKey", "hasIncident",
        "incidentKey", "tenantId"]
      [("endDate", .null), ("hasIncident", .bool false)] ∧
    KeepsMembers Job
      ["jobKey", "retries", "deadline", "type", "worker", "customHeaders", "elementInstanceKey"]
      [("retries", .null)] ∧
    KeepsMembers ProcessInstance
      ["processInstanceKey", "processDefinitionName", "processDefinitionId", "processDefinitionKey",
        "parentElementInstanceKey", "state", "tenantId"] [] ∧
    KeepsMembers DecisionInstance
      ["decisionEvaluationInstanceKey", "decisionEvaluationKey", "decisionDefinitionName",
        "decisionDefinitionId", "elementInstanceKey", "state", "evaluationDate",
        "evaluationFailure"] [] ∧
    KeepsMembers TaskDetails
      ["dueDate", "followUpDate", "formKey", "assignee", "userTaskKey", "candidateGroups",
        "candidateUsers", "state", "externalFormReference", "creationDate", "completionDate",
        "customHeaders", "priority"] [] ∧
    KeepsMembers UserTask
      ["elementInstanceKey", "elementId", "name", "processInstanceKey", "tenantId", "dueDate",
        "followUpDate", "formKey", "assignee", "userTaskKey", "candidateGroups", "candidateUsers",
        "state", "externalFormReference", "creationDate", "completionDate", "customHeaders",
        "priority"] [] ∧
    KeepsMembers PageInfo ["totalItems"] [("totalItems", .integer (.ofUInt64 0))] ∧
    KeepsItems Job ∧ KeepsItems ProcessInstance ∧ KeepsItems DecisionInstance ∧
    KeepsItems UserTask :=
  ⟨Plain.keepsMembers _, Plain.keepsMembers _, Plain.keepsMembers _, Plain.keepsMembers _,
    Plain.keepsMembers _, Plain.keepsMembers _, Plain.keepsMembers _, SearchPage.keepsItems _,
    SearchPage.keepsItems _, SearchPage.keepsItems _, SearchPage.keepsItems _⟩

def pausedProcess : Members :=
  [ ("tenantId", .null), ("state", .string "PAUSED"), ("color", .string "red") ]

theorem pausedProcess_keeps_state : ∃ (p : ProcessInstance) (written : Members),
    Codec.read (.object pausedProcess) = .ok p ∧ Codec.toJson p = .object written ∧
    written.lookup "state" = some (.string "PAUSED") ∧ written.lookup "tenantId" = none ∧
    written.lookup "color" = none := by
  obtain ⟨-, -, hprocess, -⟩ := every_record_keeps_what_was_read
  obtain ⟨written, hwritten, -, hlookup⟩ := hprocess pausedProcess _ rfl
  exact ⟨_, written, rfl, hwritten, hlookup "state", hlookup "tenantId", hlookup "color"⟩

end ElementMetadata
