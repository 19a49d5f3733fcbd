import ElementMetadata.Proofs.Process.SearchPage
import ElementMetadata.Proofs.Record.InOrder

/-!
The records of a process as arrays. The order in which a record's fields are declared is the order
of the items. A user task is two records in one, and so is no array.
-/
namespace ElementMetadata

theorem every_record_reads_in_order :
    ReadsInOrder ElementInstance
      ["elementInstanceKey", "elementId", "elementName", "type", "state", "startDate", "endDate",
        "processDefinitionId", "processInstanceKey", "processDefinitionKey", "hasIncident",
        "incidentKey", "tenantId"] ∧
    ReadsInOrder Job
      ["jobKey", "retries", "deadline", "type", "worker", "customHeaders", "elementInstanceKey"] ∧
    ReadsInOrder ProcessInstance
      ["processInstanceKey", "processDefinitionName", "processDefinitionId", "processDefinitionKey",
        "parentElementInstanceKey", "state", "tenantId"] ∧
    ReadsInOrder DecisionInstance
      ["decisionEvaluationInstanceKey", "decisionEvaluationKey", "decisionDefinitionName",
        "decisionDefinitionId", "elementInstanceKey", "state", "evaluationDate",
        "evaluationFailure"] ∧
    ReadsInOrder TaskDetails
      ["dueDate", "followUpDate", "formKey", "assignee", "userTaskKey", "candidateGroups",
        "candidateUsers", "state", "externalFormReference", "creationDate", "completionDate",
        "customHeaders", "priority"] ∧
    ReadsInOrder PageInfo ["totalItems"] ∧
    (∀ (α : Type) [Codec α], ReadsInOrder (SearchPage α) ["items", "page"]) ∧
    ∀ (vs : List Json) (t : UserTask), Codec.read (.array vs) ≠ .ok t :=
  ⟨.of_record rfl, .of_record rfl, .of_record rfl, .of_record rfl, .of_record rfl, .of_record rfl,
    fun _ _ => .of_record rfl, fun _ _ => nofun⟩

def unnamedElement : List Json :=
  [.string "1", .string "Task_1", .null, .string "SERVICE_TASK", .string "ACTIVE"]

def unnamedElementMembers : Members :=
  [ ("elementId", .string "Task_1"), ("elementInstanceKey", .string "1"), ("elementName", .null),
    ("state", .string "ACTIVE"), ("type", .string "SERVICE_TASK") ]

theorem unnamedElement_is_read_in_order : ∃ e : ElementInstance,
    Codec.read (.object unnamedElementMembers) = .ok e ∧
    Codec.read (.array unnamedElement) = .ok e ∧ e.elementId = "Task_1" ∧ e.endDate = none := by
  obtain ⟨helement, -⟩ := every_record_reads_in_order
  have hperm : unnamedElementMembers.Perm (["elementInstanceKey", "elementId", "elementName", "type",
      "state", "startDate", "endDate", "processDefinitionId", "processInstanceKey",
      "processDefinitionKey", "hasIncident", "incidentKey", "tenantId"].zip unnamedElement) :=
    (List.Perm.swap ..).trans ((((List.Perm.swap ..).cons _).cons _).cons _)
  exact ⟨_, rfl, (helement.read_iff _ _ _ hperm).2 ⟨by decide, rfl⟩, rfl, rfl⟩

end ElementMetadata
