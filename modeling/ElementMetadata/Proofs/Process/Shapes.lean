import ElementMetadata.Process.DecisionInstance
import ElementMetadata.Process.ElementInstance
import ElementMetadata.Process.Job
import ElementMetadata.Process.ProcessInstance
import ElementMetadata.Process.SearchPage
import ElementMetadata.Process.UserTask
import ElementMetadata.Proofs.Record.Shape

/-!
The shapes of the records of a process, key by key in declaration order. A task is read in two passes,
first over its own keys and then over those of its details; any other record is read in one.
-/
namespace ElementMetadata

namespace ElementInstance

def shape : Shape :=
  [ ⟨"elementInstanceKey", .required, .text⟩,
    ⟨"elementId", .required, .text⟩,
    ⟨"elementName", .optional, .text⟩,
    ⟨"type", .required, .text⟩,
    ⟨"state", .required, .text⟩,
    ⟨"startDate", .optional, .text⟩,
    ⟨"endDate", .optional, .text⟩,
    ⟨"processDefinitionId", .optional, .text⟩,
    ⟨"processInstanceKey", .optional, .text⟩,
    ⟨"processDefinitionKey", .optional, .text⟩,
    ⟨"hasIncident", .defaulted, .boolean⟩,
    ⟨"incidentKey", .optional, .text⟩,
    ⟨"tenantId", .optional, .text⟩ ]

theorem readInPasses : ReadInPasses ElementInstance [shape] := by
  refine .of_record rfl ?_ (by decide) (by simp [shape, KnownField.Holds, Kind.Holds])
  exact .cons (.required .text _ _) <| .cons (.required .text _ _) <| .cons (.optional .text _ _) <|
    .cons (.required .text _ _) <| .cons (.required .text _ _) <| .cons (.optional .text _ _) <|
    .cons (.nullable .text _ _) <| .cons (.optional .text _ _) <| .cons (.optional .text _ _) <|
    .cons (.optional .text _ _) <| .cons (.defaulted .boolean _ _) <|
    .cons (.optional .text _ _) <| .cons (.optional .text _ _) .nil

end ElementInstance

namespace Job

def shape : Shape :=
  [ ⟨"jobKey", .optional, .text⟩,
    ⟨"retries", .optional, .integer .signed64⟩,
    ⟨"deadline", .optional, .text⟩,
    ⟨"type", .optional, .text⟩,
    ⟨"worker", .optional, .text⟩,
    ⟨"customHeaders", .optional, .map .any⟩,
    ⟨"elementInstanceKey", .optional, .text⟩ ]

theorem readInPasses : ReadInPasses Job [shape] := by
  refine .of_record rfl ?_ (by decide) (by simp [shape, KnownField.Holds, Kind.Holds])
  exact .cons (.optional .text _ _) <| .cons (.nullable (.integer _) _ _) <|
    .cons (.optional .text _ _) <| .cons (.optional .text _ _) <| .cons (.optional .text _ _) <|
    .cons (.optional (.map .any) _ _) <| .cons (.optional .text _ _) .nil

end Job

namespace ProcessInstance

def shape : Shape :=
  [ ⟨"processInstanceKey", .optional, .text⟩,
    ⟨"processDefinitionName", .optional, .text⟩,
    ⟨"processDefinitionId", .optional, .text⟩,
    ⟨"processDefinitionKey", .optional, .text⟩,
    ⟨"parentElementInstanceKey", .optional, .text⟩,
    ⟨"state", .optional, .text⟩,
    ⟨"tenantId", .optional, .text⟩ ]

theorem readInPasses : ReadInPasses ProcessInstance [shape] := by
  refine .of_record rfl ?_ (by decide) (by simp [shape, KnownField.Holds, Kind.Holds])
  exact .cons (.optional .text _ _) <| .cons (.optional .text _ _) <| .cons (.optional .text _ _) <|
    .cons (.optional .text _ _) <| .cons (.optional .text _ _) <| .cons (.optional .text _ _) <|
    .cons (.optional .text _ _) .nil

end ProcessInstance

namespace DecisionInstance

def shape : Shape :=
  [ ⟨"decisionEvaluationInstanceKey", .optional, .text⟩,
    ⟨"decisionEvaluationKey", .optional, .text⟩,
    ⟨"decisionDefinitionName", .optional, .text⟩,
    ⟨"decisionDefinitionId", .optional, .text⟩,
    ⟨"elementInstanceKey", .optional, .text⟩,
    ⟨"state", .optional, .text⟩,
    ⟨"evaluationDate", .optional, .text⟩,
    ⟨"evaluationFailure", .optional, .text⟩ ]

theorem readInPasses : ReadInPasses DecisionInstance [shape] := by
  refine .of_record rfl ?_ (by decide) (by simp [shape, KnownField.Holds, Kind.Holds])
  exact .cons (.optional .text _ _) <| .cons (.optional .text _ _) <| .cons (.optional .text _ _) <|
    .cons (.optional .text _ _) <| .cons (.optional .text _ _) <| .cons (.optional .text _ _) <|
    .cons (.optional .text _ _) <| .cons (.optional .text _ _) .nil

end DecisionInstance

namespace TaskDetails

def shape : Shape :=
  [ ⟨"dueDate", .optional, .text⟩,
    ⟨"followUpDate", .optional, .text⟩,
    ⟨"formKey", .optional, .text⟩,
    ⟨"assignee", .optional, .text⟩,
    ⟨"userTaskKey", .optional, .text⟩,
    ⟨"candidateGroups", .optional, .list .text⟩,
    ⟨"candidateUsers", .optional, .list .text⟩,
    ⟨"state", .optional, .text⟩,
    ⟨"externalFormReference", .optional, .text⟩,
    ⟨"creationDate", .optional, .text⟩,
    ⟨"completionDate", .optional, .text⟩,
    ⟨"customHeaders", .optional, .map .text⟩,
    ⟨"priority", .optional, .integer .signed32⟩ ]

theorem describes_shape : List.Forall₂ KnownField.Describes shape (Field.slots fields) :=
  .cons (.optional .text _ _) <| .cons (.optional .text _ _) <| .cons (.optional .text _ _) <|
    .cons (.optional .text _ _) <| .cons (.optional .text _ _) <|
    .cons (.optional (.list .text) _ _) <| .cons (.optional (.list .text) _ _) <|
    .cons (.optional .text _ _) <| .cons (.optional .text _ _) <| .cons (.optional .text _ _) <|
    .cons (.optional .text _ _) <| .cons (.optional (.map .text) _ _) <|
    .cons (.optional (.integer _) _ _) .nil

theorem readInPasses : ReadInPasses TaskDetails [shape] :=
  .of_record rfl describes_shape (by decide) (by simp [shape, KnownField.Holds, Kind.Holds])

end TaskDetails

namespace UserTask

def ownShape : Shape :=
  [ ⟨"elementInstanceKey", .optional, .text⟩,
    ⟨"elementId", .optional, .text⟩,
    ⟨"name", .optional, .text⟩,
    ⟨"processInstanceKey", .optional, .text⟩,
    ⟨"tenantId", .optional, .text⟩ ]

theorem readInPasses : ReadInPasses UserTask [ownShape, TaskDetails.shape] := by
  refine .of_merged rfl ?_ TaskDetails.describes_shape (by decide)
    (by simp [ownShape, TaskDetails.shape, KnownField.Holds, Kind.Holds])
  exact .cons (.optional .text _ _) <| .cons (.optional .text _ _) <| .cons (.optional .text _ _) <|
    .cons (.optional .text _ _) <| .cons (.optional .text _ _) .nil

end UserTask

namespace PageInfo

def shape : Shape := [⟨"totalItems", .defaulted, .integer .unsigned64⟩]

theorem readInPasses : ReadInPasses PageInfo [shape] := by
  refine .of_record rfl ?_ (by decide) (by simp [shape, KnownField.Holds, Kind.Holds])
  exact .cons (.defaulted (.integer _) _ _) .nil

end PageInfo

namespace SearchPage

def shape (α : Type) [Codec α] : Shape :=
  [ ⟨"items", .defaulted, .list (.readable α)⟩,
    ⟨"page", .defaulted, .readable PageInfo⟩ ]

theorem readInPasses (α : Type) [Codec α] : ReadInPasses (SearchPage α) [shape α] := by
  have hnull (info : PageInfo) : Codec.read .null ≠ .ok info := nofun
  refine .of_record rfl ?_ (by simp [shape])
    (by simp [shape, KnownField.Holds, Kind.Holds, hnull])
  exact .cons (.defaulted (.list (.readable α)) _ _) <|
    .cons (.defaulted (.readable PageInfo) _ _) .nil

end SearchPage

/-- Every record is read from the objects of its shape, and refused for a fault that the shape and the
order of the keys determine. -/
theorem every_record_is_read_by_its_shape :
    ReadInPasses ElementInstance [ElementInstance.shape] ∧
    ReadInPasses Job [Job.shape] ∧
    ReadInPasses ProcessInstance [ProcessInstance.shape] ∧
    ReadInPasses DecisionInstance [DecisionInstance.shape] ∧
    ReadInPasses TaskDetails [TaskDetails.shape] ∧
    ReadInPasses UserTask [UserTask.ownShape, TaskDetails.shape] ∧
    ReadInPasses PageInfo [PageInfo.shape] ∧
    ReadInPasses (SearchPage Job) [SearchPage.shape Job] ∧
    ReadInPasses (SearchPage ProcessInstance) [SearchPage.shape ProcessInstance] ∧
    ReadInPasses (SearchPage DecisionInstance) [SearchPage.shape DecisionInstance] ∧
    ReadInPasses (SearchPage UserTask) [SearchPage.shape UserTask] :=
  ⟨ElementInstance.readInPasses, Job.readInPasses, ProcessInstance.readInPasses,
    DecisionInstance.readInPasses, TaskDetails.readInPasses, UserTask.readInPasses,
    PageInfo.readInPasses, SearchPage.readInPasses _, SearchPage.readInPasses _,
    SearchPage.readInPasses _, SearchPage.readInPasses _⟩

def numberedElement : Members :=
  [("elementId", .integer (.ofInt64 5)), ("hasIncident", .null), ("type", .string "TASK")]

def keylessElement : Members := [("elementId", .string "review"), ("type", .string "TASK")]

def numberedTask : Members :=
  [("assignee", .integer (.ofInt64 1)), ("tenantId", .integer (.ofInt64 2))]

theorem first_fault_of_several_is_reported :
    Codec.read (.object numberedElement) =
      (.error (.wrongType (.integer 5) .text) : Except Fault ElementInstance) ∧
    Codec.read (.object keylessElement) =
      (.error (.missingField "elementInstanceKey") : Except Fault ElementInstance) ∧
    Codec.read (.object numberedTask) =
      (.error (.wrongType (.integer 2) .text) : Except Fault UserTask) := by
  obtain ⟨helement, -, -, -, -, htask, -⟩ := every_record_is_read_by_its_shape
  have hnumbered : Json.Ascending numberedElement := by unfold Json.Ascending; decide
  have hkeyless : Json.Ascending keylessElement := by unfold Json.Ascending; decide
  have htasked : Json.Ascending numberedTask := by unfold Json.Ascending; decide
  refine ⟨(helement.error_iff _ _ hnumbered).2 ?_, (helement.error_iff _ _ hkeyless).2 ?_,
    (htask.error_iff _ _ htasked).2 ?_⟩
  · refine .illTyped (List.nil_append _).symm (by simp)
      ⟨⟨"elementId", .required, .text⟩, by simp [ElementInstance.shape], _, List.mem_cons_self, rfl,
        fun g hg w hw _ => ?_⟩
    obtain hw | hw := List.mem_cons.1 hw
    · exact (congrArg Prod.fst hw).ge
    · exact ((List.pairwise_cons.1 hnumbered).1 _ hw).le
  · refine .missing ?_ ⟨[], _, _, rfl, rfl, rfl, by simp [keylessElement], by simp⟩
    simp [Shape.WellTyped, ElementInstance.shape, keylessElement, KnownField.Holds, Kind.Holds]
  · refine .illTyped (List.nil_append _).symm (by simp)
      ⟨⟨"tenantId", .optional, .text⟩, by simp [UserTask.ownShape], .integer (.ofInt64 2),
        by simp [numberedTask], rfl, fun g hg w hw _ => ?_⟩
    simp only [UserTask.ownShape, List.mem_cons, List.not_mem_nil, or_false] at hg
    obtain rfl | rfl | rfl | rfl | rfl := hg <;> simp [numberedTask] at hw ⊢

end ElementMetadata
