import ElementMetadata.Wire

/-!
The five vocabularies of process records.
-/
namespace ElementMetadata

/-- The kind of diagram node that an element instance executes. -/
inductive ElementType where
  | unspecified
  | process
  | subProcess
  | eventSubProcess
  | adHocSubProcess
  | adHocSubProcessInnerInstance
  | startEvent
  | intermediateCatchEvent
  | intermediateThrowEvent
  | boundaryEvent
  | endEvent
  | serviceTask
  | receiveTask
  | userTask
  | manualTask
  | task
  | exclusiveGateway
  | inclusiveGateway
  | parallelGateway
  | eventBasedGateway
  | sequenceFlow
  | multiInstanceBody
  | callActivity
  | businessRuleTask
  | scriptTask
  | sendTask
  | unknown
deriving DecidableEq

instance : Vocabulary ElementType where
  words := [.unspecified, .process, .subProcess, .eventSubProcess, .adHocSubProcess,
    .adHocSubProcessInnerInstance, .startEvent, .intermediateCatchEvent, .intermediateThrowEvent,
    .boundaryEvent, .endEvent, .serviceTask, .receiveTask, .userTask, .manualTask, .task,
    .exclusiveGateway, .inclusiveGateway, .parallelGateway, .eventBasedGateway, .sequenceFlow,
    .multiInstanceBody, .callActivity, .businessRuleTask, .scriptTask, .sendTask, .unknown]
  wire
    | .unspecified => "UNSPECIFIED"
    | .process => "PROCESS"
    | .subProcess => "SUB_PROCESS"
    | .eventSubProcess => "EVENT_SUB_PROCESS"
    | .adHocSubProcess => "AD_HOC_SUB_PROCESS"
    | .adHocSubProcessInnerInstance => "AD_HOC_SUB_PROCESS_INNER_INSTANCE"
    | .startEvent => "START_EVENT"
    | .intermediateCatchEvent => "INTERMEDIATE_CATCH_EVENT"
    | .intermediateThrowEvent => "INTERMEDIATE_THROW_EVENT"
    | .boundaryEvent => "BOUNDARY_EVENT"
    | .endEvent => "END_EVENT"
    | .serviceTask => "SERVICE_TASK"
    | .receiveTask => "RECEIVE_TASK"
    | .userTask => "USER_TASK"
    | .manualTask => "MANUAL_TASK"
    | .task => "TASK"
    | .exclusiveGateway => "EXCLUSIVE_GATEWAY"
    | .inclusiveGateway => "INCLUSIVE_GATEWAY"
    | .parallelGateway => "PARALLEL_GATEWAY"
    | .eventBasedGateway => "EVENT_BASED_GATEWAY"
    | .sequenceFlow => "SEQUENCE_FLOW"
    | .multiInstanceBody => "MULTI_INSTANCE_BODY"
    | .callActivity => "CALL_ACTIVITY"
    | .businessRuleTask => "BUSINESS_RULE_TASK"
    | .scriptTask => "SCRIPT_TASK"
    | .sendTask => "SEND_TASK"
    | .unknown => "UNKNOWN"
  mem_words a := by cases a <;> decide
  wire_nodup := by decide

inductive ElementState where
  | active
  | completed
  | terminated
deriving DecidableEq

instance : Vocabulary ElementState where
  words := [.active, .completed, .terminated]
  wire
    | .active => "ACTIVE"
    | .completed => "COMPLETED"
    | .terminated => "TERMINATED"
  mem_words a := by cases a <;> decide
  wire_nodup := by decide

inductive UserTaskState where
  | creating
  | created
  | assigning
  | updating
  | completing
  | completed
  | canceling
  | canceled
  | failed
deriving DecidableEq

instance : Vocabulary UserTaskState where
  words := [.creating, .created, .assigning, .updating, .completing, .completed, .canceling,
    .canceled, .failed]
  wire
    | .creating => "CREATING"
    | .created => "CREATED"
    | .assigning => "ASSIGNING"
    | .updating => "UPDATING"
    | .completing => "COMPLETING"
    | .completed => "COMPLETED"
    | .canceling => "CANCELING"
    | .canceled => "CANCELED"
    | .failed => "FAILED"
  mem_words a := by cases a <;> decide
  wire_nodup := by decide

inductive DecisionState where
  | evaluated
  | failed
  | unspecified
  | unknown
deriving DecidableEq

instance : Vocabulary DecisionState where
  words := [.evaluated, .failed, .unspecified, .unknown]
  wire
    | .evaluated => "EVALUATED"
    | .failed => "FAILED"
    | .unspecified => "UNSPECIFIED"
    | .unknown => "UNKNOWN"
  mem_words a := by cases a <;> decide
  wire_nodup := by decide

inductive ProcessState where
  | active
  | completed
  | terminated
deriving DecidableEq

instance : Vocabulary ProcessState where
  words := [.active, .completed, .terminated]
  wire
    | .active => "ACTIVE"
    | .completed => "COMPLETED"
    | .terminated => "TERMINATED"
  mem_words a := by cases a <;> decide
  wire_nodup := by decide

end ElementMetadata
