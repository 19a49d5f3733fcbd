import ElementMetadata.Vocabulary

/-!
User tasks. The details are what the metadata of an element shows of its task; a task as a search
returns it has five fields more, in the same object. No field has to be there.
-/
namespace ElementMetadata

structure TaskDetails where
  dueDate : Option String := none
  followUpDate : Option String := none
  formKey : Option String := none
  assignee : Option String := none
  key : Option String := none
  candidateGroups : Option (List String) := none
  candidateUsers : Option (List String) := none
  state : Option (Wire UserTaskState) := none
  externalFormReference : Option String := none
  creationDate : Option String := none
  completionDate : Option String := none
  customHeaders : Option (List (String × String)) := none
  priority : Option Int32 := none
deriving DecidableEq

namespace TaskDetails

def fields : List (Field TaskDetails) :=
  [ .optional "dueDate" .text fun t => t.dueDate.map .string,
    .optional "followUpDate" .text fun t => t.followUpDate.map .string,
    .optional "formKey" .text fun t => t.formKey.map .string,
    .optional "assignee" .text fun t => t.assignee.map .string,
    .optional "userTaskKey" .text fun t => t.key.map .string,
    .optional "candidateGroups" (.list .text) fun t => t.candidateGroups.map .ofTexts,
    .optional "candidateUsers" (.list .text) fun t => t.candidateUsers.map .ofTexts,
    .optional "state" .text fun t => t.state.map Wire.toJson,
    .optional "externalFormReference" .text fun t => t.externalFormReference.map .string,
    .optional "creationDate" .text fun t => t.creationDate.map .string,
    .optional "completionDate" .text fun t => t.completionDate.map .string,
    .optional "customHeaders" (.map .text) fun t => t.customHeaders.map .ofLabels,
    .optional "priority" (.integer .signed32) fun t =>
      t.priority.map fun n => .integer (.ofInt32 n) ]

def ofNormal (v : Json) : TaskDetails where
  dueDate := v.text? "dueDate"
  followUpDate := v.text? "followUpDate"
  formKey := v.text? "formKey"
  assignee := v.text? "assignee"
  key := v.text? "userTaskKey"
  candidateGroups := v.texts? "candidateGroups"
  candidateUsers := v.texts? "candidateUsers"
  state := (v.text? "state").map Wire.ofString
  externalFormReference := v.text? "externalFormReference"
  creationDate := v.text? "creationDate"
  completionDate := v.text? "completionDate"
  customHeaders := v.labels? "customHeaders"
  priority := (v.integer? "priority").map Int32.ofInt

instance : Codec TaskDetails where
  form := .record "UserTaskSubset" (Field.slots fields)
  ofNormal := ofNormal
  toJson := Field.writeAll fields

end TaskDetails

structure UserTask where
  elementInstanceKey : Option String
  elementId : Option String
  name : Option String
  processInstanceKey : Option String
  tenantId : Option String
  details : TaskDetails
deriving DecidableEq

namespace UserTask

def ownFields : List (Field UserTask) :=
  [ .optional "elementInstanceKey" .text fun t => t.elementInstanceKey.map .string,
    .optional "elementId" .text fun t => t.elementId.map .string,
    .optional "name" .text fun t => t.name.map .string,
    .optional "processInstanceKey" .text fun t => t.processInstanceKey.map .string,
    .optional "tenantId" .text fun t => t.tenantId.map .string ]

def fields : List (Field UserTask) :=
  ownFields ++ TaskDetails.fields.map (·.within UserTask.details)

instance : Codec UserTask where
  form := .merged "UserTask" (Field.slots ownFields) (Field.slots TaskDetails.fields)
  ofNormal v :=
    { elementInstanceKey := v.text? "elementInstanceKey"
      elementId := v.text? "elementId"
      name := v.text? "name"
      processInstanceKey := v.text? "processInstanceKey"
      tenantId := v.text? "tenantId"
      details := TaskDetails.ofNormal v }
  toJson := Field.writeAll fields

end UserTask
end ElementMetadata
