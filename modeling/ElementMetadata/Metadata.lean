import ElementMetadata.Resolution

/-!
The metadata of an element instance: its own fields and those of its linked records in one flat record.
A link's field is null in JSON where the link or the field is absent, while a field of the element or
its user task is left out; `0` and empty strings are kept. An empty date counts as absent.
-/
namespace ElementMetadata

/-- The state shown for an element: that of its user task, if it has one with a state. -/
inductive ShownState where
  | element (state : Wire ElementState)
  | userTask (state : Wire UserTaskState)
deriving DecidableEq

def ShownState.text : ShownState → String
  | .element state => state.toString
  | .userTask state => state.toString

structure Metadata where
  calledProcessInstanceId : Option String
  calledProcessDefinitionName : Option String
  calledDecisionInstanceId : Option String
  calledDecisionDefinitionName : Option String
  jobRetries : Option Int64
  jobDeadline : Option String
  jobKey : Option String
  jobType : Option String
  jobWorker : Option String
  jobCustomHeaders : Option Members
  elementKey : String
  elementId : String
  elementName : Option String
  type : Wire ElementType
  state : ShownState
  /-- Empty if the element has not started. -/
  startDate : String
  endDate : Option String
  processDefinitionId : Option String
  processInstanceKey : Option String
  processDefinitionKey : Option String
  hasIncident : Bool
  incidentKey : Option String
  tenantId : Option String
  creationDate : Option String
  completionDate : Option String
  customHeaders : Option (List (String × String))
  priority : Option Int32
  userTaskKey : Option String
  dueDate : Option String
  followUpDate : Option String
  formKey : Option String
  assignee : Option String
  candidateGroups : Option (List String)
  candidateUsers : Option (List String)
  externalFormReference : Option String
deriving BEq

def nonEmptyDate (date : Option String) : Option String := date.filter (!·.isEmpty)

namespace Sources

def merge (sources : Sources) (task : TaskDetails) : Metadata :=
  let element := sources.element
  { calledProcessInstanceId := sources.calledProcess.bind (·.key)
    calledProcessDefinitionName := sources.calledProcess.bind (·.definitionName)
    calledDecisionInstanceId := sources.decision.bind (·.key)
    calledDecisionDefinitionName := sources.decision.bind (·.definitionName)
    jobRetries := sources.job.bind (·.retries)
    jobDeadline := sources.job.bind (·.deadline)
    jobKey := sources.job.bind (·.key)
    jobType := sources.job.bind (·.type)
    jobWorker := sources.job.bind (·.worker)
    jobCustomHeaders := sources.job.bind (·.customHeaders)
    elementKey := element.key
    elementId := element.elementId
    elementName := element.elementName
    type := element.type
    state := task.state.elim (.element element.state) .userTask
    startDate := (nonEmptyDate element.startDate).getD ""
    endDate := nonEmptyDate element.endDate
    processDefinitionId := element.processDefinitionId
    processInstanceKey := element.processInstanceKey
    processDefinitionKey := element.processDefinitionKey
    hasIncident := element.hasIncident
    incidentKey := element.incidentKey
    tenantId := element.tenantId
    creationDate := task.creationDate
    completionDate := task.completionDate
    customHeaders := task.customHeaders
    priority := task.priority
    userTaskKey := task.key
    dueDate := task.dueDate
    followUpDate := task.followUpDate
    formKey := task.formKey
    assignee := task.assignee
    candidateGroups := task.candidateGroups
    candidateUsers := task.candidateUsers
    externalFormReference := task.externalFormReference }

/-- The metadata. A job beside a user task is reported; the fields of both are kept. -/
def metadata (sources : Sources) : Logged Event Metadata :=
  { value := sources.merge (sources.userTask.getD {})
    events :=
      if sources.job.isSome && sources.userTask.isSome then [.jobAndTask sources.element.key]
      else [] }

inductive Change where
  | job (record : Option Job)
  | calledProcess (record : Option ProcessInstance)
  | decision (record : Option DecisionInstance)
  | userTask (record : Option TaskDetails)

def change (sources : Sources) : Change → Sources
  | .job record => { sources with job := record }
  | .calledProcess record => { sources with calledProcess := record }
  | .decision record => { sources with decision := record }
  | .userTask record => { sources with userTask := record }

def ofChanges (element : ElementInstance) (changes : List Change) : Sources :=
  changes.foldl change { element }

end Sources

namespace Metadata

def build (element : ElementInstance) (job : Option Job) (calledProcess : Option ProcessInstance)
    (decision : Option DecisionInstance) (userTask : Option TaskDetails) :
    Logged Event Metadata :=
  Sources.metadata { element, job, calledProcess, decision, userTask }

def ofSourcesDocument (doc : Json) : Except DocumentError (Logged Event Metadata) :=
  (Sources.ofJson doc).map Sources.metadata

def ofPagesDocument (doc : Json) : Except DocumentError (Logged Event Metadata) :=
  (LinkedPages.ofJson doc).map fun pages => do (← pages.resolve).metadata

def columns : List (Column Metadata) :=
  [ .nullable "calledProcessInstanceId" fun m => m.calledProcessInstanceId.map .string,
    .nullable "calledProcessDefinitionName" fun m => m.calledProcessDefinitionName.map .string,
    .nullable "calledDecisionInstanceId" fun m => m.calledDecisionInstanceId.map .string,
    .nullable "calledDecisionDefinitionName" fun m => m.calledDecisionDefinitionName.map .string,
    .nullable "jobRetries" fun m => m.jobRetries.map fun n => .integer (.ofInt64 n),
    .nullable "jobDeadline" fun m => m.jobDeadline.map .string,
    .nullable "jobKey" fun m => m.jobKey.map .string,
    .nullable "jobType" fun m => m.jobType.map .string,
    .nullable "jobWorker" fun m => m.jobWorker.map .string,
    .nullable "jobCustomHeaders" fun m => m.jobCustomHeaders.map .object,
    .always "elementInstanceKey" fun m => .string m.elementKey,
    .always "elementId" fun m => .string m.elementId,
    .omitted "elementName" fun m => m.elementName.map .string,
    .always "type" fun m => m.type.toJson,
    .always "state" fun m => .string m.state.text,
    .always "startDate" fun m => .string m.startDate,
    .nullable "endDate" fun m => m.endDate.map .string,
    .omitted "processDefinitionId" fun m => m.processDefinitionId.map .string,
    .omitted "processInstanceKey" fun m => m.processInstanceKey.map .string,
    .omitted "processDefinitionKey" fun m => m.processDefinitionKey.map .string,
    .always "hasIncident" fun m => .bool m.hasIncident,
    .omitted "incidentKey" fun m => m.incidentKey.map .string,
    .omitted "tenantId" fun m => m.tenantId.map .string,
    .omitted "creationDate" fun m => m.creationDate.map .string,
    .omitted "completionDate" fun m => m.completionDate.map .string,
    .omitted "customHeaders" fun m => m.customHeaders.map .ofLabels,
    .omitted "priority" fun m => m.priority.map fun n => .integer (.ofInt32 n),
    .omitted "userTaskKey" fun m => m.userTaskKey.map .string,
    .omitted "dueDate" fun m => m.dueDate.map .string,
    .omitted "followUpDate" fun m => m.followUpDate.map .string,
    .omitted "formKey" fun m => m.formKey.map .string,
    .omitted "assignee" fun m => m.assignee.map .string,
    .omitted "candidateGroups" fun m => m.candidateGroups.map .ofTexts,
    .omitted "candidateUsers" fun m => m.candidateUsers.map .ofTexts,
    .omitted "externalFormReference" fun m => m.externalFormReference.map .string ]

def toJson (m : Metadata) : Json := Column.writeAll columns m

end Metadata
end ElementMetadata
