import ElementMetadata.Process.DecisionInstance
import ElementMetadata.Process.ElementInstance
import ElementMetadata.Process.Job
import ElementMetadata.Process.ProcessInstance
import ElementMetadata.Process.SearchPage
import ElementMetadata.Process.UserTask

/-!
The two documents about an element instance: its sources, with at most one linked record of each kind,
and its linked pages, with search results in which these records may be found. Both hold the element
instance itself; a record or a page that is absent or null is taken as none or as the empty page.
-/
namespace ElementMetadata

inductive RecordKind where
  | elementInstance
  | job
  | processInstance
  | decisionInstance
  | userTask
deriving DecidableEq

def RecordKind.name : RecordKind → String
  | .elementInstance => "element instance"
  | .job => "job"
  | .processInstance => "process instance"
  | .decisionInstance => "decision instance"
  | .userTask => "user task"

inductive DocumentError where
  | notAnObject (found : Found)
  | missingField (key : String)
  | invalidRecord (kind : RecordKind) (fault : Fault)

def Found.sort : Found → String
  | .null => "null"
  | .boolean _ => "a boolean"
  | .integer _ | .float _ => "a number"
  | .text _ => "a string"
  | .sequence => "an array"
  | .map => "an object"

namespace DocumentError

def objectWanted (found : Found) : String := "expected a JSON object, got " ++ found.sort

def message : DocumentError → String
  | .notAnObject found => "invalid document: " ++ objectWanted found
  | .missingField key => "document missing required field: '" ++ key ++ "'"
  | .invalidRecord kind fault => "invalid " ++ kind.name ++ " record: " ++ fault.message

end DocumentError

namespace Document
variable {α : Type} [Codec α]

/-- What a document holds at a key, null taken as nothing. -/
def at? (doc : Json) (key : String) : Option Json := (doc.member? key).filter (!·.isNull)

def readRecord (kind : RecordKind) (v : Json) : Except DocumentError α :=
  (Codec.read v).mapError (.invalidRecord kind)

def requiredRecord (doc : Json) (key : String) (kind : RecordKind) : Except DocumentError α :=
  match at? doc key with
  | none => .error (.missingField key)
  | some v => readRecord kind v

def optionalRecord (doc : Json) (key : String) (kind : RecordKind) :
    Except DocumentError (Option α) :=
  match at? doc key with
  | none => .ok none
  | some v => (readRecord kind v).map some

def optionalPage (doc : Json) (key : String) (kind : RecordKind) :
    Except DocumentError (SearchPage α) :=
  match at? doc key with
  | none => .ok {}
  | some v => readRecord kind v

def readObject {β : Type} (read : Json → Except DocumentError β) (doc : Json) :
    Except DocumentError β :=
  match doc with
  | .object members => read (.object members)
  | v => .error (.notAnObject (Found.ofJson v))

end Document

structure Sources where
  element : ElementInstance
  job : Option Job := none
  calledProcess : Option ProcessInstance := none
  decision : Option DecisionInstance := none
  userTask : Option TaskDetails := none
deriving BEq

namespace Sources

def ofJson : Json → Except DocumentError Sources :=
  Document.readObject fun doc => do
    let element ← Document.requiredRecord doc "elementInstance" .elementInstance
    let job ← Document.optionalRecord doc "job" .job
    let calledProcess ← Document.optionalRecord doc "calledProcessInstance" .processInstance
    let decision ← Document.optionalRecord doc "decisionInstance" .decisionInstance
    let userTask ← Document.optionalRecord doc "userTask" .userTask
    return { element, job, calledProcess, decision, userTask }

end Sources

structure LinkedPages where
  element : ElementInstance
  jobs : SearchPage Job := {}
  processInstances : SearchPage ProcessInstance := {}
  decisionInstances : SearchPage DecisionInstance := {}
  userTasks : SearchPage UserTask := {}
deriving BEq

namespace LinkedPages

def ofJson : Json → Except DocumentError LinkedPages :=
  Document.readObject fun doc => do
    let element ← Document.requiredRecord doc "elementInstance" .elementInstance
    let jobs ← Document.optionalPage doc "jobs" .job
    let processInstances ← Document.optionalPage doc "processInstances" .processInstance
    let decisionInstances ← Document.optionalPage doc "decisionInstances" .decisionInstance
    let userTasks ← Document.optionalPage doc "userTasks" .userTask
    return { element, jobs, processInstances, decisionInstances, userTasks }

end LinkedPages
end ElementMetadata
