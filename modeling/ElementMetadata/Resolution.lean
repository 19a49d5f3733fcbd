import ElementMetadata.Event

/-!
Finding an element's linked records in its pages. Jobs are looked for whatever the element is; a called
process, a decision or a user task only if the element is of the type that has one. The first match
counts; that there were more is reported.
-/
namespace ElementMetadata
namespace ElementType

def linksCalledProcess (type : Wire ElementType) : Bool := type = .listed .callActivity

def linksDecision (type : Wire ElementType) : Bool := type = .listed .businessRuleTask

def linksUserTask (type : Wire ElementType) : Bool := type = .listed .userTask

end ElementType

namespace LinkedPages
variable {α : Type}

def matching (linkKey : α → Option String) (elementKey : String) (items : List α) : List α :=
  items.filter fun item => linkKey item == some elementKey

def firstLinked (kind : RecordKind) (linkKey : α → Option String) (elementKey : String)
    (items : List α) : Logged Event (Option α) :=
  match matching linkKey elementKey items with
  | [] => ⟨none, []⟩
  | [item] => ⟨some item, []⟩
  | item :: more => ⟨some item, [.severalMatches kind elementKey more.length]⟩

def onlyIf (applies : Bool) (search : Logged Event (Option α)) : Logged Event (Option α) :=
  if applies then search else ⟨none, []⟩

def resolve (pages : LinkedPages) : Logged Event Sources := do
  let element := pages.element
  let job ← firstLinked .job Job.elementInstanceKey element.key pages.jobs.items
  let calledProcess ← onlyIf (ElementType.linksCalledProcess element.type) <|
    firstLinked .processInstance ProcessInstance.parentElementInstanceKey element.key
      pages.processInstances.items
  let decision ← onlyIf (ElementType.linksDecision element.type) <|
    firstLinked .decisionInstance DecisionInstance.elementInstanceKey element.key
      pages.decisionInstances.items
  let task ← onlyIf (ElementType.linksUserTask element.type) <|
    firstLinked .userTask UserTask.elementInstanceKey element.key pages.userTasks.items
  return { element, job, calledProcess, decision, userTask := task.map UserTask.details }

end LinkedPages
end ElementMetadata
