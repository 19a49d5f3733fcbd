import ElementMetadata.Metadata

/-!
The summary of an element's metadata: a few rows of a label and a text. Rows without a text are left
out, except that of the element's key.
-/
namespace ElementMetadata

structure Summary where
  elementKey : String
  executionDuration : Option String
  calledProcess : Option String
  calledDecision : Option String
  /-- The called decision once more, if the element has an incident. -/
  rootCauseDecision : Option String
  hasIncident : Bool
deriving DecidableEq

namespace Summary

def defaultRunningSuffix : String := " (running)"

/-- A link as text: name and key, or the name alone if the key is empty. A name that is absent or
empty gives way to the general one; without a key there is no link. -/
def linkLabel (general : String) (name key : Option String) : Option String :=
  key.map fun key =>
    let name := (name.filter (!·.isEmpty)).getD general
    if key.isEmpty then name else name ++ " - " ++ key

def durationOf (m : Metadata) (now : Timestamp) (runningSuffix : String) :
    Logged Event (Option String) :=
  match executionText m.startDate m.endDate now runningSuffix with
  | .ok text => ⟨text, []⟩
  | .error error => ⟨none, [.durationSkipped m.elementKey error]⟩

def ofMetadata (m : Metadata) (now : Timestamp) (runningSuffix : String) :
    Logged Event Summary := do
  let duration ← durationOf m now runningSuffix
  let decision := linkLabel "Decision" m.calledDecisionDefinitionName m.calledDecisionInstanceId
  return {
    elementKey := m.elementKey
    executionDuration := duration
    calledProcess := linkLabel "Process" m.calledProcessDefinitionName m.calledProcessInstanceId
    calledDecision := decision
    rootCauseDecision := decision.filter fun _ => m.hasIncident
    hasIncident := m.hasIncident }

def columns : List (Column Summary) :=
  [ .always "elementInstanceKey" fun s => .string s.elementKey,
    .nullable "executionDuration" fun s => s.executionDuration.map .string,
    .nullable "calledProcessInstance" fun s => s.calledProcess.map .string,
    .nullable "calledDecisionInstance" fun s => s.calledDecision.map .string,
    .nullable "rootCauseDecisionInstance" fun s => s.rootCauseDecision.map .string,
    .always "hasIncident" fun s => .bool s.hasIncident ]

def toJson (s : Summary) : Json := Column.writeAll columns s

inductive Label where
  | elementKey
  | executionDuration
  | calledProcess
  | calledDecision
  | incident
  | rootCauseDecision
deriving DecidableEq

def Label.text : Label → String
  | .elementKey => "Element Instance Key"
  | .executionDuration => "Execution Duration"
  | .calledProcess => "Called Process Instance"
  | .calledDecision => "Called Decision Instance"
  | .incident => "Incident"
  | .rootCauseDecision => "Root Cause Decision Instance"

def row (label : Label) (text : Option String) : List (Label × String) :=
  text.toList.map (label, ·)

def rows (s : Summary) : List (Label × String) :=
  row .elementKey (some s.elementKey) ++
  row .executionDuration s.executionDuration ++
  row .calledProcess s.calledProcess ++
  row .calledDecision s.calledDecision ++
  row .incident (if s.hasIncident then some "yes" else none) ++
  row .rootCauseDecision s.rootCauseDecision

def padded (width : Nat) (text : String) : String :=
  text ++ String.ofList (List.replicate (width - text.length) ' ')

def labelWidth (rows : List (Label × String)) : Nat :=
  rows.foldl (fun width row => max width row.1.text.length) 0

/-- The rows as lines, their texts below each other, two blanks behind the longest label. -/
def render (s : Summary) : String :=
  String.join <| s.rows.map fun row =>
    padded (labelWidth s.rows) row.1.text ++ "  " ++ row.2 ++ "\n"

end Summary
end ElementMetadata
