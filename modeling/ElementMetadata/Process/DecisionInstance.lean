import ElementMetadata.Vocabulary

/-!
Decision instances: evaluations of a decision by a business rule task. No field has to be there.
-/
namespace ElementMetadata

structure DecisionInstance where
  /-- Empty if the decision was never evaluated. -/
  key : Option String
  evaluationKey : Option String
  definitionName : Option String
  definitionId : Option String
  elementInstanceKey : Option String
  state : Option (Wire DecisionState)
  evaluationDate : Option String
  evaluationFailure : Option String
deriving DecidableEq

namespace DecisionInstance

def fields : List (Field DecisionInstance) :=
  [ .optional "decisionEvaluationInstanceKey" .text fun d => d.key.map .string,
    .optional "decisionEvaluationKey" .text fun d => d.evaluationKey.map .string,
    .optional "decisionDefinitionName" .text fun d => d.definitionName.map .string,
    .optional "decisionDefinitionId" .text fun d => d.definitionId.map .string,
    .optional "elementInstanceKey" .text fun d => d.elementInstanceKey.map .string,
    .optional "state" .text fun d => d.state.map Wire.toJson,
    .optional "evaluationDate" .text fun d => d.evaluationDate.map .string,
    .optional "evaluationFailure" .text fun d => d.evaluationFailure.map .string ]

instance : Codec DecisionInstance where
  form := .record "DecisionInstance" (Field.slots fields)
  ofNormal v :=
    { key := v.text? "decisionEvaluationInstanceKey"
      evaluationKey := v.text? "decisionEvaluationKey"
      definitionName := v.text? "decisionDefinitionName"
      definitionId := v.text? "decisionDefinitionId"
      elementInstanceKey := v.text? "elementInstanceKey"
      state := (v.text? "state").map Wire.ofString
      evaluationDate := v.text? "evaluationDate"
      evaluationFailure := v.text? "evaluationFailure" }
  toJson := Field.writeAll fields

end DecisionInstance
end ElementMetadata
