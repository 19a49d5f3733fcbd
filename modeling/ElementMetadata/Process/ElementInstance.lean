import ElementMetadata.Vocabulary

/-!
Element instances: runs of a node in a process diagram.
-/
namespace ElementMetadata

structure ElementInstance where
  key : String
  elementId : String
  elementName : Option String
  type : Wire ElementType
  state : Wire ElementState
  /-- Absent or empty as long as the element has not started. -/
  startDate : Option String
  /-- Absent or empty as long as the element has not ended. -/
  endDate : Option String
  processDefinitionId : Option String
  processInstanceKey : Option String
  processDefinitionKey : Option String
  hasIncident : Bool
  incidentKey : Option String
  tenantId : Option String
deriving DecidableEq

namespace ElementInstance

def fields : List (Field ElementInstance) :=
  [ .required "elementInstanceKey" .text fun e => .string e.key,
    .required "elementId" .text fun e => .string e.elementId,
    .optional "elementName" .text fun e => e.elementName.map .string,
    .required "type" .text fun e => e.type.toJson,
    .required "state" .text fun e => e.state.toJson,
    .optional "startDate" .text fun e => e.startDate.map .string,
    .nullable "endDate" .text fun e => e.endDate.map .string,
    .optional "processDefinitionId" .text fun e => e.processDefinitionId.map .string,
    .optional "processInstanceKey" .text fun e => e.processInstanceKey.map .string,
    .optional "processDefinitionKey" .text fun e => e.processDefinitionKey.map .string,
    .defaulted "hasIncident" .boolean fun e => .bool e.hasIncident,
    .optional "incidentKey" .text fun e => e.incidentKey.map .string,
    .optional "tenantId" .text fun e => e.tenantId.map .string ]

instance : Codec ElementInstance where
  form := .record "ElementInstance" (Field.slots fields)
  ofNormal v :=
    { key := (v.text? "elementInstanceKey").getD ""
      elementId := (v.text? "elementId").getD ""
      elementName := v.text? "elementName"
      type := .ofString ((v.text? "type").getD "")
      state := .ofString ((v.text? "state").getD "")
      startDate := v.text? "startDate"
      endDate := v.text? "endDate"
      processDefinitionId := v.text? "processDefinitionId"
      processInstanceKey := v.text? "processInstanceKey"
      processDefinitionKey := v.text? "processDefinitionKey"
      hasIncident := (v.flag? "hasIncident").getD false
      incidentKey := v.text? "incidentKey"
      tenantId := v.text? "tenantId" }
  toJson := Field.writeAll fields

end ElementInstance
end ElementMetadata
