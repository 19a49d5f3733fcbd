import ElementMetadata.Vocabulary

/-!
Process instances, here the ones that a call activity started. No field has to be there.
-/
namespace ElementMetadata

structure ProcessInstance where
  key : Option String
  definitionName : Option String
  definitionId : Option String
  definitionKey : Option String
  parentElementInstanceKey : Option String
  state : Option (Wire ProcessState)
  tenantId : Option String
deriving DecidableEq

namespace ProcessInstance

def fields : List (Field ProcessInstance) :=
  [ .optional "processInstanceKey" .text fun p => p.key.map .string,
    .optional "processDefinitionName" .text fun p => p.definitionName.map .string,
    .optional "processDefinitionId" .text fun p => p.definitionId.map .string,
    .optional "processDefinitionKey" .text fun p => p.definitionKey.map .string,
    .optional "parentElementInstanceKey" .text fun p => p.parentElementInstanceKey.map .string,
    .optional "state" .text fun p => p.state.map Wire.toJson,
    .optional "tenantId" .text fun p => p.tenantId.map .string ]

instance : Codec ProcessInstance where
  form := .record "ProcessInstance" (Field.slots fields)
  ofNormal v :=
    { key := v.text? "processInstanceKey"
      definitionName := v.text? "processDefinitionName"
      definitionId := v.text? "processDefinitionId"
      definitionKey := v.text? "processDefinitionKey"
      parentElementInstanceKey := v.text? "parentElementInstanceKey"
      state := (v.text? "state").map Wire.ofString
      tenantId := v.text? "tenantId" }
  toJson := Field.writeAll fields

end ProcessInstance
end ElementMetadata
