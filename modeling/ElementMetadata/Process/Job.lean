import ElementMetadata.Record.Table

/-!
Jobs: the work behind a service task and its like. No field has to be there.
-/
namespace ElementMetadata

structure Job where
  key : Option String
  retries : Option Int64
  deadline : Option String
  type : Option String
  worker : Option String
  customHeaders : Option Members
  elementInstanceKey : Option String
deriving BEq

namespace Job

def fields : List (Field Job) :=
  [ .optional "jobKey" .text fun j => j.key.map .string,
    .nullable "retries" (.integer .signed64) fun j => j.retries.map fun n => .integer (.ofInt64 n),
    .optional "deadline" .text fun j => j.deadline.map .string,
    .optional "type" .text fun j => j.type.map .string,
    .optional "worker" .text fun j => j.worker.map .string,
    .optional "customHeaders" (.map .any) fun j => j.customHeaders.map .object,
    .optional "elementInstanceKey" .text fun j => j.elementInstanceKey.map .string ]

instance : Codec Job where
  form := .record "Job" (Field.slots fields)
  ofNormal v :=
    { key := v.text? "jobKey"
      retries := (v.integer? "retries").map Int64.ofInt
      deadline := v.text? "deadline"
      type := v.text? "type"
      worker := v.text? "worker"
      customHeaders := v.members? "customHeaders"
      elementInstanceKey := v.text? "elementInstanceKey" }
  toJson := Field.writeAll fields

end Job
end ElementMetadata
