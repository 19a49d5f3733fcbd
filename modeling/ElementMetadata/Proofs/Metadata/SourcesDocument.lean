import ElementMetadata.Metadata
import ElementMetadata.Proofs.Document
import ElementMetadata.Proofs.Process.Records

/-!
What the metadata of a sources document are in JSON, computed from the document itself.
-/
namespace ElementMetadata
open Document

namespace Metadata

def orNull (v : Option Json) : Option Json := some (v.getD .null)

def isEmptyText : Json → Bool
  | .string s => s.isEmpty
  | _ => false

/-- What stands at each key of the metadata of a document, if anything, in the order of the keys. -/
def origins (doc : Json) : List (String × Option Json) :=
  [ ("calledProcessInstanceId",
      orNull (inRecord? doc "calledProcessInstance" "processInstanceKey")),
    ("calledProcessDefinitionName",
      orNull (inRecord? doc "calledProcessInstance" "processDefinitionName")),
    ("calledDecisionInstanceId",
      orNull (inRecord? doc "decisionInstance" "decisionEvaluationInstanceKey")),
    ("calledDecisionDefinitionName",
      orNull (inRecord? doc "decisionInstance" "decisionDefinitionName")),
    ("jobRetries", orNull (inRecord? doc "job" "retries")),
    ("jobDeadline", orNull (inRecord? doc "job" "deadline")),
    ("jobKey", orNull (inRecord? doc "job" "jobKey")),
    ("jobType", orNull (inRecord? doc "job" "type")),
    ("jobWorker", orNull (inRecord? doc "job" "worker")),
    ("jobCustomHeaders", orNull (inRecord? doc "job" "customHeaders")),
    ("elementInstanceKey", inRecord? doc "elementInstance" "elementInstanceKey"),
    ("elementId", inRecord? doc "elementInstance" "elementId"),
    ("elementName", inRecord? doc "elementInstance" "elementName"),
    ("type", inRecord? doc "elementInstance" "type"),
    ("state", (inRecord? doc "userTask" "state").or (inRecord? doc "elementInstance" "state")),
    ("startDate", (inRecord? doc "elementInstance" "startDate").or (some (.string ""))),
    ("endDate", orNull ((inRecord? doc "elementInstance" "endDate").filter (!isEmptyText ·))),
    ("processDefinitionId", inRecord? doc "elementInstance" "processDefinitionId"),
    ("processInstanceKey", inRecord? doc "elementInstance" "processInstanceKey"),
    ("processDefinitionKey", inRecord? doc "elementInstance" "processDefinitionKey"),
    ("hasIncident", (inRecord? doc "elementInstance" "hasIncident").or (some (.bool false))),
    ("incidentKey", inRecord? doc "elementInstance" "incidentKey"),
    ("tenantId", inRecord? doc "elementInstance" "tenantId"),
    ("creationDate", inRecord? doc "userTask" "creationDate"),
    ("completionDate", inRecord? doc "userTask" "completionDate"),
    ("customHeaders", inRecord? doc "userTask" "customHeaders"),
    ("priority", inRecord? doc "userTask" "priority"),
    ("userTaskKey", inRecord? doc "userTask" "userTaskKey"),
    ("dueDate", inRecord? doc "userTask" "dueDate"),
    ("followUpDate", inRecord? doc "userTask" "followUpDate"),
    ("formKey", inRecord? doc "userTask" "formKey"),
    ("assignee", inRecord? doc "userTask" "assignee"),
    ("candidateGroups", inRecord? doc "userTask" "candidateGroups"),
    ("candidateUsers", inRecord? doc "userTask" "candidateUsers"),
    ("externalFormReference", inRecord? doc "userTask" "externalFormReference") ]

def described (doc : Json) : Json :=
  .object ((origins doc).filterMap fun origin => origin.2.map (origin.1, ·))

theorem inRecord?_job {doc : Json} {o : Option Job} (h : ReadsIfAny (at? doc "job") o)
    (ho : ObjectAt doc "job") :
    inRecord? doc "job" "retries" = (o.bind (·.retries)).map (fun n => .integer (.ofInt64 n)) ∧
      inRecord? doc "job" "deadline" = (o.bind (·.deadline)).map .string ∧
      inRecord? doc "job" "jobKey" = (o.bind (·.key)).map .string ∧
      inRecord? doc "job" "type" = (o.bind (·.type)).map .string ∧
      inRecord? doc "job" "worker" = (o.bind (·.worker)).map .string ∧
      inRecord? doc "job" "customHeaders" = (o.bind (·.customHeaders)).map .object := by
  have hf := inRecord?_of_readsIfAny h ho (by simp [Plain.blank])
  simp only [Tabular.fields, Job.fields, List.forall_mem_cons, Field.bind_value?_optional Cell.text,
    Field.bind_value?_nullable Cell.signed64, Field.bind_value?_optional Cell.members,
    Field.optional_column, Field.nullable_column, Column.omitted_key, Column.nullable_key] at hf
  obtain ⟨hkey, hretries, hdeadline, htype, hworker, hheaders, -, -⟩ := hf
  exact ⟨hretries.symm, hdeadline.symm, hkey.symm, htype.symm, hworker.symm, hheaders.symm⟩

theorem inRecord?_calledProcess {doc : Json} {o : Option ProcessInstance}
    (h : ReadsIfAny (at? doc "calledProcessInstance") o)
    (ho : ObjectAt doc "calledProcessInstance") :
    inRecord? doc "calledProcessInstance" "processInstanceKey" = (o.bind (·.key)).map .string ∧
      inRecord? doc "calledProcessInstance" "processDefinitionName" =
        (o.bind (·.definitionName)).map .string := by
  have hf := inRecord?_of_readsIfAny h ho (by simp [Plain.blank])
  simp only [Tabular.fields, ProcessInstance.fields, List.forall_mem_cons,
    Field.bind_value?_optional Cell.text, Field.optional_column, Column.omitted_key] at hf
  exact ⟨hf.1.symm, hf.2.1.symm⟩

theorem inRecord?_decision {doc : Json} {o : Option DecisionInstance}
    (h : ReadsIfAny (at? doc "decisionInstance") o) (ho : ObjectAt doc "decisionInstance") :
    inRecord? doc "decisionInstance" "decisionEvaluationInstanceKey" =
        (o.bind (·.key)).map .string ∧
      inRecord? doc "decisionInstance" "decisionDefinitionName" =
        (o.bind (·.definitionName)).map .string := by
  have hf := inRecord?_of_readsIfAny h ho (by simp [Plain.blank])
  simp only [Tabular.fields, DecisionInstance.fields, List.forall_mem_cons,
    Field.bind_value?_optional Cell.text, Field.optional_column, Column.omitted_key] at hf
  exact ⟨hf.1.symm, hf.2.2.1.symm⟩

theorem inRecord?_userTask {doc : Json} {o : Option TaskDetails}
    (h : ReadsIfAny (at? doc "userTask") o) (ho : ObjectAt doc "userTask") :
    inRecord? doc "userTask" "dueDate" = (o.bind (·.dueDate)).map .string ∧
      inRecord? doc "userTask" "followUpDate" = (o.bind (·.followUpDate)).map .string ∧
      inRecord? doc "userTask" "formKey" = (o.bind (·.formKey)).map .string ∧
      inRecord? doc "userTask" "assignee" = (o.bind (·.assignee)).map .string ∧
      inRecord? doc "userTask" "userTaskKey" = (o.bind (·.key)).map .string ∧
      inRecord? doc "userTask" "candidateGroups" = (o.bind (·.candidateGroups)).map .ofTexts ∧
      inRecord? doc "userTask" "candidateUsers" = (o.bind (·.candidateUsers)).map .ofTexts ∧
      inRecord? doc "userTask" "state" = (o.bind (·.state)).map Wire.toJson ∧
      inRecord? doc "userTask" "externalFormReference" =
        (o.bind (·.externalFormReference)).map .string ∧
      inRecord? doc "userTask" "creationDate" = (o.bind (·.creationDate)).map .string ∧
      inRecord? doc "userTask" "completionDate" = (o.bind (·.completionDate)).map .string ∧
      inRecord? doc "userTask" "customHeaders" = (o.bind (·.customHeaders)).map .ofLabels ∧
      inRecord? doc "userTask" "priority" =
        (o.bind (·.priority)).map (fun n => .integer (.ofInt32 n)) := by
  have hf := inRecord?_of_readsIfAny h ho (by simp [Plain.blank])
  simp only [Tabular.fields, TaskDetails.fields, List.forall_mem_cons,
    Field.bind_value?_optional Cell.text, Field.bind_value?_optional Cell.texts,
    Field.bind_value?_optional Cell.word, Field.bind_value?_optional Cell.labels,
    Field.bind_value?_optional Cell.signed32, Field.optional_column, Column.omitted_key] at hf
  simpa [eq_comm] using hf

theorem inRecord?_element {doc v : Json} {e : ElementInstance}
    (hv : at? doc "elementInstance" = some v) (h : Codec.read v = .ok e)
    (ho : ObjectAt doc "elementInstance") :
    inRecord? doc "elementInstance" "elementInstanceKey" = some (.string e.key) ∧
      inRecord? doc "elementInstance" "elementId" = some (.string e.elementId) ∧
      inRecord? doc "elementInstance" "elementName" = e.elementName.map .string ∧
      inRecord? doc "elementInstance" "type" = some e.type.toJson ∧
      inRecord? doc "elementInstance" "state" = some e.state.toJson ∧
      inRecord? doc "elementInstance" "startDate" = e.startDate.map .string ∧
      inRecord? doc "elementInstance" "endDate" = e.endDate.map .string ∧
      inRecord? doc "elementInstance" "processDefinitionId" = e.processDefinitionId.map .string ∧
      inRecord? doc "elementInstance" "processInstanceKey" = e.processInstanceKey.map .string ∧
      inRecord? doc "elementInstance" "processDefinitionKey" = e.processDefinitionKey.map .string ∧
      (inRecord? doc "elementInstance" "hasIncident").or (some (.bool false)) =
        some (.bool e.hasIncident) ∧
      inRecord? doc "elementInstance" "incidentKey" = e.incidentKey.map .string ∧
      inRecord? doc "elementInstance" "tenantId" = e.tenantId.map .string := by
  have hf := inRecord?_of_reads hv h ho
  have hblank (key : String) (hkey : key ≠ "hasIncident") :
      ((Plain.blank ElementInstance).lookup key).filter (!·.isNull) = none := by
    simp only [Plain.blank, Json.lookup_cons_ite, if_neg hkey, List.lookup_nil]
    split <;> rfl
  have hflag : ((Plain.blank ElementInstance).lookup "hasIncident").filter (!·.isNull) =
      some (.bool false) := rfl
  simp only [Tabular.fields, ElementInstance.fields, List.forall_mem_cons,
    Field.value?_required Cell.text, Field.value?_required Cell.word,
    Field.value?_optional Cell.text, Field.value?_nullable Cell.text,
    Field.value?_defaulted Cell.boolean, Field.required_column, Field.optional_column,
    Field.nullable_column, Field.defaulted_column, Column.omitted_key, Column.always_key,
    Column.nullable_key, hflag] at hf
  simpa [hblank, eq_comm] using hf

theorem text_state (task : Option TaskDetails) (state : Wire ElementState) :
    some (Json.string (((task.getD {}).state.elim (.element state) .userTask : ShownState).text)) =
      ((task.bind (·.state)).map Wire.toJson).or (some state.toJson) := by
  cases task with
  | none => rfl
  | some t =>
    cases ht : t.state with
    | none => simp [ht, ShownState.text, Wire.toJson]
    | some w => simp [ht, ShownState.text, Wire.toJson]

theorem text_startDate (date : Option String) :
    some (Json.string ((nonEmptyDate date).getD "")) =
      (date.map .string).or (some (.string "")) := by
  cases date with
  | none => rfl
  | some s => by_cases hs : s = "" <;> simp [nonEmptyDate, Option.filter, hs]

theorem orNull_endDate (date : Option String) :
    some (Json.ofOption ((nonEmptyDate date).map .string)) =
      orNull ((date.map .string).filter (!isEmptyText ·)) := by
  cases date with
  | none => rfl
  | some s =>
    by_cases hs : s = "" <;>
      simp [nonEmptyDate, Option.filter, hs, isEmptyText, orNull, Json.ofOption]

def RecordsAreObjects (doc : Json) : Prop :=
  ∀ record ∈ ["elementInstance", "job", "calledProcessInstance", "decisionInstance", "userTask"],
    ObjectAt doc record

/-- The metadata of a document are in JSON what the document itself says they are: the linked keys
always there, an empty date taken as none, falsy values kept. -/
theorem toJson_of_sources_document {doc : Json} {m : Logged Event Metadata}
    (ho : RecordsAreObjects doc) (h : ofSourcesDocument doc = .ok m) :
    m.value.toJson = described doc := by
  obtain ⟨sources, hs, rfl⟩ := map_eq_ok_iff.1 h
  obtain ⟨-, ⟨v, hv, he⟩, hj, hc, hd, ht⟩ := Sources.ofJson_eq_ok_iff.1 hs
  simp only [RecordsAreObjects, List.forall_mem_cons] at ho
  obtain ⟨hoe, hoj, hoc, hod, hot, -⟩ := ho
  have helement := inRecord?_element hv he hoe
  have hjob := inRecord?_job hj hoj
  have hcalled := inRecord?_calledProcess hc hoc
  have hdecision := inRecord?_decision hd hod
  have htask := inRecord?_userTask ht hot
  have hrows : columns.map (fun c => (c.key, c.write sources.metadata.value)) = origins doc := by
    simp only [columns, origins, List.map_cons, List.map_nil, Column.nullable_key,
      Column.omitted_key, Column.always_key, Column.nullable_write, Column.omitted_write,
      Column.always_write, Sources.metadata, Sources.merge, text_state, text_startDate,
      orNull_endDate, helement, hjob, hcalled, hdecision, htask]
    cases sources.userTask <;> rfl
  rw [toJson, Column.writeAll, described, ← hrows, List.filterMap_map]
  rfl

def pausedTask : Json := .object
  [ ("elementInstance", .object
      [ ("elementInstanceKey", .string "7"), ("elementId", .string "review"),
        ("type", .string "USER_TASK"), ("state", .string "PAUSED"), ("endDate", .string "") ]),
    ("job", .object
      [ ("retries", .integer (.ofInt64 0)), ("type", .string ""), ("customHeaders", .object []) ]),
    ("decisionInstance", .null),
    ("userTask", .object [ ("assignee", .string "ada") ]) ]

theorem toJson_of_paused_task : ∃ m, ofSourcesDocument pausedTask = .ok m ∧
    m.value.toJson = .object
      [ ("calledProcessInstanceId", .null), ("calledProcessDefinitionName", .null),
        ("calledDecisionInstanceId", .null), ("calledDecisionDefinitionName", .null),
        ("jobRetries", .integer (.ofInt64 0)), ("jobDeadline", .null), ("jobKey", .null),
        ("jobType", .string ""), ("jobWorker", .null), ("jobCustomHeaders", .object []),
        ("elementInstanceKey", .string "7"), ("elementId", .string "review"),
        ("type", .string "USER_TASK"), ("state", .string "PAUSED"), ("startDate", .string ""),
        ("endDate", .null), ("hasIncident", .bool false), ("assignee", .string "ada") ] := by
  have ho : RecordsAreObjects pausedTask := by
    simp [RecordsAreObjects, ObjectAt, pausedTask, at?, Json.member?, Json.lookup_cons_ite,
      Json.isNull]
  have h := toJson_of_sources_document ho rfl
  exact ⟨_, rfl, h.trans rfl⟩

end Metadata
end ElementMetadata
