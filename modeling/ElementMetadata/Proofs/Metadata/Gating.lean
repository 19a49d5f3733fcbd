import ElementMetadata.Proofs.Metadata.PagesDocument
import ElementMetadata.Proofs.Summary

/-!
What an element's type lets into its metadata. A document of pages may hold records of every kind that
are linked to its element; those that its type has no place for are neither in the metadata nor in the
rows of the summary.
-/
namespace ElementMetadata
open Document WellFormed

namespace LinkedPages
variable {pages : LinkedPages}

theorem calledProcess_resolve (h : ElementType.linksCalledProcess pages.element.type = false) :
    pages.resolve.value.calledProcess = none := by
  rw [resolve_value, h]
  rfl

theorem decision_resolve (h : ElementType.linksDecision pages.element.type = false) :
    pages.resolve.value.decision = none := by
  rw [resolve_value, h]
  rfl

theorem userTask_resolve (h : ElementType.linksUserTask pages.element.type = false) :
    pages.resolve.value.userTask = none := by
  rw [resolve_value, h]
  rfl

end LinkedPages

namespace Metadata

structure WithoutTask (m : Metadata) : Prop where
  creationDate : m.creationDate = none
  completionDate : m.completionDate = none
  customHeaders : m.customHeaders = none
  priority : m.priority = none
  userTaskKey : m.userTaskKey = none
  dueDate : m.dueDate = none
  followUpDate : m.followUpDate = none
  formKey : m.formKey = none
  assignee : m.assignee = none
  candidateGroups : m.candidateGroups = none
  candidateUsers : m.candidateUsers = none
  externalFormReference : m.externalFormReference = none

/-- What the type of an element, in words, lets into the metadata of the element. -/
structure Gated (type : String) (element : ElementInstance) (m : Logged Event Metadata) : Prop where
  calledProcess : type ≠ "CALL_ACTIVITY" →
    m.value.calledProcessInstanceId = none ∧ m.value.calledProcessDefinitionName = none
  calledDecision : type ≠ "BUSINESS_RULE_TASK" →
    m.value.calledDecisionInstanceId = none ∧ m.value.calledDecisionDefinitionName = none
  userTask : type ≠ "USER_TASK" →
    m.value.WithoutTask ∧ m.value.state = .element element.state
  jobAndTask : ∀ event ∈ m.events, event.level = .warn → type = "USER_TASK"

theorem gated_resolve {pages : LinkedPages} (hp : pages.element.type.Proper) :
    Gated pages.element.type.toString pages.element
      (do (← pages.resolve).metadata : Logged Event Metadata) := by
  have hgate (word : ElementType) (hne : pages.element.type.toString ≠ Vocabulary.wire word) :
      decide (pages.element.type = .listed word) = false := by
    rw [decide_eq_false_iff_not]
    exact fun heq => hne ((toString_eq_wire_iff hp word).2 (decide_eq_true heq))
  constructor
  case calledProcess =>
    intro hne
    have hnone := LinkedPages.calledProcess_resolve (hgate .callActivity hne)
    simp [Sources.metadata, Sources.merge, hnone]
  case calledDecision =>
    intro hne
    have hnone := LinkedPages.decision_resolve (hgate .businessRuleTask hne)
    simp [Sources.metadata, Sources.merge, hnone]
  case userTask =>
    intro hne
    have hnone := LinkedPages.userTask_resolve (hgate .userTask hne)
    have hvalue : ((do (← pages.resolve).metadata : Logged Event Metadata)).value =
        pages.resolve.value.merge {} := by
      rw [Logged.bind_value, Sources.metadata, hnone]
      rfl
    rw [hvalue]
    exact ⟨⟨rfl, rfl, rfl, rfl, rfl, rfl, rfl, rfl, rfl, rfl, rfl, rfl⟩, rfl⟩
  case jobAndTask =>
    intro event hevent hwarn
    by_contra hne
    have hnone := LinkedPages.userTask_resolve (hgate .userTask hne)
    rw [Logged.bind_events, List.mem_append] at hevent
    obtain hevent | hevent := hevent
    · rw [LinkedPages.level_of_mem_resolve hevent] at hwarn
      cases hwarn
    · simp [Sources.metadata, hnone] at hevent

section Rows
variable {type : String} {element : ElementInstance} {m : Logged Event Metadata} {text : String}
  {now : Timestamp} {suffix : String}

theorem Gated.type_of_calledProcess (h : Gated type element m)
    (hrow : (.calledProcess, text) ∈ (Summary.ofMetadata m.value now suffix).value.rows) :
    type = "CALL_ACTIVITY" := by
  by_contra hne
  have htext := Summary.mem_rows_iff.1 hrow
  have hnone : (Summary.ofMetadata m.value now suffix).value.calledProcess = none :=
    Summary.linkLabel_eq_none_iff.2 (h.calledProcess hne).1
  rw [Summary.text?, hnone] at htext
  cases htext

theorem Gated.type_of_calledDecision (h : Gated type element m)
    (hrow : (.calledDecision, text) ∈ (Summary.ofMetadata m.value now suffix).value.rows) :
    type = "BUSINESS_RULE_TASK" := by
  by_contra hne
  have htext := Summary.mem_rows_iff.1 hrow
  have hnone : (Summary.ofMetadata m.value now suffix).value.calledDecision = none :=
    Summary.linkLabel_eq_none_iff.2 (h.calledDecision hne).1
  rw [Summary.text?, hnone] at htext
  cases htext

end Rows

/-- A document of pages has the metadata of its element's type only, whatever its pages hold: a called
process only for a call activity, a called decision only for a business rule task, and the fields and
the state of a user task, or a warning about one, only for a user task. So the summary never names a
process and a decision, and it names a root cause only beside the same called decision, for a business
rule task with an incident. -/
theorem type_gates_links {doc : Json} {m : Logged Event Metadata} (h : ofPagesDocument doc = .ok m) :
    ∃ raw element, at? doc "elementInstance" = some raw ∧ Codec.read raw = .ok element ∧
      m.value.type = element.type ∧
      Gated element.type.toString element m ∧
      ∀ now suffix,
        let rows := (Summary.ofMetadata m.value now suffix).value.rows
        ¬ ((∃ text, (.calledProcess, text) ∈ rows) ∧ ∃ text, (.calledDecision, text) ∈ rows) ∧
        ∀ text, (.rootCauseDecision, text) ∈ rows →
          element.type.toString = "BUSINESS_RULE_TASK" ∧ element.hasIncident = true ∧
            (.calledDecision, text) ∈ rows := by
  obtain ⟨pages, hpages, rfl⟩ := map_eq_ok_iff.1 h
  obtain ⟨-, ⟨raw, hraw, hread⟩, -⟩ := LinkedPages.ofJson_eq_ok_iff.1 hpages
  have hproper : Proper pages.element := Plain.proper_of_read hread
  have hgated : Gated pages.element.type.toString pages.element _ := gated_resolve hproper.1
  refine ⟨raw, pages.element, hraw, hread, rfl, hgated, fun now suffix => ⟨?_, fun text hrow => ?_⟩⟩
  · rintro ⟨⟨_, hprocess⟩, _, hdecision⟩
    have hactivity := hgated.type_of_calledProcess hprocess
    have htask := hgated.type_of_calledDecision hdecision
    exact absurd (hactivity.symm.trans htask) (by decide)
  · have hcause := Summary.mem_rows_iff.1 hrow
    obtain ⟨hdecision, hincident⟩ := Summary.rootCauseDecision_eq_some_iff.1 hcause
    have hrow : (.calledDecision, text) ∈ (Summary.ofMetadata _ now suffix).value.rows :=
      Summary.mem_rows_iff.2 hdecision
    exact ⟨hgated.type_of_calledDecision hrow, hincident, hrow⟩

def rulePages : Json := .object
  [ ("elementInstance", .object
      [ ("elementInstanceKey", .string "7"), ("elementId", .string "rate"),
        ("hasIncident", .bool true), ("state", .string "ACTIVE"),
        ("type", .string "BUSINESS_RULE_TASK") ]),
    ("decisionInstances", .object
      [ ("items", .array
          [ .object
              [ ("decisionDefinitionName", .string "Rating"),
                ("decisionEvaluationInstanceKey", .string "12"),
                ("elementInstanceKey", .string "7") ] ]) ]),
    ("jobs", .object
      [ ("items", .array [ .object [ ("elementInstanceKey", .string "7") ] ]) ]),
    ("processInstances", .object
      [ ("items", .array
          [ .object
              [ ("parentElementInstanceKey", .string "7"),
                ("processInstanceKey", .string "8") ] ]) ]),
    ("userTasks", .object
      [ ("items", .array
          [ .object
              [ ("assignee", .string "ada"), ("elementInstanceKey", .string "7"),
                ("state", .string "CREATED") ] ]) ]) ]

theorem rule_task_names_its_decision_only : ∃ m, ofPagesDocument rulePages = .ok m ∧
    m.value.calledProcessInstanceId = none ∧ m.value.WithoutTask ∧
    m.value.state = .element (.listed .active) ∧ m.events = [] ∧
    ∀ now suffix, (Summary.ofMetadata m.value now suffix).value.rows =
      [ (.elementKey, "7"), (.calledDecision, "Rating - 12"), (.incident, "yes"),
        (.rootCauseDecision, "Rating - 12") ] := by
  have h : ofPagesDocument rulePages = .ok _ := rfl
  obtain ⟨raw, element, -, -, htype, hgated, -⟩ := type_gates_links h
  rw [← htype] at hgated
  exact ⟨_, h, (hgated.calledProcess (by decide)).1, (hgated.userTask (by decide)).1, rfl, rfl,
    fun _ _ => rfl⟩

end Metadata
end ElementMetadata
