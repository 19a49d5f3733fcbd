import ElementMetadata.Proofs.Resolution

/-!
Sources that are put together by changes. Of the changes of one linked record the last one counts, and
no record has a say in the fields that the metadata take from another.
-/
namespace ElementMetadata

inductive Link where
  | job
  | calledProcess
  | decision
  | userTask
deriving DecidableEq

abbrev Link.Record : Link → Type
  | .job => Job
  | .calledProcess => ProcessInstance
  | .decision => DecisionInstance
  | .userTask => TaskDetails

/-- The metadata differ at most in the fields that come from a linked record. -/
def Metadata.DifferOnlyIn : Link → Metadata → Metadata → Prop
  | .job, m, n => n = { m with
      jobRetries := n.jobRetries
      jobDeadline := n.jobDeadline
      jobKey := n.jobKey
      jobType := n.jobType
      jobWorker := n.jobWorker
      jobCustomHeaders := n.jobCustomHeaders }
  | .calledProcess, m, n => n = { m with
      calledProcessInstanceId := n.calledProcessInstanceId
      calledProcessDefinitionName := n.calledProcessDefinitionName }
  | .decision, m, n => n = { m with
      calledDecisionInstanceId := n.calledDecisionInstanceId
      calledDecisionDefinitionName := n.calledDecisionDefinitionName }
  | .userTask, m, n => n = { m with
      state := n.state
      creationDate := n.creationDate
      completionDate := n.completionDate
      customHeaders := n.customHeaders
      priority := n.priority
      userTaskKey := n.userTaskKey
      dueDate := n.dueDate
      followUpDate := n.followUpDate
      formKey := n.formKey
      assignee := n.assignee
      candidateGroups := n.candidateGroups
      candidateUsers := n.candidateUsers
      externalFormReference := n.externalFormReference }

namespace Sources

def Change.link : Change → Link
  | .job _ => .job
  | .calledProcess _ => .calledProcess
  | .decision _ => .decision
  | .userTask _ => .userTask

/-- What a change makes of a linked record, if it is a change of that record. -/
def Change.sets? : Change → (link : Link) → Option (Option link.Record)
  | .job record, .job => some record
  | .calledProcess record, .calledProcess => some record
  | .decision record, .decision => some record
  | .userTask record, .userTask => some record
  | _, _ => none

/-- What the last change of a record makes of it; without one there is no record. -/
def lastSet (link : Link) (changes : List Change) : Option link.Record :=
  (changes.filterMap (·.sets? link)).getLast?.join

def record? (sources : Sources) : (link : Link) → Option link.Record
  | .job => sources.job
  | .calledProcess => sources.calledProcess
  | .decision => sources.decision
  | .userTask => sources.userTask

variable {sources : Sources} {element : ElementInstance} {link : Link}

theorem ext_record? {s t : Sources} (he : s.element = t.element)
    (hr : ∀ link, s.record? link = t.record? link) : s = t := by
  obtain ⟨element, job, called, decision, task⟩ := s
  obtain rfl : element = t.element := he
  obtain rfl : job = t.job := hr .job
  obtain rfl : called = t.calledProcess := hr .calledProcess
  obtain rfl : decision = t.decision := hr .decision
  obtain rfl : task = t.userTask := hr .userTask
  rfl

@[simp] theorem element_change (c : Change) : (sources.change c).element = sources.element := by
  cases c <;> rfl

theorem record?_change (c : Change) :
    (sources.change c).record? link = (c.sets? link).getD (sources.record? link) := by
  cases c <;> cases link <;> rfl

theorem Change.sets?_eq_none {c : Change} (h : c.link ≠ link) : c.sets? link = none := by
  cases c <;> cases link <;> first | rfl | exact absurd rfl h

theorem change_comm {c d : Change} (h : c.link ≠ d.link) :
    (sources.change c).change d = (sources.change d).change c := by
  refine ext_record? (by simp only [element_change]) fun link => ?_
  simp only [record?_change]
  -- One of the two changes leaves the record of any link as it is.
  by_cases hc : c.link = link
  · have hd : d.sets? link = none := Change.sets?_eq_none fun hd => h (hc.trans hd.symm)
    rw [hd, Option.getD_none, Option.getD_none]
  · rw [Change.sets?_eq_none hc, Option.getD_none, Option.getD_none]

theorem record?_foldl_change (changes : List Change) (sources : Sources) :
    (changes.foldl change sources).record? link =
      (changes.filterMap (·.sets? link)).getLast?.getD (sources.record? link) := by
  induction changes generalizing sources with
  | nil => rfl
  | cons c changes ih =>
    rw [List.foldl_cons, ih, record?_change, List.filterMap_cons]
    cases c.sets? link with
    | none => rfl
    | some record => rw [List.getLast?_cons, Option.getD_some, Option.getD_some]

theorem element_foldl_change (changes : List Change) (sources : Sources) :
    (changes.foldl change sources).element = sources.element := by
  induction changes generalizing sources with
  | nil => rfl
  | cons c changes ih => rw [List.foldl_cons, ih, element_change]

@[simp] theorem element_ofChanges (changes : List Change) :
    (ofChanges element changes).element = element := element_foldl_change changes _

@[simp] theorem record?_ofChanges (changes : List Change) :
    (ofChanges element changes).record? link = lastSet link changes := by
  have hnone : ({ element } : Sources).record? link = none := by cases link <;> rfl
  rw [ofChanges, record?_foldl_change, hnone, lastSet]
  cases (changes.filterMap (·.sets? link)).getLast? <;> rfl

theorem ofChanges_eq (changes : List Change) : ofChanges element changes =
    { element
      job := lastSet .job changes
      calledProcess := lastSet .calledProcess changes
      decision := lastSet .decision changes
      userTask := lastSet .userTask changes } := by
  refine ext_record? (element_ofChanges changes) fun link => ?_
  rw [record?_ofChanges]
  cases link <;> rfl

theorem ofChanges_swap {before after : List Change} {c d : Change} (h : c.link ≠ d.link) :
    ofChanges element (before ++ c :: d :: after) =
      ofChanges element (before ++ d :: c :: after) := by
  simp only [ofChanges, List.foldl_append, List.foldl_cons, change_comm h]

theorem differOnlyIn_metadata {s t : Sources} (he : s.element = t.element)
    (hr : ∀ other, other ≠ link → s.record? other = t.record? other) :
    Metadata.DifferOnlyIn link s.metadata.value t.metadata.value := by
  obtain ⟨element, job, called, decision, task⟩ := s
  obtain rfl : element = t.element := he
  cases link with
  | job =>
    obtain rfl : called = t.calledProcess := hr .calledProcess (by decide)
    obtain rfl : decision = t.decision := hr .decision (by decide)
    obtain rfl : task = t.userTask := hr .userTask (by decide)
    rfl
  | calledProcess =>
    obtain rfl : job = t.job := hr .job (by decide)
    obtain rfl : decision = t.decision := hr .decision (by decide)
    obtain rfl : task = t.userTask := hr .userTask (by decide)
    rfl
  | decision =>
    obtain rfl : job = t.job := hr .job (by decide)
    obtain rfl : called = t.calledProcess := hr .calledProcess (by decide)
    obtain rfl : task = t.userTask := hr .userTask (by decide)
    rfl
  | userTask =>
    obtain rfl : job = t.job := hr .job (by decide)
    obtain rfl : called = t.calledProcess := hr .calledProcess (by decide)
    obtain rfl : decision = t.decision := hr .decision (by decide)
    rfl

theorem state_metadata_eq_userTask_iff {state : Wire UserTaskState} :
    sources.metadata.value.state = .userTask state ↔
      ∃ task, sources.userTask = some task ∧ task.state = some state := by
  rw [metadata, merge]
  cases sources.userTask with
  | none => simp
  | some task => cases htask : task.state <;> simp [htask]

theorem state_metadata_eq_element_iff {state : Wire ElementState} :
    sources.metadata.value.state = .element state ↔
      (∀ task, sources.userTask = some task → task.state = none) ∧
        state = sources.element.state := by
  rw [metadata, merge]
  cases sources.userTask with
  | none => simp [eq_comm]
  | some task => cases htask : task.state <;> simp [htask, eq_comm]

/-- Of any run of changes the last change of each record counts: the metadata are those of the records
that are set last, and changes of two records may change places. A run is reported once, with a warning,
if it leaves both a job and a user task. Runs that leave the same records but for one have the same
metadata but for the fields of that one, and the state is that of a user task only if there is one with
a state. -/
theorem metadata_ofChanges (element : ElementInstance) :
    (∀ run, (ofChanges element run).metadata =
      Metadata.build element (lastSet .job run) (lastSet .calledProcess run)
        (lastSet .decision run) (lastSet .userTask run)) ∧
    (∀ before c d after, c.link ≠ d.link →
      ofChanges element (before ++ c :: d :: after) =
        ofChanges element (before ++ d :: c :: after)) ∧
    (∀ run, (ofChanges element run).metadata.events.map (fun e => (e.level, e.fields)) =
      if (lastSet .job run).isSome ∧ (lastSet .userTask run).isSome then
        [(.warn, [("element_instance_key", element.key)])]
      else []) ∧
    (∀ link run run', (∀ other, other ≠ link → lastSet other run = lastSet other run') →
      Metadata.DifferOnlyIn link (ofChanges element run).metadata.value
        (ofChanges element run').metadata.value) ∧
    (∀ run state, (ofChanges element run).metadata.value.state = .userTask state ↔
      ∃ task, lastSet .userTask run = some task ∧ task.state = some state) ∧
    (∀ run state, (ofChanges element run).metadata.value.state = .element state ↔
      (∀ task, lastSet .userTask run = some task → task.state = none) ∧
        state = element.state) := by
  refine ⟨fun run => ?build, fun _ _ _ _ => ofChanges_swap, fun run => ?events,
    fun link run run' hsame => ?frame, fun run state => ?task, fun run state => ?element⟩
  case build => rw [ofChanges_eq, Metadata.build]
  case events =>
    rw [ofChanges_eq, metadata]
    cases lastSet .job run <;> cases lastSet .userTask run <;> rfl
  case frame =>
    refine differOnlyIn_metadata (by simp only [element_ofChanges]) fun other hother => ?_
    rw [record?_ofChanges, record?_ofChanges, hsame other hother]
  case task => rw [state_metadata_eq_userTask_iff, ofChanges_eq]
  case element => rw [state_metadata_eq_element_iff, ofChanges_eq]

def review : ElementInstance :=
  { key := "7", elementId := "review", elementName := none, type := .listed .userTask
    state := .listed .active, startDate := none, endDate := none, processDefinitionId := none
    processInstanceKey := none, processDefinitionKey := none, hasIncident := false
    incidentKey := none, tenantId := none }

def jobOf (worker : String) : Job :=
  { key := none, retries := none, deadline := none, type := none, worker := some worker
    customHeaders := none, elementInstanceKey := none }

def reassigned : List Change :=
  [ .job (some (jobOf "first")), .userTask (some { state := some (.listed .created) }), .job none,
    .calledProcess none, .job (some (jobOf "second")) ]

def unassigned : List Change :=
  [.userTask none, .userTask (some { state := some (.listed .created) })]

theorem metadata_of_reassigned :
    (ofChanges review reassigned).metadata.value.jobWorker = some "second" ∧
    (ofChanges review reassigned).metadata.value.state = .userTask (.listed .created) ∧
    (ofChanges review reassigned).metadata.events = [.jobAndTask "7"] ∧
    (∀ other, other ≠ .job → lastSet other reassigned = lastSet other unassigned) ∧
    Metadata.DifferOnlyIn .job (ofChanges review reassigned).metadata.value
      (ofChanges review unassigned).metadata.value := by
  have hsame (other : Link) (hother : other ≠ .job) :
      lastSet other reassigned = lastSet other unassigned := by
    cases other with
    | job => exact absurd rfl hother
    | _ => rfl
  obtain ⟨-, -, -, hframe, htask, -⟩ := metadata_ofChanges review
  exact ⟨rfl, (htask _ _).2 ⟨_, rfl, rfl⟩, rfl, hsame, hframe .job _ _ hsame⟩

end Sources
end ElementMetadata
