import ElementMetadata.Proofs.Resolution

/-!
What resolution picks and what it reports: of each page that is searched the first linked item, and
one event if there are more. Which pages are searched depends on the element's type alone.
-/
namespace ElementMetadata

def FirstWith {α : Type} (p : α → Prop) (items : List α) : Option α → Prop
  | none => ∀ item ∈ items, ¬ p item
  | some item => p item ∧
      ∃ before after, items = before ++ item :: after ∧ ∀ other ∈ before, ¬ p other

theorem firstWith_find? {α : Type} (p : α → Bool) (items : List α) :
    FirstWith (p · = true) items (items.find? p) := by
  cases hf : items.find? p with
  | none => simpa [FirstWith] using hf
  | some item =>
    obtain ⟨hp, before, after, hitems, hbefore⟩ := List.find?_eq_some_iff_append.1 hf
    exact ⟨hp, before, after, hitems, by simpa using hbefore⟩

namespace LinkedPages
variable {α : Type} {kind : RecordKind} {linkKey : α → Option String} {elementKey : String}
  {items : List α}

/-- A choice that is made only where it applies. -/
def ChosenWhere (applies : Prop) (choice : Option α → Prop) (chosen : Option α) : Prop :=
  (applies → choice chosen) ∧ (¬ applies → chosen = none)

def linkedCount (linkKey : α → Option String) (elementKey : String) (items : List α) : Nat :=
  items.countP fun item => linkKey item = some elementKey

def reportOn (elementKey : String) (kind : RecordKind) (linked : Nat) : List Event :=
  if 2 ≤ linked then [.severalMatches kind elementKey (linked - 1)] else []

def searched (pages : LinkedPages) : List (RecordKind × Nat) :=
  (.job, linkedCount Job.elementInstanceKey pages.element.key pages.jobs.items) ::
  match pages.element.type with
  | .listed .callActivity =>
    [(.processInstance, linkedCount ProcessInstance.parentElementInstanceKey pages.element.key
      pages.processInstances.items)]
  | .listed .businessRuleTask =>
    [(.decisionInstance, linkedCount DecisionInstance.elementInstanceKey pages.element.key
      pages.decisionInstances.items)]
  | .listed .userTask =>
    [(.userTask, linkedCount UserTask.elementInstanceKey pages.element.key pages.userTasks.items)]
  | _ => []

/-- The type of the elements for which records of a kind are looked up; jobs are for all. -/
def SearchesFor (type : Wire ElementType) : RecordKind → Prop
  | .elementInstance => False
  | .job => True
  | .processInstance => type = .listed .callActivity
  | .decisionInstance => type = .listed .businessRuleTask
  | .userTask => type = .listed .userTask

theorem firstWith_firstLinked : FirstWith (fun item => linkKey item = some elementKey) items
    (firstLinked kind linkKey elementKey items).value := by
  rw [firstLinked_value]
  have h := firstWith_find? (fun item => linkKey item == some elementKey) items
  simpa only [beq_iff_eq] using h

theorem length_matching :
    (matching linkKey elementKey items).length = linkedCount linkKey elementKey items := by
  rw [linkedCount, List.countP_eq_length_filter, matching]
  refine congrArg List.length (List.filter_congr fun item _ => ?_)
  rw [Bool.eq_iff_iff, decide_eq_true_iff, beq_iff_eq]

theorem firstLinked_events : (firstLinked kind linkKey elementKey items).events =
    reportOn elementKey kind (linkedCount linkKey elementKey items) := by
  rw [← length_matching]
  unfold firstLinked
  cases matching linkKey elementKey items with
  | nil => rfl
  | cons item more => cases more <;> rfl

theorem chosenWhere_onlyIf (applies : Bool) (kind : RecordKind) (linkKey : α → Option String)
    (elementKey : String) (items : List α) : ChosenWhere (applies = true)
      (FirstWith (fun item => linkKey item = some elementKey) items)
      (onlyIf applies (firstLinked kind linkKey elementKey items)).value := by
  cases applies with
  | false => exact ⟨nofun, fun _ => rfl⟩
  | true => exact ⟨fun _ => firstWith_firstLinked, fun hn => absurd rfl hn⟩

theorem onlyIf_events (applies : Bool) (search : Logged Event (Option α)) :
    (onlyIf applies search).events = if applies then search.events else [] := by
  cases applies <;> rfl

theorem resolve_events (pages : LinkedPages) : pages.resolve.events =
    pages.searched.flatMap fun page => reportOn pages.element.key page.1 page.2 := by
  simp only [resolve, Logged.bind_events, Logged.pure_events, List.append_nil, onlyIf_events,
    firstLinked_events, searched, List.flatMap_cons]
  congr 1
  -- Each type is linked to at most one of the three kinds behind the job.
  cases htype : pages.element.type with
  | other raw => rfl
  | listed word =>
    cases word <;>
      simp [ElementType.linksCalledProcess, ElementType.linksDecision, ElementType.linksUserTask]

theorem length_reportOn_le (elementKey : String) (kind : RecordKind) (linked : Nat) :
    (reportOn elementKey kind linked).length ≤ 1 := by
  unfold reportOn
  split <;> simp

theorem length_searched_le (pages : LinkedPages) : pages.searched.length ≤ 2 := by
  unfold searched
  split <;> simp

theorem searchesFor_of_mem_searched {pages : LinkedPages} {page : RecordKind × Nat}
    (h : page ∈ pages.searched) : SearchesFor pages.element.type page.1 := by
  obtain rfl | h := List.mem_cons.1 h
  · trivial
  · split at h
    case h_4 => cases h
    all_goals
      obtain rfl := List.mem_singleton.1 h
      assumption

theorem length_resolve_events_le (pages : LinkedPages) : pages.resolve.events.length ≤ 2 := by
  have hpages (searches : List (RecordKind × Nat)) :
      (searches.flatMap fun page => reportOn pages.element.key page.1 page.2).length ≤
        searches.length := by
    induction searches with
    | nil => exact Nat.le_refl 0
    | cons page searches ih =>
      have hpage := length_reportOn_le pages.element.key page.1 page.2
      rw [List.flatMap_cons, List.length_append, List.length_cons]
      omega
  rw [resolve_events]
  exact Nat.le_trans (hpages _) (length_searched_le pages)

theorem searchesFor_of_mem_resolve {pages : LinkedPages} {kind : RecordKind} {key : String}
    {ignored : Nat} (h : .severalMatches kind key ignored ∈ pages.resolve.events) :
    SearchesFor pages.element.type kind := by
  rw [resolve_events] at h
  obtain ⟨page, hpage, hevent⟩ := List.mem_flatMap.1 h
  unfold reportOn at hevent
  split at hevent
  · have heq := List.mem_singleton.1 hevent
    obtain ⟨rfl, -⟩ := Event.severalMatches.inj heq
    exact searchesFor_of_mem_searched hpage
  · cases hevent

/-- Resolution picks the first linked item of each page that the element's type has searched, and
reports, page by page and at the debug level, how many linked items it leaves. -/
theorem resolve_picks_and_reports (pages : LinkedPages) :
    let key := pages.element.key
    let type := pages.element.type
    let sources := pages.resolve.value
    sources.element = pages.element ∧
    FirstWith (fun job => job.elementInstanceKey = some key) pages.jobs.items sources.job ∧
    ChosenWhere (type = .listed .callActivity)
      (FirstWith (fun process => process.parentElementInstanceKey = some key)
        pages.processInstances.items) sources.calledProcess ∧
    ChosenWhere (type = .listed .businessRuleTask)
      (FirstWith (fun decision => decision.elementInstanceKey = some key)
        pages.decisionInstances.items) sources.decision ∧
    (∃ task, ChosenWhere (type = .listed .userTask)
      (FirstWith (fun task => task.elementInstanceKey = some key) pages.userTasks.items) task ∧
      sources.userTask = task.map UserTask.details) ∧
    pages.resolve.events = (pages.searched.flatMap fun page => reportOn key page.1 page.2) ∧
    pages.resolve.events.length ≤ 2 ∧
    (∀ event ∈ pages.resolve.events, event.level = .debug) ∧
    ∀ kind key ignored, .severalMatches kind key ignored ∈ pages.resolve.events →
      SearchesFor type kind := by
  intro key type sources
  have hcalled := chosenWhere_onlyIf (ElementType.linksCalledProcess type) .processInstance
    ProcessInstance.parentElementInstanceKey key pages.processInstances.items
  have hdecision := chosenWhere_onlyIf (ElementType.linksDecision type) .decisionInstance
    DecisionInstance.elementInstanceKey key pages.decisionInstances.items
  have htask := chosenWhere_onlyIf (ElementType.linksUserTask type) .userTask
    UserTask.elementInstanceKey key pages.userTasks.items
  simp only [ElementType.linksCalledProcess, ElementType.linksDecision,
    ElementType.linksUserTask, decide_eq_true_eq] at hcalled hdecision htask
  exact ⟨rfl, firstWith_firstLinked, hcalled, hdecision, ⟨_, htask, rfl⟩, resolve_events pages,
    length_resolve_events_le pages, fun _ => level_of_mem_resolve,
    fun _ _ _ => searchesFor_of_mem_resolve⟩

end LinkedPages
end ElementMetadata
