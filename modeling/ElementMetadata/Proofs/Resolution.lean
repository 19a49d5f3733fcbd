import ElementMetadata.Metadata

/-!
What is found in the pages of an element, and which events are reported on the way. Searching
reports nothing but what is of interest for debugging; a warning comes from the merge alone.
-/
namespace ElementMetadata

namespace Logged
variable {ε α β : Type}

@[simp] theorem pure_value (a : α) : (pure a : Logged ε α).value = a := rfl

@[simp] theorem pure_events (a : α) : (pure a : Logged ε α).events = [] := rfl

@[simp] theorem bind_value (x : Logged ε α) (f : α → Logged ε β) :
    (x >>= f).value = (f x.value).value := rfl

@[simp] theorem bind_events (x : Logged ε α) (f : α → Logged ε β) :
    (x >>= f).events = x.events ++ (f x.value).events := rfl

end Logged

namespace LinkedPages
variable {α : Type} {kind : RecordKind} {linkKey : α → Option String} {elementKey : String}
  {items : List α}

theorem firstLinked_value :
    (firstLinked kind linkKey elementKey items).value =
      items.find? fun item => linkKey item == some elementKey := by
  rw [← List.head?_filter]
  change _ = (matching linkKey elementKey items).head?
  unfold firstLinked
  cases matching linkKey elementKey items with
  | nil => rfl
  | cons item more => cases more <;> rfl

theorem level_of_mem_firstLinked {event : Event}
    (h : event ∈ (firstLinked kind linkKey elementKey items).events) : event.level = .debug := by
  unfold firstLinked at h
  split at h
  · cases h
  · cases h
  · obtain rfl := List.mem_singleton.1 h
    rfl

theorem onlyIf_value (applies : Bool) (search : Logged Event (Option α)) :
    (onlyIf applies search).value = if applies then search.value else none := by
  cases applies <;> rfl

theorem level_of_mem_onlyIf {applies : Bool} {event : Event}
    (h : event ∈ (onlyIf applies (firstLinked kind linkKey elementKey items)).events) :
    event.level = .debug := by
  cases applies with
  | false => cases h
  | true => exact level_of_mem_firstLinked h

theorem resolve_value (pages : LinkedPages) : pages.resolve.value =
    { element := pages.element
      job := pages.jobs.items.find? fun job => job.elementInstanceKey == some pages.element.key
      calledProcess :=
        if ElementType.linksCalledProcess pages.element.type then
          pages.processInstances.items.find? fun process =>
            process.parentElementInstanceKey == some pages.element.key
        else none
      decision :=
        if ElementType.linksDecision pages.element.type then
          pages.decisionInstances.items.find? fun decision =>
            decision.elementInstanceKey == some pages.element.key
        else none
      userTask :=
        (if ElementType.linksUserTask pages.element.type then
          pages.userTasks.items.find? fun task => task.elementInstanceKey == some pages.element.key
        else none).map UserTask.details } := by
  simp only [resolve, Logged.bind_value, Logged.pure_value, onlyIf_value, firstLinked_value]

theorem level_of_mem_resolve {pages : LinkedPages} {event : Event}
    (h : event ∈ pages.resolve.events) : event.level = .debug := by
  simp only [resolve, Logged.bind_events, Logged.pure_events, List.append_nil, List.mem_append] at h
  obtain h | h | h | h := h
  · exact level_of_mem_firstLinked h
  · exact level_of_mem_onlyIf h
  · exact level_of_mem_onlyIf h
  · exact level_of_mem_onlyIf h

end LinkedPages

theorem Sources.level_of_mem_metadata {sources : Sources} {event : Event}
    (h : event ∈ sources.metadata.events) : event.level = .warn := by
  simp only [metadata] at h
  split at h
  · obtain rfl := List.mem_singleton.1 h
    rfl
  · cases h

end ElementMetadata
