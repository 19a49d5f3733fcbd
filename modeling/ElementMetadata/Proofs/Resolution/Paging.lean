import ElementMetadata.Proofs.Metadata.Changes
import ElementMetadata.Proofs.Resolution.Selection
import Mathlib.Algebra.GroupWithZero.Nat
import Mathlib.Logic.Relation

/-!
Resolution and the division of search results into pages. A page may be cut in two and each part
resolved by itself. Nothing counts but the linked items of the pages that are searched, in their order:
all other items may come, go and change places.
-/
namespace ElementMetadata

namespace Link

abbrev Item : Link → Type
  | .job => Job
  | .calledProcess => ProcessInstance
  | .decision => DecisionInstance
  | .userTask => UserTask

def kind : Link → RecordKind
  | .job => .job
  | .calledProcess => .processInstance
  | .decision => .decisionInstance
  | .userTask => .userTask

def linkKey : (link : Link) → link.Item → Option String
  | .job => Job.elementInstanceKey
  | .calledProcess => ProcessInstance.parentElementInstanceKey
  | .decision => DecisionInstance.elementInstanceKey
  | .userTask => UserTask.elementInstanceKey

def record : (link : Link) → link.Item → link.Record
  | .job => id
  | .calledProcess => id
  | .decision => id
  | .userTask => UserTask.details

def applies (type : Wire ElementType) : Link → Bool
  | .job => true
  | .calledProcess => ElementType.linksCalledProcess type
  | .decision => ElementType.linksDecision type
  | .userTask => ElementType.linksUserTask type

def all : List Link := [.job, .calledProcess, .decision, .userTask]

theorem applies_iff {type : Wire ElementType} {link : Link} :
    link.applies type = true ↔ LinkedPages.SearchesFor type link.kind := by
  cases link with
  | job => exact iff_of_true rfl trivial
  | _ => exact decide_eq_true_iff

theorem kind_injective : Function.Injective kind := by
  intro link other h
  cases link <;> cases other <;> first | rfl | cases h

end Link

/-- How many matches a report on a kind of records says that it leaves. -/
def Event.ignored? (kind : RecordKind) : Event → Option Nat
  | .severalMatches reported _ ignored => if reported = kind then some ignored else none
  | _ => none

namespace LinkedPages
variable {α : Type} {kind : RecordKind} {linkKey : α → Option String} {elementKey : String}
  {pages other : LinkedPages} {link : Link}

def page (pages : LinkedPages) : (link : Link) → SearchPage link.Item
  | .job => pages.jobs
  | .calledProcess => pages.processInstances
  | .decision => pages.decisionInstances
  | .userTask => pages.userTasks

def withPage (pages : LinkedPages) : (link : Link) → SearchPage link.Item → LinkedPages
  | .job, page => { pages with jobs := page }
  | .calledProcess, page => { pages with processInstances := page }
  | .decision, page => { pages with decisionInstances := page }
  | .userTask, page => { pages with userTasks := page }

def linked (pages : LinkedPages) (link : Link) : List link.Item :=
  matching link.linkKey pages.element.key (pages.page link).items

def search (pages : LinkedPages) (link : Link) : Logged Event (Option link.Item) :=
  onlyIf (link.applies pages.element.type) <|
    firstLinked link.kind link.linkKey pages.element.key (pages.page link).items

/-- The matches of a search as its outcome tells them: the one that was picked and those that were
left. -/
def matchCount (link : Link) (outcome : Logged Event Sources) : Nat :=
  (outcome.value.record? link).toList.length +
    (outcome.events.filterMap (·.ignored? link.kind)).sum

/-- The pages of one element, with the same linked items wherever they are searched. -/
structure SameLinked (pages other : LinkedPages) : Prop where
  element_eq : other.element = pages.element
  linked_eq (link : Link) : SearchesFor pages.element.type link.kind →
    other.linked link = pages.linked link

/-- One change of a page that is of no interest to the element: an item that is not linked is put in,
left out or moved, the page tells another total, or the page is not searched at all. -/
inductive Edit (pages : LinkedPages) : LinkedPages → Prop
  | insert (link : Link) {before after : List link.Item} (item : link.Item) {info : PageInfo} :
    pages.page link = ⟨before ++ after, info⟩ → link.linkKey item ≠ some pages.element.key →
    Edit pages (pages.withPage link ⟨before ++ item :: after, info⟩)
  | delete (link : Link) {before after : List link.Item} {item : link.Item} {info : PageInfo} :
    pages.page link = ⟨before ++ item :: after, info⟩ →
    link.linkKey item ≠ some pages.element.key →
    Edit pages (pages.withPage link ⟨before ++ after, info⟩)
  | moveDown (link : Link) {before between after : List link.Item} {item : link.Item}
    {info : PageInfo} : pages.page link = ⟨before ++ item :: (between ++ after), info⟩ →
    link.linkKey item ≠ some pages.element.key →
    Edit pages (pages.withPage link ⟨before ++ (between ++ item :: after), info⟩)
  | moveUp (link : Link) {before between after : List link.Item} {item : link.Item}
    {info : PageInfo} : pages.page link = ⟨before ++ (between ++ item :: after), info⟩ →
    link.linkKey item ≠ some pages.element.key →
    Edit pages (pages.withPage link ⟨before ++ item :: (between ++ after), info⟩)
  | recount (link : Link) (info : PageInfo) :
    Edit pages (pages.withPage link ⟨(pages.page link).items, info⟩)
  | replace (link : Link) (page : SearchPage link.Item) :
    ¬ SearchesFor pages.element.type link.kind → Edit pages (pages.withPage link page)

@[simp] theorem element_withPage (page : SearchPage link.Item) :
    (pages.withPage link page).element = pages.element := by cases link <;> rfl

@[simp] theorem page_withPage (page : SearchPage link.Item) :
    (pages.withPage link page).page link = page := by cases link <;> rfl

theorem page_withPage_of_ne {searched : Link} (h : searched ≠ link) (page : SearchPage link.Item) :
    (pages.withPage link page).page searched = pages.page searched := by
  cases link <;> cases searched <;> first | rfl | exact absurd rfl h

theorem linked_withPage (page : SearchPage link.Item) : (pages.withPage link page).linked link =
    matching link.linkKey pages.element.key page.items := by
  rw [linked, element_withPage, page_withPage]

theorem matching_append (xs ys : List α) : matching linkKey elementKey (xs ++ ys) =
    matching linkKey elementKey xs ++ matching linkKey elementKey ys := List.filter_append ..

theorem matching_cons_of_ne {item : α} (h : linkKey item ≠ some elementKey) (items : List α) :
    matching linkKey elementKey (item :: items) = matching linkKey elementKey items :=
  List.filter_cons_of_neg (by simpa using h)

/-! Resolution is made of the four searches, and each sees nothing but linked items. -/

theorem record?_resolve (pages : LinkedPages) (link : Link) :
    pages.resolve.value.record? link = (pages.search link).value.map link.record := by
  cases link with
  | userTask => rfl
  | _ => exact (Option.map_id_apply).symm

theorem events_resolve (pages : LinkedPages) :
    pages.resolve.events = Link.all.flatMap fun link => (pages.search link).events := by
  simp only [Link.all, List.flatMap_cons, List.flatMap_nil]
  rfl

theorem resolve_congr (he : other.element = pages.element)
    (hs : ∀ link, other.search link = pages.search link) : other.resolve = pages.resolve := by
  have hvalue : other.resolve.value = pages.resolve.value :=
    Sources.ext_record? he fun link => by rw [record?_resolve, record?_resolve, hs]
  have hevents : other.resolve.events = pages.resolve.events := by
    simp only [events_resolve, hs]
  cases hother : other.resolve
  cases hpages : pages.resolve
  rw [hother, hpages] at hvalue hevents
  rw [Logged.mk.injEq]
  exact ⟨hvalue, hevents⟩

theorem firstLinked_congr {xs ys : List α}
    (h : matching linkKey elementKey xs = matching linkKey elementKey ys) :
    firstLinked kind linkKey elementKey xs = firstLinked kind linkKey elementKey ys := by
  rw [firstLinked, firstLinked, h]

theorem SameLinked.search_eq (h : SameLinked pages other) (link : Link) :
    other.search link = pages.search link := by
  rw [search, search, h.element_eq]
  cases happlies : link.applies pages.element.type with
  | false => rfl
  | true =>
    have hlinked := h.linked_eq link (Link.applies_iff.1 happlies)
    rw [linked, linked, h.element_eq] at hlinked
    rw [firstLinked_congr hlinked]

theorem SameLinked.resolve_eq (h : SameLinked pages other) : other.resolve = pages.resolve :=
  resolve_congr h.element_eq h.search_eq

theorem SameLinked.refl (pages : LinkedPages) : SameLinked pages pages := ⟨rfl, fun _ _ => rfl⟩

theorem SameLinked.trans {last : LinkedPages} (h : SameLinked pages other)
    (hlast : SameLinked other last) : SameLinked pages last where
  element_eq := hlast.element_eq.trans h.element_eq
  linked_eq link hs := by
    have hlinked := hlast.linked_eq link
    rw [h.element_eq] at hlinked
    exact (hlinked hs).trans (h.linked_eq link hs)

theorem sameLinked_withPage {page : SearchPage link.Item}
    (h : SearchesFor pages.element.type link.kind →
      matching link.linkKey pages.element.key page.items = pages.linked link) :
    SameLinked pages (pages.withPage link page) where
  element_eq := element_withPage page
  linked_eq searched hs := by
    by_cases heq : searched = link
    · subst heq
      rw [linked_withPage]
      exact h hs
    · rw [linked, element_withPage, page_withPage_of_ne heq, linked]

theorem Edit.sameLinked (h : Edit pages other) : SameLinked pages other := by
  cases h with
  | recount link info => exact sameLinked_withPage fun _ => rfl
  | replace link page hnot => exact sameLinked_withPage fun hs => absurd hs hnot
  | insert link item hpage hitem =>
    refine sameLinked_withPage fun _ => ?_
    simp only [linked, hpage, matching_append, matching_cons_of_ne hitem]
  | delete link hpage hitem =>
    refine sameLinked_withPage fun _ => ?_
    simp only [linked, hpage, matching_append, matching_cons_of_ne hitem]
  | moveDown link hpage hitem =>
    refine sameLinked_withPage fun _ => ?_
    simp only [linked, hpage, matching_append, matching_cons_of_ne hitem]
  | moveUp link hpage hitem =>
    refine sameLinked_withPage fun _ => ?_
    simp only [linked, hpage, matching_append, matching_cons_of_ne hitem]

theorem sameLinked_of_edits (h : Relation.ReflTransGen Edit pages other) :
    SameLinked pages other := by
  induction h with
  | refl => exact .refl pages
  | tail _ hedit ih => exact ih.trans hedit.sameLinked

/-! What a search finds in a page: the first linked item, and how many there are. -/

theorem record?_resolve_of_searchesFor (h : SearchesFor pages.element.type link.kind) :
    pages.resolve.value.record? link = (pages.linked link).head?.map link.record := by
  rw [record?_resolve, search, Link.applies_iff.2 h, onlyIf_value, if_pos rfl, firstLinked_value,
    ← List.head?_filter]
  rfl

theorem length_linked (pages : LinkedPages) (link : Link) : (pages.linked link).length =
    linkedCount link.linkKey pages.element.key (pages.page link).items := length_matching

theorem events_search (pages : LinkedPages) (link : Link) : (pages.search link).events =
    if link.applies pages.element.type then
      reportOn pages.element.key link.kind (pages.linked link).length
    else [] := by
  rw [search, onlyIf_events, firstLinked_events, length_linked]

theorem ignored_reportOn (kind reported : RecordKind) (elementKey : String) (count : Nat) :
    ((reportOn elementKey reported count).filterMap (·.ignored? kind)).sum =
      if reported = kind then count - 1 else 0 := by
  by_cases hcount : 2 ≤ count <;> by_cases hkind : reported = kind <;>
    simp [reportOn, Event.ignored?, hcount, hkind]
  omega

theorem matchCount_resolve (h : SearchesFor pages.element.type link.kind) :
    matchCount link pages.resolve =
      linkedCount link.linkKey pages.element.key (pages.page link).items := by
  have hreports (searched : Link) :
      ((pages.search searched).events.filterMap (·.ignored? link.kind)).sum =
        if searched = link then (pages.linked link).length - 1 else 0 := by
    rw [events_search]
    by_cases heq : searched = link
    · subst heq
      rw [if_pos (Link.applies_iff.2 h), ignored_reportOn, if_pos rfl, if_pos rfl]
    · rw [if_neg heq]
      split
      · rw [ignored_reportOn, if_neg fun hkind => heq (Link.kind_injective hkind)]
      · rfl
  have hsum : (pages.resolve.events.filterMap (·.ignored? link.kind)).sum =
      (pages.linked link).length - 1 := by
    simp only [events_resolve, Link.all, List.flatMap_cons, List.flatMap_nil, List.filterMap_append,
      List.sum_append, hreports]
    cases link <;> simp
  rw [matchCount, hsum, record?_resolve_of_searchesFor h, ← length_linked]
  cases pages.linked link with
  | nil => rfl
  | cons item more => simp [Nat.add_comm]

/-- Where a page is searched, the record found in a whole page is the one found in its first part, or
else the one in its last part, and the matches of both parts add up. Pages with the same linked items
have the same outcome, and so have pages that differ by changes of no interest to the element. -/
theorem resolution_of_linked_items (pages : LinkedPages) :
    (∀ (link : Link) (first last whole : SearchPage link.Item),
      SearchesFor pages.element.type link.kind → whole.items = first.items ++ last.items →
      let outcome (page : SearchPage link.Item) := (pages.withPage link page).resolve
      (outcome whole).value.record? link =
        ((outcome first).value.record? link).or ((outcome last).value.record? link) ∧
      matchCount link (outcome whole) =
        matchCount link (outcome first) + matchCount link (outcome last) ∧
      ∀ page, matchCount link (outcome page) =
        linkedCount link.linkKey pages.element.key page.items) ∧
    ∀ other, SameLinked pages other ∨ Relation.ReflTransGen Edit pages other →
      other.resolve = pages.resolve ∧
      (do (← other.resolve).metadata : Logged Event Metadata) =
        (do (← pages.resolve).metadata : Logged Event Metadata) := by
  refine ⟨fun link first last whole hs hwhole => ?cut, fun other h => ?blind⟩
  case cut =>
    have hsearched (page : SearchPage link.Item) :
        SearchesFor (pages.withPage link page).element.type link.kind := by
      rwa [element_withPage]
    have hcount (page : SearchPage link.Item) : matchCount link (pages.withPage link page).resolve =
        linkedCount link.linkKey pages.element.key page.items := by
      rw [matchCount_resolve (hsearched page), element_withPage, page_withPage]
    refine ⟨?_, ?_, hcount⟩
    · simp only [record?_resolve_of_searchesFor (hsearched _), linked_withPage, hwhole,
        matching_append, List.head?_append, Option.map_or]
    · rw [hcount, hcount, hcount, hwhole, linkedCount, List.countP_append]
      rfl
  case blind =>
    have hsame : SameLinked pages other := h.elim id sameLinked_of_edits
    rw [hsame.resolve_eq]
    exact ⟨rfl, rfl⟩

def taskOf (elementKey : Option String) (assignee : String) : UserTask :=
  { elementInstanceKey := elementKey, elementId := none, name := none, processInstanceKey := none
    tenantId := none, details := { assignee := some assignee } }

def firstTasks : SearchPage UserTask := ⟨[taskOf none "ada", taskOf (some "") "bob"], ⟨4⟩⟩

def lastTasks : SearchPage UserTask := ⟨[taskOf (some "7") "cleo", taskOf (some "7") "dan"], ⟨4⟩⟩

def reviewPages : LinkedPages := { element := Sources.review, userTasks := lastTasks }

theorem review_has_the_task_of_the_last_page :
    (reviewPages.withPage .userTask ⟨firstTasks.items ++ lastTasks.items, ⟨4⟩⟩).resolve.value.userTask =
      some { assignee := some "cleo" } ∧
    matchCount .userTask
      (reviewPages.withPage .userTask ⟨firstTasks.items ++ lastTasks.items, ⟨4⟩⟩).resolve = 2 ∧
    (reviewPages.withPage .userTask ⟨taskOf none "ada" :: lastTasks.items, ⟨4⟩⟩).resolve =
      reviewPages.resolve ∧
    SameLinked reviewPages (reviewPages.withPage .decision ⟨[], ⟨9⟩⟩) ∧
    (reviewPages.withPage .decision ⟨[], ⟨9⟩⟩).resolve = reviewPages.resolve := by
  obtain ⟨hcut, hblind⟩ := resolution_of_linked_items reviewPages
  obtain ⟨hrecord, hcount, -⟩ := hcut .userTask firstTasks lastTasks
    ⟨firstTasks.items ++ lastTasks.items, ⟨4⟩⟩ rfl rfl
  have hpage : reviewPages.page .userTask = ⟨[] ++ lastTasks.items, ⟨4⟩⟩ := rfl
  have hinsert := Edit.insert .userTask (taskOf none "ada") hpage nofun
  have hdecision : SameLinked reviewPages (reviewPages.withPage .decision ⟨[], ⟨9⟩⟩) :=
    sameLinked_withPage nofun
  exact ⟨hrecord, hcount, (hblind _ (.inr (.single hinsert))).1, hdecision,
    (hblind _ (.inl hdecision)).1⟩

end LinkedPages
end ElementMetadata
