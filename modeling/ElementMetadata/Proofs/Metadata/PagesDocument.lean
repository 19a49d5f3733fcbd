import ElementMetadata.Proofs.Document
import ElementMetadata.Proofs.Process.SearchPage
import ElementMetadata.Proofs.Process.UserTask
import ElementMetadata.Proofs.Resolution
import ElementMetadata.Summary

/-!
A document of linked pages means what the sources document means that holds the element and, of each
page, the first item that is linked to it.
-/
namespace ElementMetadata
open Document WellFormed

namespace Metadata
variable {α : Type} [Codec α] {linkKey : α → Option String} {key : String} (elementKey : String)

/-- Whether an item holds the element's key as its link: an object does at its key, and an array by
what it is read as. -/
def isLinked (linkKey : α → Option String) (key elementKey : String) (v : Json) : Bool :=
  match v with
  | .object ms => (Json.object ms).text? key == some elementKey
  | v =>
    match (Codec.read v : Except Fault α) with
    | .ok item => linkKey item == some elementKey
    | .error _ => false

def rawItems (doc : Json) (page : String) : List Json :=
  match (at? doc page).bind SearchPage.rawItems? with
  | some (.array vs) => vs
  | _ => []

/-- The first linked item of a page as it stands there, or null. -/
def linkedItem (linkKey : α → Option String) (key elementKey : String) (doc : Json)
    (page : String) : Json :=
  ((rawItems doc page).find? (isLinked linkKey key elementKey)).getD .null

/-- The sources document that holds the element of a document of pages and its linked items. -/
def sourcesFor (doc : Json) (element : ElementInstance) : Json := .object
  [ ("elementInstance", (at? doc "elementInstance").getD .null),
    ("job", linkedItem Job.elementInstanceKey "elementInstanceKey" element.key doc "jobs"),
    ("calledProcessInstance",
      if element.type.toString = "CALL_ACTIVITY" then
        linkedItem ProcessInstance.parentElementInstanceKey "parentElementInstanceKey" element.key
          doc "processInstances"
      else .null),
    ("decisionInstance",
      if element.type.toString = "BUSINESS_RULE_TASK" then
        linkedItem DecisionInstance.elementInstanceKey "elementInstanceKey" element.key
          doc "decisionInstances"
      else .null),
    ("userTask",
      if element.type.toString = "USER_TASK" then
        linkedItem UserTask.elementInstanceKey "elementInstanceKey" element.key doc "userTasks"
      else .null) ]

/-- The links of a type stand at a key of its objects, and null is no value of it. -/
structure LinksAt (linkKey : α → Option String) (key : String) : Prop where
  text?_of_read (ms : Members) (r : α) : Codec.read (.object ms) = .ok r →
    (Json.object ms).text? key = linkKey r
  read_null (r : α) : Codec.read .null ≠ .ok r

theorem isLinked_of_read (hl : LinksAt linkKey key) {v : Json} {item : α}
    (h : Codec.read v = .ok item) :
    isLinked linkKey key elementKey v = (linkKey item == some elementKey) := by
  cases v with
  | object ms => rw [isLinked, hl.text?_of_read ms item h]
  | _ => simp only [isLinked, h]

theorem readsIfAny_find? (hl : LinksAt linkKey key) {vs : List Json} {items : List α}
    (h : ReadAll vs items) :
    ReadsIfAny (vs.find? (isLinked linkKey key elementKey))
      (items.find? fun item => linkKey item == some elementKey) := by
  induction h with
  | nil => exact .none
  | @cons v item vs items hv _ ih =>
    have hlinked := isLinked_of_read elementKey hl hv
    rw [List.find?_cons, List.find?_cons, hlinked]
    cases linkKey item == some elementKey with
    | true => exact .some hv
    | false => exact ih

theorem readAll_rawItems {doc : Json} {page : String} {found : SearchPage α}
    (h : PageReads (at? doc page) found) : ReadAll (rawItems doc page) found.items := by
  rw [rawItems]
  obtain ⟨hnone, rfl⟩ | ⟨v, hv, hread⟩ := h
  · rw [hnone]
    exact .nil
  · obtain ⟨vs, hvs, hall⟩ := SearchPage.itemsAt_of_read hread
    rw [hv, Option.bind_some]
    cases hraw : SearchPage.rawItems? v with
    | none =>
      rw [hraw] at hvs
      obtain rfl := Json.array.inj hvs
      exact hall
    | some x =>
      rw [hraw, Option.getD_some] at hvs
      rw [hvs]
      exact hall

theorem readsIfAny_linkedItem (hl : LinksAt linkKey key) {doc : Json} {page : String}
    {found : SearchPage α} (h : PageReads (at? doc page) found) :
    ReadsIfAny ((some (linkedItem linkKey key elementKey doc page)).filter (!·.isNull))
      (found.items.find? fun item => linkKey item == some elementKey) := by
  have hfind := readsIfAny_find? elementKey hl (readAll_rawItems h)
  rw [linkedItem]
  generalize (rawItems doc page).find? (isLinked linkKey key elementKey) = raw at hfind
  generalize found.items.find? (fun item => linkKey item == some elementKey) = item at hfind
  cases hfind with
  | none => exact .none
  | @some v r hread =>
    have hn : v.isNull = false := by
      cases v with
      | null => exact absurd hread (hl.read_null r)
      | _ => rfl
    rw [Option.getD_some, Option.filter_some, hn]
    exact .some hread

theorem readsIfAny_ite {v : Json} {o : Option α} {p : Prop} [Decidable p] {b : Bool} (hp : p ↔ b)
    (h : ReadsIfAny ((some v).filter (!·.isNull)) o) :
    ReadsIfAny ((some (if p then v else .null)).filter (!·.isNull)) (if b then o else none) := by
  cases b with
  | true => rwa [if_pos (hp.2 rfl)]
  | false =>
    rw [if_neg fun h => Bool.false_ne_true (hp.1 h)]
    exact .none

theorem readsIfAny_details {v : Option Json} {o : Option UserTask} (h : ReadsIfAny v o) :
    ReadsIfAny v (o.map UserTask.details) := by
  cases h with
  | none => exact .none
  | some hread => exact .some (TaskDetails.read_of_read hread)

theorem linksAt_job : LinksAt Job.elementInstanceKey "elementInstanceKey" where
  text?_of_read _ _ h := Plain.text?_of_read h (by simp [Tabular.fields, Job.fields]) rfl
  read_null _ := nofun

theorem linksAt_calledProcess :
    LinksAt ProcessInstance.parentElementInstanceKey "parentElementInstanceKey" where
  text?_of_read _ _ h :=
    Plain.text?_of_read h (by simp [Tabular.fields, ProcessInstance.fields]) rfl
  read_null _ := nofun

theorem linksAt_decision : LinksAt DecisionInstance.elementInstanceKey "elementInstanceKey" where
  text?_of_read _ _ h :=
    Plain.text?_of_read h (by simp [Tabular.fields, DecisionInstance.fields]) rfl
  read_null _ := nofun

theorem linksAt_userTask : LinksAt UserTask.elementInstanceKey "elementInstanceKey" where
  text?_of_read _ _ h :=
    Plain.text?_of_read h (List.mem_append_left _ List.mem_cons_self) rfl
  read_null _ := nofun

theorem toString_eq_wire_iff {type : Wire ElementType} (hp : type.Proper) (word : ElementType) :
    type.toString = Vocabulary.wire word ↔ decide (type = .listed word) = true := by
  rw [decide_eq_true_iff]
  exact Wire.toString_inj hp (x := .listed word) trivial

theorem ofJson_sourcesFor {doc : Json} {pages : LinkedPages}
    (h : LinkedPages.ofJson doc = .ok pages) :
    Sources.ofJson (sourcesFor doc pages.element) = .ok pages.resolve.value := by
  obtain ⟨-, ⟨raw, hraw, he⟩, hj, hc, hd, ht⟩ := LinkedPages.ofJson_eq_ok_iff.1 h
  have hp : Proper pages.element := Plain.proper_of_read he
  have hjob := readsIfAny_linkedItem pages.element.key linksAt_job hj
  have hcalled := readsIfAny_ite (toString_eq_wire_iff hp.1 .callActivity)
    (readsIfAny_linkedItem pages.element.key linksAt_calledProcess hc)
  have hdecision := readsIfAny_ite (toString_eq_wire_iff hp.1 .businessRuleTask)
    (readsIfAny_linkedItem pages.element.key linksAt_decision hd)
  have htask := readsIfAny_ite (toString_eq_wire_iff hp.1 .userTask)
    (readsIfAny_linkedItem pages.element.key linksAt_userTask ht)
  have helement : at? (sourcesFor doc pages.element) "elementInstance" = some raw := by
    have hat : at? (sourcesFor doc pages.element) "elementInstance" =
        (some ((at? doc "elementInstance").getD .null)).filter (!·.isNull) := rfl
    rw [hat, hraw, Option.getD_some, Option.filter_some, isNull_of_at? hraw]
    rfl
  rw [LinkedPages.resolve_value, Sources.ofJson_eq_ok_iff]
  exact ⟨⟨_, rfl⟩, ⟨raw, helement, he⟩, hjob, hcalled, hdecision, readsIfAny_details htask⟩

def linkedSources (doc : Json) : Json :=
  match (at? doc "elementInstance").map (Codec.read (α := ElementInstance)) with
  | some (.ok element) => sourcesFor doc element
  | _ => .null

theorem linkedSources_eq {doc : Json} {pages : LinkedPages}
    (h : LinkedPages.ofJson doc = .ok pages) :
    linkedSources doc = sourcesFor doc pages.element := by
  obtain ⟨-, ⟨raw, hraw, he⟩, -⟩ := LinkedPages.ofJson_eq_ok_iff.1 h
  rw [linkedSources, hraw, Option.map_some, he]

/-- A document of pages has the metadata of its sources document, and the same warning if there is
one; what searching reports besides is of lesser level. -/
theorem pages_refine_sources {doc : Json} {m : Logged Event Metadata}
    (h : ofPagesDocument doc = .ok m) :
    ∃ n, ofSourcesDocument (linkedSources doc) = .ok n ∧ n.value = m.value ∧
      n.events = m.events.filter (·.level = .warn) ∧
      ∀ now suffix,
        Summary.ofMetadata n.value now suffix = Summary.ofMetadata m.value now suffix ∧
        (Summary.ofMetadata n.value now suffix).value.rows =
          (Summary.ofMetadata m.value now suffix).value.rows := by
  obtain ⟨pages, hpages, rfl⟩ := map_eq_ok_iff.1 h
  refine ⟨pages.resolve.value.metadata, ?_, rfl, ?_, fun now suffix => ⟨rfl, rfl⟩⟩
  · rw [linkedSources_eq hpages]
    exact map_eq_ok_iff.2 ⟨_, ofJson_sourcesFor hpages, rfl⟩
  · have hresolve : pages.resolve.events.filter (·.level = .warn) = [] := by
      rw [List.filter_eq_nil_iff]
      intro event he
      simp [LinkedPages.level_of_mem_resolve he]
    have hmerge : pages.resolve.value.metadata.events.filter (·.level = .warn) =
        pages.resolve.value.metadata.events := by
      rw [List.filter_eq_self]
      intro event he
      simp [Sources.level_of_mem_metadata he]
    rw [Logged.bind_events, List.filter_append, hresolve, hmerge, List.nil_append]

def taskPages : Json := .object
  [ ("elementInstance", .object
      [ ("elementInstanceKey", .string "7"), ("elementId", .string "review"),
        ("type", .string "USER_TASK"), ("state", .string "ACTIVE") ]),
    ("jobs", .object
      [ ("items", .array
          [ .object [ ("elementInstanceKey", .string "6") ],
            .object [ ("elementInstanceKey", .string "7"), ("type", .string "mail") ],
            .object [ ("elementInstanceKey", .string "7") ] ]) ]),
    ("userTasks", .array
      [ .array [ .object [ ("elementInstanceKey", .string "7"), ("assignee", .string "ada") ] ] ]) ]

theorem task_pages_refine_sources : ∃ m, ofPagesDocument taskPages = .ok m ∧
    m.events = [.severalMatches .job "7" 1, .jobAndTask "7"] ∧
    linkedSources taskPages = .object
      [ ("elementInstance", .object
          [ ("elementInstanceKey", .string "7"), ("elementId", .string "review"),
            ("type", .string "USER_TASK"), ("state", .string "ACTIVE") ]),
        ("job", .object [ ("elementInstanceKey", .string "7"), ("type", .string "mail") ]),
        ("calledProcessInstance", .null), ("decisionInstance", .null),
        ("userTask", .object
          [ ("elementInstanceKey", .string "7"), ("assignee", .string "ada") ]) ] ∧
    ∃ n, ofSourcesDocument (linkedSources taskPages) = .ok n ∧ n.value = m.value ∧
      n.events = [.jobAndTask "7"] := by
  obtain ⟨n, hn, hvalue, hevents, -⟩ :=
    pages_refine_sources (rfl : ofPagesDocument taskPages = .ok _)
  exact ⟨_, rfl, rfl, rfl, n, hn, hvalue, hevents⟩

end Metadata
end ElementMetadata
