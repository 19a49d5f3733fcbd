import ElementMetadata.Proofs.Document
import ElementMetadata.Proofs.Process.SearchPage
import ElementMetadata.Proofs.Record.Kind

/-!
How reading a document fails. The records are read in a fixed order, and the first one that is no
such record is the fault; only a document without its element fails before that. The fault in a step of
reading is that of its record, and the fault in a chain of steps is the first of theirs.
-/
namespace ElementMetadata
open Document

def faultOf (α : Type) [Codec α] (v : Json) : Option Fault :=
  faultIn? (Codec.read v : Except Fault α)

/-- A place of a document: the kind of the record there, its key, and what is said of a value that
is not read there. -/
structure Place where
  kind : RecordKind
  key : String
  fault? : Json → Option Fault

namespace Place

/-- The error of a document at a place. Where nothing or null stands nothing is read. -/
def errorIn? (doc : Json) (place : Place) : Option DocumentError :=
  match doc.member? place.key with
  | none | some .null => none
  | some v => (place.fault? v).map (.invalidRecord place.kind)

def firstError? (places : List Place) (doc : Json) : Option DocumentError :=
  places.findSome? (errorIn? doc)

theorem errorIn?_eq_at? (doc : Json) (place : Place) : place.errorIn? doc =
    (at? doc place.key).bind fun v => (place.fault? v).map (.invalidRecord place.kind) := by
  rw [errorIn?, at?]
  cases doc.member? place.key with
  | none => rfl
  | some v => cases v <;> rfl

@[simp] theorem firstError?_nil (doc : Json) : firstError? [] doc = none := rfl

@[simp] theorem firstError?_cons (place : Place) (places : List Place) (doc : Json) :
    firstError? (place :: places) doc = (place.errorIn? doc).or (firstError? places doc) := by
  rw [firstError?, List.findSome?_cons]
  cases place.errorIn? doc <;> rfl

theorem exists_of_firstError? {places : List Place} {doc : Json} {e : DocumentError}
    (h : firstError? places doc = some e) : ∃ kind fault, e = .invalidRecord kind fault := by
  obtain ⟨place, -, hplace⟩ := List.exists_of_findSome?_eq_some h
  rw [errorIn?_eq_at?] at hplace
  obtain ⟨v, -, hv⟩ := Option.bind_eq_some_iff.1 hplace
  obtain ⟨fault, -, rfl⟩ := Option.map_eq_some_iff.1 hv
  exact ⟨place.kind, fault, rfl⟩

theorem errorIn?_congr {ms ns : Members} {place : Place}
    (h : ns.lookup place.key = ms.lookup place.key) :
    place.errorIn? (.object ns) = place.errorIn? (.object ms) := by
  rw [errorIn?, errorIn?, Json.member?, Json.member?, h]

/-- Behind a place with an error nothing counts. -/
theorem firstError?_congr {ms ns : Members} {before after : List Place} {place : Place}
    (herror : (place.errorIn? (.object ms)).isSome)
    (hsame : ∀ p ∈ before ++ [place], ns.lookup p.key = ms.lookup p.key) :
    firstError? (before ++ place :: after) (.object ns) =
      firstError? (before ++ place :: after) (.object ms) := by
  obtain ⟨e, he⟩ := Option.isSome_iff_exists.1 herror
  have hplace : place.errorIn? (.object ns) = some e :=
    (errorIn?_congr (hsame place (by simp))).trans he
  have hbefore : before.findSome? (errorIn? (.object ns)) =
      before.findSome? (errorIn? (.object ms)) := by
    have hall := fun p hp => errorIn?_congr (hsame p (List.mem_append_left _ hp))
    clear hsame
    induction before with
    | nil => rfl
    | cons p before ih =>
      rw [List.findSome?_cons, List.findSome?_cons, hall p List.mem_cons_self,
        ih fun q hq => hall q (List.mem_cons_of_mem p hq)]
  rw [firstError?, firstError?, List.findSome?_append, List.findSome?_append, hbefore,
    List.findSome?_cons, List.findSome?_cons, hplace, he]

end Place

namespace Document
variable {α : Type} {doc : Json} {key : String} {kind : RecordKind}

def Missing (doc : Json) (key : String) : Prop :=
  doc.member? key = none ∨ doc.member? key = some .null

theorem at?_eq_none_iff : at? doc key = none ↔ Missing doc key := by
  rw [at?, Missing]
  cases doc.member? key with
  | none => simp
  | some v => cases v <;> simp [Json.isNull]

theorem at?_eq_some_iff {v : Json} :
    at? doc key = some v ↔ doc.member? key = some v ∧ v ≠ .null := by
  rw [at?, Option.filter_eq_some_iff]
  cases v <;> simp [Json.isNull]

section Records
variable [Codec α]

theorem faultIn?_readRecord (kind : RecordKind) (v : Json) :
    faultIn? (readRecord kind v : Except DocumentError α) =
      (faultOf α v).map (.invalidRecord kind) := faultIn?_mapError _

theorem faultIn?_requiredRecord (h : ¬ Missing doc key) :
    faultIn? (requiredRecord doc key kind : Except DocumentError α) =
      Place.errorIn? doc ⟨kind, key, faultOf α⟩ := by
  rw [Place.errorIn?_eq_at?, requiredRecord]
  cases hv : at? doc key with
  | none => exact absurd (at?_eq_none_iff.1 hv) h
  | some v => exact faultIn?_readRecord kind v

theorem faultIn?_optionalRecord :
    faultIn? (optionalRecord doc key kind : Except DocumentError (Option α)) =
      Place.errorIn? doc ⟨kind, key, faultOf α⟩ := by
  rw [Place.errorIn?_eq_at?, optionalRecord]
  cases at? doc key with
  | none => rfl
  | some v => exact (faultIn?_map some).trans (faultIn?_readRecord kind v)

theorem faultIn?_optionalPage :
    faultIn? (optionalPage doc key kind : Except DocumentError (SearchPage α)) =
      Place.errorIn? doc ⟨kind, key, faultOf (SearchPage α)⟩ := by
  rw [Place.errorIn?_eq_at?, optionalPage]
  cases at? doc key with
  | none => rfl
  | some v => exact faultIn?_readRecord kind v

def RecordAt (doc : Json) (key : String) (o : Option α) : Prop :=
  (Missing doc key → o = none) ∧
    ∀ v, doc.member? key = some v → v ≠ .null → ∃ r, Codec.read v = .ok r ∧ o = some r

/-- The page of a document at a key, an empty one of no items in all where it is missing. -/
def PageAt (doc : Json) (key : String) (page : SearchPage α) : Prop :=
  (Missing doc key → page = ⟨[], ⟨0⟩⟩) ∧
    ∀ v, doc.member? key = some v → v ≠ .null → Codec.read v = .ok page

theorem recordAt_of_readsIfAny {o : Option α} (h : ReadsIfAny (at? doc key) o) :
    RecordAt doc key o := by
  unfold ReadsIfAny at h
  constructor
  · intro hm
    rw [at?_eq_none_iff.2 hm] at h
    cases h
    rfl
  · intro v hv hn
    rw [at?_eq_some_iff.2 ⟨hv, hn⟩] at h
    cases h with
    | some hr => exact ⟨_, hr, rfl⟩

theorem pageAt_of_pageReads {page : SearchPage α} (h : PageReads (at? doc key) page) :
    PageAt doc key page := by
  obtain ⟨hv, rfl⟩ | ⟨x, hx, hr⟩ := h
  · have hm := at?_eq_none_iff.1 hv
    refine ⟨fun _ => rfl, fun v hv hn => ?_⟩
    rcases hm with hm | hm <;> simp_all
  · obtain ⟨hx, hn⟩ := at?_eq_some_iff.1 hx
    constructor
    · intro hm
      rcases hm with hm | hm <;> simp_all
    · intro v hv _
      obtain rfl : x = v := Option.some.inj (hx.symm.trans hv)
      exact hr

end Records

def errorOf? (places : List Place) (doc : Json) : Option DocumentError :=
  match doc with
  | .object ms =>
    if at? (.object ms) "elementInstance" = none then some (.missingField "elementInstance")
    else Place.firstError? places (.object ms)
  | v => some (.notAnObject (Found.ofJson v))

theorem faultIn?_readObject {β : Type} {places : List Place}
    {next : Json → ElementInstance → Except DocumentError β}
    (h : ∀ doc element, faultIn? (next doc element) = Place.firstError? places doc) (doc : Json) :
    faultIn? (readObject (fun doc =>
      requiredRecord doc "elementInstance" .elementInstance >>= next doc) doc) =
      errorOf? (⟨.elementInstance, "elementInstance", faultOf ElementInstance⟩ :: places) doc := by
  cases doc with
  | object ms =>
    rw [readObject, errorOf?]
    split
    · next hm =>
      rw [requiredRecord, hm]
      rfl
    · next hm =>
      rw [Place.firstError?_cons, ← faultIn?_requiredRecord (mt at?_eq_none_iff.2 hm)]
      exact faultIn?_bind fun element _ => h _ element
  | _ => rfl

/-- How a document with records at these places is read: no object is no document; an object needs
its element, whatever else it holds; then the first error in the order of the places counts, and
nothing behind it; without one reading succeeds. -/
structure StopsAtFirst {β : Type} (places : List Place) (read : Json → Except DocumentError β)
    (Holds : Json → β → Prop) : Prop where
  notAnObject_iff (doc : Json) (found : Found) : read doc = .error (.notAnObject found) ↔
    (¬ ∃ ms, doc = .object ms) ∧ found = Found.ofJson doc
  missingField_iff (ms : Members) (key : String) :
    read (.object ms) = .error (.missingField key) ↔
      key = "elementInstance" ∧ Missing (.object ms) "elementInstance"
  invalidRecord_iff (ms : Members) (kind : RecordKind) (fault : Fault) :
    ¬ Missing (.object ms) "elementInstance" →
      (read (.object ms) = .error (.invalidRecord kind fault) ↔
        Place.firstError? places (.object ms) = some (.invalidRecord kind fault))
  ok_iff (ms : Members) : ¬ Missing (.object ms) "elementInstance" →
    ((∃ b, read (.object ms) = .ok b) ↔ Place.firstError? places (.object ms) = none)
  holds (ms : Members) (b : β) : read (.object ms) = .ok b → Holds (.object ms) b
  ignores_later (ms ns : Members) (before after : List Place) (place : Place) :
    places = before ++ place :: after → (place.errorIn? (.object ms)).isSome →
      (∀ p ∈ before ++ [place], ns.lookup p.key = ms.lookup p.key) →
        read (.object ns) = read (.object ms)

theorem errorOf?_congr {ms ns : Members} {before after : List Place} {place : Place}
    (hfirst : ∀ p ∈ (before ++ place :: after).head?, p.key = "elementInstance")
    (herror : (place.errorIn? (.object ms)).isSome)
    (hsame : ∀ p ∈ before ++ [place], ns.lookup p.key = ms.lookup p.key) :
    errorOf? (before ++ place :: after) (.object ns) =
      errorOf? (before ++ place :: after) (.object ms) := by
  have helement : ns.lookup "elementInstance" = ms.lookup "elementInstance" := by
    cases before with
    | nil =>
      rw [← hfirst place rfl]
      exact hsame place List.mem_cons_self
    | cons p before =>
      rw [← hfirst p rfl]
      exact hsame p List.mem_cons_self
  rw [errorOf?, errorOf?, at?, at?, Json.member?, Json.member?, helement,
    Place.firstError?_congr herror hsame]

theorem stopsAtFirst_of_faultIn? {β : Type} {places : List Place}
    {read : Json → Except DocumentError β} {Holds : Json → β → Prop}
    (hfirst : ∀ p ∈ places.head?, p.key = "elementInstance")
    (hfault : ∀ doc, faultIn? (read doc) = errorOf? places doc)
    (hholds : ∀ ms b, read (.object ms) = .ok b → Holds (.object ms) b) :
    StopsAtFirst places read Holds where
  notAnObject_iff doc found := by
    rw [← faultIn?_eq_some_iff, hfault]
    cases doc with
    | object ms =>
      rw [errorOf?]
      split
      · simp
      · refine ⟨fun h => ?_, fun h => absurd ⟨ms, rfl⟩ h.1⟩
        obtain ⟨kind, fault, he⟩ := Place.exists_of_firstError? h
        cases he
    | _ => simp [errorOf?, eq_comm]
  missingField_iff ms key := by
    rw [← faultIn?_eq_some_iff, hfault, errorOf?, ← at?_eq_none_iff]
    split
    · next hm => simp [hm, eq_comm]
    · next hm =>
      refine ⟨fun h => ?_, fun h => absurd h.2 hm⟩
      obtain ⟨kind, fault, he⟩ := Place.exists_of_firstError? h
      cases he
  invalidRecord_iff ms kind fault hm := by
    rw [← faultIn?_eq_some_iff, hfault, errorOf?, if_neg (mt at?_eq_none_iff.1 hm)]
  ok_iff ms hm := by
    rw [← faultIn?_eq_none_iff, hfault, errorOf?, if_neg (mt at?_eq_none_iff.1 hm)]
  holds := hholds
  ignores_later ms ns before after place hplaces herror hsame := by
    subst hplaces
    have hcongr := errorOf?_congr hfirst herror hsame
    rw [← hfault, ← hfault] at hcongr
    cases he : faultIn? (read (.object ms)) with
    | none =>
      rw [hfault, errorOf?] at he
      split at he
      · cases he
      · rw [Place.firstError?, List.findSome?_eq_none_iff] at he
        rw [he place (by simp)] at herror
        cases herror
    | some e => rw [faultIn?_eq_some_iff.1 (hcongr.trans he), faultIn?_eq_some_iff.1 he]

end Document

open Document

namespace Sources

def places : List Place :=
  [ ⟨.elementInstance, "elementInstance", faultOf ElementInstance⟩,
    ⟨.job, "job", faultOf Job⟩,
    ⟨.processInstance, "calledProcessInstance", faultOf ProcessInstance⟩,
    ⟨.decisionInstance, "decisionInstance", faultOf DecisionInstance⟩,
    ⟨.userTask, "userTask", faultOf TaskDetails⟩ ]

def HeldBy (doc : Json) (sources : Sources) : Prop :=
  RecordAt doc "elementInstance" (some sources.element) ∧
  RecordAt doc "job" sources.job ∧
  RecordAt doc "calledProcessInstance" sources.calledProcess ∧
  RecordAt doc "decisionInstance" sources.decision ∧
  RecordAt doc "userTask" sources.userTask

theorem faultIn?_ofJson (doc : Json) : faultIn? (ofJson doc) = errorOf? places doc := by
  refine faultIn?_readObject (fun doc element => ?_) doc
  simp only [Place.firstError?_cons, Place.firstError?_nil, ← faultIn?_optionalRecord]
  exact faultIn?_bind fun _ _ => faultIn?_bind fun _ _ => faultIn?_bind fun _ _ =>
    faultIn?_bind fun _ _ => rfl

theorem heldBy_of_ofJson {doc : Json} {sources : Sources} (h : ofJson doc = .ok sources) :
    HeldBy doc sources := by
  obtain ⟨-, ⟨v, hv, he⟩, hj, hc, hd, ht⟩ := ofJson_eq_ok_iff.1 h
  have helement : ReadsIfAny (at? doc "elementInstance") (some sources.element) := by
    rw [hv]
    exact .some he
  exact ⟨recordAt_of_readsIfAny helement, recordAt_of_readsIfAny hj, recordAt_of_readsIfAny hc,
    recordAt_of_readsIfAny hd, recordAt_of_readsIfAny ht⟩

end Sources

namespace LinkedPages

def places : List Place :=
  [ ⟨.elementInstance, "elementInstance", faultOf ElementInstance⟩,
    ⟨.job, "jobs", faultOf (SearchPage Job)⟩,
    ⟨.processInstance, "processInstances", faultOf (SearchPage ProcessInstance)⟩,
    ⟨.decisionInstance, "decisionInstances", faultOf (SearchPage DecisionInstance)⟩,
    ⟨.userTask, "userTasks", faultOf (SearchPage UserTask)⟩ ]

def HeldBy (doc : Json) (pages : LinkedPages) : Prop :=
  RecordAt doc "elementInstance" (some pages.element) ∧
  PageAt doc "jobs" pages.jobs ∧
  PageAt doc "processInstances" pages.processInstances ∧
  PageAt doc "decisionInstances" pages.decisionInstances ∧
  PageAt doc "userTasks" pages.userTasks

theorem faultIn?_ofJson (doc : Json) : faultIn? (ofJson doc) = errorOf? places doc := by
  refine faultIn?_readObject (fun doc element => ?_) doc
  simp only [Place.firstError?_cons, Place.firstError?_nil, ← faultIn?_optionalPage]
  exact faultIn?_bind fun _ _ => faultIn?_bind fun _ _ => faultIn?_bind fun _ _ =>
    faultIn?_bind fun _ _ => rfl

theorem heldBy_of_ofJson {doc : Json} {pages : LinkedPages} (h : ofJson doc = .ok pages) :
    HeldBy doc pages := by
  obtain ⟨-, ⟨v, hv, he⟩, hj, hc, hd, ht⟩ := ofJson_eq_ok_iff.1 h
  have helement : ReadsIfAny (at? doc "elementInstance") (some pages.element) := by
    rw [hv]
    exact .some he
  exact ⟨recordAt_of_readsIfAny helement, pageAt_of_pageReads hj, pageAt_of_pageReads hc,
    pageAt_of_pageReads hd, pageAt_of_pageReads ht⟩

end LinkedPages

namespace Document

def HasUnreadableItem (α : Type) [Codec α] (page : Json) : Prop :=
  ∃ vs item fault, SearchPage.rawItems? page = some (.array vs) ∧ item ∈ vs ∧
    (Codec.read item : Except Fault α) = .error fault

def HoldsUnreadableItem (doc : Json) : Prop :=
  (∃ page, doc.member? "jobs" = some page ∧ HasUnreadableItem Job page) ∨
  (∃ page, doc.member? "processInstances" = some page ∧ HasUnreadableItem ProcessInstance page) ∨
  (∃ page, doc.member? "decisionInstances" = some page ∧
    HasUnreadableItem DecisionInstance page) ∨
  ∃ page, doc.member? "userTasks" = some page ∧ HasUnreadableItem UserTask page

theorem HasUnreadableItem.read_ne {α : Type} [Codec α] {v : Json} (h : HasUnreadableItem α v)
    (page : SearchPage α) : Codec.read v ≠ .ok page := by
  intro hread
  obtain ⟨vs, item, fault, hraw, hitem, hfault⟩ := h
  obtain ⟨ws, hws, hall⟩ := SearchPage.itemsAt_of_read hread
  rw [hraw, Option.getD_some] at hws
  obtain rfl := Json.array.inj hws
  obtain ⟨r, hr⟩ := hall.exists_item hitem
  rw [hfault] at hr
  cases hr

theorem PageAt.not_hasUnreadableItem {α : Type} [Codec α] {doc v : Json} {key : String}
    {page : SearchPage α} (h : PageAt doc key page) (hv : doc.member? key = some v) :
    ¬ HasUnreadableItem α v := by
  intro hitem
  have hn : v ≠ .null := by
    rintro rfl
    obtain ⟨vs, item, fault, hraw, -⟩ := hitem
    cases hraw
  exact hitem.read_ne page (h.2 v hv hn)

theorem exists_error_of_unreadable {doc : Json} (h : HoldsUnreadableItem doc) :
    ∃ e, LinkedPages.ofJson doc = .error e := by
  cases hread : LinkedPages.ofJson doc with
  | error e => exact ⟨e, rfl⟩
  | ok pages =>
    obtain ⟨-, hjobs, hprocesses, hdecisions, htasks⟩ := LinkedPages.heldBy_of_ofJson hread
    obtain ⟨v, hv, hitem⟩ | ⟨v, hv, hitem⟩ | ⟨v, hv, hitem⟩ | ⟨v, hv, hitem⟩ := h
    · exact absurd hitem (hjobs.not_hasUnreadableItem hv)
    · exact absurd hitem (hprocesses.not_hasUnreadableItem hv)
    · exact absurd hitem (hdecisions.not_hasUnreadableItem hv)
    · exact absurd hitem (htasks.not_hasUnreadableItem hv)

/-- Both documents are read in the order of their places. Of linked pages every item is read, even
on a page that is not searched for the element's type. -/
theorem documents_read_in_order :
    StopsAtFirst Sources.places Sources.ofJson Sources.HeldBy ∧
    StopsAtFirst LinkedPages.places LinkedPages.ofJson LinkedPages.HeldBy ∧
    ∀ doc, HoldsUnreadableItem doc → ∃ e, LinkedPages.ofJson doc = .error e := by
  refine ⟨?sources, ?pages, fun _ => exists_error_of_unreadable⟩
  case sources =>
    refine stopsAtFirst_of_faultIn? ?_ Sources.faultIn?_ofJson
      fun _ _ => Sources.heldBy_of_ofJson
    rintro _ ⟨⟩
    rfl
  case pages =>
    refine stopsAtFirst_of_faultIn? ?_ LinkedPages.faultIn?_ofJson
      fun _ _ => LinkedPages.heldBy_of_ofJson
    rintro _ ⟨⟩
    rfl

def numberAmongTasks : Json := .object
  [ ("elementInstance", .object
      [ ("elementInstanceKey", .string "7"), ("elementId", .string "charge"),
        ("type", .string "SERVICE_TASK"), ("state", .string "ACTIVE") ]),
    ("processInstances", .null),
    ("userTasks", .object
      [ ("items", .array [ .object [("name", .string "review")], .integer (.ofInt64 3) ]) ]) ]

theorem number_among_tasks_is_refused : HoldsUnreadableItem numberAmongTasks ∧
    (∃ e, LinkedPages.ofJson numberAmongTasks = .error e) ∧
    LinkedPages.ofJson numberAmongTasks =
      .error (.invalidRecord .userTask (.wrongType (.integer 3) (.record "UserTask"))) := by
  have hitem : HoldsUnreadableItem numberAmongTasks :=
    .inr (.inr (.inr ⟨_, rfl, _, .integer (.ofInt64 3), _, rfl, by simp, rfl⟩))
  refine ⟨hitem, documents_read_in_order.2.2 numberAmongTasks hitem, ?_⟩
  refine (documents_read_in_order.2.1.invalidRecord_iff _ _ _ ?_).2 rfl
  rintro (h | h) <;> cases h

end Document
end ElementMetadata
