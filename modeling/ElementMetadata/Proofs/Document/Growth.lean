import ElementMetadata.Proofs.Document
import ElementMetadata.Proofs.Process.SearchPage
import ElementMetadata.Proofs.Record.Growth
import ElementMetadata.Summary

/-!
Documents that grow by keys that are not known where they are added: in the document, its records
and pages, the information of a page and the records among its items. They are read as before, with
the same faults, since every form on the way is blind to such growth.
-/
namespace ElementMetadata
open Document

/-- Growth of a record by keys that are none of its fields. No field itself grows. -/
def Grows (α : Type) [Codec α] [Tabular α] : Growth :=
  RecordGrows (fixedKeys (Field.keys (Tabular.fields (α := α))))

-- A user task by itself has thirteen keys; an item of a page has five more.
example : (Field.keys (Tabular.fields (α := TaskDetails))).length = 13 ∧
    (Field.keys (Tabular.fields (α := UserTask))).length = 13 + 5 := by decide

def PageGrows (α : Type) [Codec α] [Tabular α] : Growth :=
  RecordGrows [("items", ListGrows (Grows α)), ("page", Grows PageInfo)]

def Sources.known : KnownKeys :=
  [ ("elementInstance", Grows ElementInstance), ("job", Grows Job),
    ("calledProcessInstance", Grows ProcessInstance), ("decisionInstance", Grows DecisionInstance),
    ("userTask", Grows TaskDetails) ]

def LinkedPages.known : KnownKeys :=
  [ ("elementInstance", Grows ElementInstance), ("jobs", PageGrows Job),
    ("processInstances", PageGrows ProcessInstance),
    ("decisionInstances", PageGrows DecisionInstance), ("userTasks", PageGrows UserTask) ]

theorem blind_fields {ρ : Type} {fields : List (Field ρ)} {name : String}
    (hn : (Field.keys fields).Nodup) :
    (Form.record name (Field.slots fields)).Blind (RecordGrows (fixedKeys (Field.keys fields))) := by
  have hkeys : (fixedKeys (Field.keys fields)).map Prod.fst = Field.keys fields := by
    simp [fixedKeys, Function.comp_def]
  refine Form.blind_record (by rwa [hkeys]) ?_
  rw [fixedKeys, Field.keys, Field.slots, List.map_map, List.forall₂_map_left_iff,
    List.forall₂_map_right_iff, List.forall₂_same]
  exact fun _ _ => ⟨rfl, Form.blind_eq _⟩

/-- Records whose reading is blind to growth at keys that are none of their fields. -/
class Growable (α : Type) [Codec α] [Tabular α] : Prop where
  blind : (Codec.form α).Blind (Grows α)

instance : Growable ElementInstance := ⟨blind_fields Tabular.keys_nodup⟩

instance : Growable Job := ⟨blind_fields Tabular.keys_nodup⟩

instance : Growable ProcessInstance := ⟨blind_fields Tabular.keys_nodup⟩

instance : Growable DecisionInstance := ⟨blind_fields Tabular.keys_nodup⟩

instance : Growable TaskDetails := ⟨blind_fields Tabular.keys_nodup⟩

instance : Growable PageInfo := ⟨blind_fields Tabular.keys_nodup⟩

instance : Growable UserTask where
  blind := by
    have hkeys : Field.keys (Tabular.fields (α := UserTask)) =
        (Field.slots UserTask.ownFields ++ Field.slots TaskDetails.fields).map Slot.key := rfl
    rw [Grows, hkeys]
    exact Form.blind_merged

theorem blind_page {α : Type} [Codec α] [Tabular α] [Growable α] :
    (Codec.form (SearchPage α)).Blind (PageGrows α) :=
  Form.blind_record (by simp)
    (.cons ⟨rfl, Growable.blind.list⟩ (.cons ⟨rfl, Growable.blind⟩ .nil))

namespace Document
variable {α : Type} [Codec α] {known inner : KnownKeys} {ms ns : Members} {key : String}
  {kind : RecordKind}

theorem at?_of_grows (hn : (known.map Prod.fst).Nodup) (hk : (key, RecordGrows inner) ∈ known)
    (h : MembersGrow known ms ns) :
    (at? (.object ms) key = none ∧ at? (.object ns) key = none) ∨
      ∃ v w, at? (.object ms) key = some v ∧ at? (.object ns) key = some w ∧
        RecordGrows inner v w := by
  have hrel := h.lookup hn hk fun _ => .same
  rw [at?, at?, Json.member?, Json.member?]
  generalize ms.lookup key = before at hrel
  generalize ns.lookup key = after at hrel
  cases hrel with
  | none => exact .inl ⟨rfl, rfl⟩
  | @some v w hvw =>
    rw [Option.filter_some, Option.filter_some, hvw.isNull_eq]
    cases v.isNull with
    | false => exact .inr ⟨v, w, rfl, rfl, hvw⟩
    | true => exact .inl ⟨rfl, rfl⟩

theorem readRecord_of_grows (hblind : (Codec.form α).Blind (RecordGrows inner)) {v w : Json}
    (h : RecordGrows inner v w) :
    (readRecord kind w : Except DocumentError α) = readRecord kind v := by
  rw [readRecord, readRecord, Codec.read, Codec.read, hblind v w h]

variable [Tabular α] [Growable α]

theorem requiredRecord_of_grows (hn : (known.map Prod.fst).Nodup) (hk : (key, Grows α) ∈ known)
    (h : MembersGrow known ms ns) :
    (requiredRecord (.object ns) key kind : Except DocumentError α) =
      requiredRecord (.object ms) key kind := by
  rw [requiredRecord, requiredRecord]
  obtain ⟨hv, hw⟩ | ⟨v, w, hv, hw, hvw⟩ := at?_of_grows hn hk h
  · rw [hv, hw]
  · rw [hv, hw]
    exact readRecord_of_grows Growable.blind hvw

theorem optionalRecord_of_grows (hn : (known.map Prod.fst).Nodup) (hk : (key, Grows α) ∈ known)
    (h : MembersGrow known ms ns) :
    (optionalRecord (.object ns) key kind : Except DocumentError (Option α)) =
      optionalRecord (.object ms) key kind := by
  rw [optionalRecord, optionalRecord]
  obtain ⟨hv, hw⟩ | ⟨v, w, hv, hw, hvw⟩ := at?_of_grows hn hk h
  · rw [hv, hw]
  · rw [hv, hw]
    exact congrArg (Except.map some) (readRecord_of_grows Growable.blind hvw)

theorem optionalPage_of_grows (hn : (known.map Prod.fst).Nodup) (hk : (key, PageGrows α) ∈ known)
    (h : MembersGrow known ms ns) :
    (optionalPage (.object ns) key kind : Except DocumentError (SearchPage α)) =
      optionalPage (.object ms) key kind := by
  rw [optionalPage, optionalPage]
  obtain ⟨hv, hw⟩ | ⟨v, w, hv, hw, hvw⟩ := at?_of_grows hn hk h
  · rw [hv, hw]
  · rw [hv, hw]
    exact readRecord_of_grows blind_page hvw

theorem readObject_of_grows {β : Type} {read : Json → Except DocumentError β}
    (h : ∀ ms ns, MembersGrow known ms ns → read (.object ns) = read (.object ms)) {doc grown : Json}
    (hgrows : RecordGrows known doc grown) : readObject read grown = readObject read doc := by
  cases hgrows with
  | same => rfl
  | members hms => exact h _ _ hms
  | fields => rfl

end Document

theorem Sources.ofJson_of_grows {doc grown : Json} (h : RecordGrows known doc grown) :
    ofJson grown = ofJson doc := by
  refine readObject_of_grows (fun ms ns hms => ?_) h
  have hn : (known.map Prod.fst).Nodup := by decide
  rw [requiredRecord_of_grows (α := ElementInstance) hn (by simp [known]) hms,
    optionalRecord_of_grows (α := Job) hn (by simp [known]) hms,
    optionalRecord_of_grows (α := ProcessInstance) hn (by simp [known]) hms,
    optionalRecord_of_grows (α := DecisionInstance) hn (by simp [known]) hms,
    optionalRecord_of_grows (α := TaskDetails) hn (by simp [known]) hms]

theorem LinkedPages.ofJson_of_grows {doc grown : Json} (h : RecordGrows known doc grown) :
    ofJson grown = ofJson doc := by
  refine readObject_of_grows (fun ms ns hms => ?_) h
  have hn : (known.map Prod.fst).Nodup := by decide
  rw [requiredRecord_of_grows (α := ElementInstance) hn (by simp [known]) hms,
    optionalPage_of_grows (α := Job) hn (by simp [known]) hms,
    optionalPage_of_grows (α := ProcessInstance) hn (by simp [known]) hms,
    optionalPage_of_grows (α := DecisionInstance) hn (by simp [known]) hms,
    optionalPage_of_grows (α := UserTask) hn (by simp [known]) hms]

def Summary.ofDescribed (described : Except DocumentError (Logged Event Metadata))
    (now : Timestamp) (runningSuffix : String) : Except DocumentError (Logged Event Summary) :=
  described.map fun m => do Summary.ofMetadata (← m) now runningSuffix

/-- A document that grows by unknown keys, wherever they are added, is read as before or refused for
the same reason, and describes the same metadata, events and summary. -/
theorem unknown_keys_change_nothing :
    (∀ doc grown, RecordGrows Sources.known doc grown →
      Sources.ofJson grown = Sources.ofJson doc ∧
      Metadata.ofSourcesDocument grown = Metadata.ofSourcesDocument doc ∧
      ∀ now suffix, Summary.ofDescribed (Metadata.ofSourcesDocument grown) now suffix =
        Summary.ofDescribed (Metadata.ofSourcesDocument doc) now suffix) ∧
    ∀ doc grown, RecordGrows LinkedPages.known doc grown →
      LinkedPages.ofJson grown = LinkedPages.ofJson doc ∧
      Metadata.ofPagesDocument grown = Metadata.ofPagesDocument doc ∧
      ∀ now suffix, Summary.ofDescribed (Metadata.ofPagesDocument grown) now suffix =
        Summary.ofDescribed (Metadata.ofPagesDocument doc) now suffix := by
  constructor
  · intro doc grown h
    have hread := Sources.ofJson_of_grows h
    have hmetadata : Metadata.ofSourcesDocument grown = Metadata.ofSourcesDocument doc := by
      rw [Metadata.ofSourcesDocument, Metadata.ofSourcesDocument, hread]
    exact ⟨hread, hmetadata, fun now suffix => by rw [hmetadata]⟩
  · intro doc grown h
    have hread := LinkedPages.ofJson_of_grows h
    have hmetadata : Metadata.ofPagesDocument grown = Metadata.ofPagesDocument doc := by
      rw [Metadata.ofPagesDocument, Metadata.ofPagesDocument, hread]
    exact ⟨hread, hmetadata, fun now suffix => by rw [hmetadata]⟩

def misreadJob (more : Members → Members) : Json := .object <| more
  [ ("elementInstance", .object <| more
      [ ("elementId", .string "charge"), ("elementInstanceKey", .string "7"),
        ("state", .string "ACTIVE"), ("type", .string "SERVICE_TASK") ]),
    ("jobs", .object <| more
      [ ("items", .array
          [ .object <| more [ ("jobKey", .string "3"), ("retries", .string "two") ] ]),
        ("page", .object <| more [ ("totalItems", .integer (.ofInt64 1)) ]) ]) ]

/-- A priority is a field of a user task, and unknown to all objects of these pages. -/
theorem misread_job_with_priorities_is_refused_alike :
    let grown := misreadJob (Json.insertMember "priority" (.string "high"))
    RecordGrows LinkedPages.known (misreadJob id) grown ∧
    LinkedPages.ofJson grown = LinkedPages.ofJson (misreadJob id) ∧
    LinkedPages.ofJson grown =
      .error (.invalidRecord .job (.wrongType (.text "two") (.integer .signed64))) := by
  intro grown
  have hput {known : KnownKeys} {ms ns : Members} (h : MembersGrow known ms ns)
      (hkeys : "priority" ∉ known.map Prod.fst) (hfresh : "priority" ∉ ns.map Prod.fst) :
      RecordGrows known (.object ms)
        (.object (Json.insertMember "priority" (.string "high") ns)) := by
    refine .members (h.insertMember (fun k hk heq => hkeys ?_) (fun m hm heq => hfresh ?_))
    · exact heq ▸ List.mem_map_of_mem hk
    · exact heq ▸ List.mem_map_of_mem hm
  have hitem : Grows Job _ _ :=
    hput (.refl _ [ ("jobKey", .string "3"), ("retries", .string "two") ]) (by decide) (by decide)
  have hinfo : Grows PageInfo _ _ :=
    hput (.refl _ [ ("totalItems", .integer (.ofInt64 1)) ]) (by decide) (by decide)
  have hpage : PageGrows Job _ _ :=
    hput (.grow (.head _) (.items (.cons hitem .nil)) (.grow (.tail _ (.head _)) hinfo .nil))
      (by decide) (by decide)
  have helement : Grows ElementInstance _ _ := hput
    (.refl _ [ ("elementId", .string "charge"), ("elementInstanceKey", .string "7"),
      ("state", .string "ACTIVE"), ("type", .string "SERVICE_TASK") ]) (by decide) (by decide)
  have h : RecordGrows LinkedPages.known (misreadJob id) grown :=
    hput (.grow (.head _) helement (.grow (.tail _ (.head _)) hpage .nil)) (by decide) (by decide)
  exact ⟨h, (unknown_keys_change_nothing.2 _ _ h).1, rfl⟩

end ElementMetadata
