import ElementMetadata.Proofs.Process.Records

/-!
A task and its details in one object. The task is read in two passes over the object and the details
are read by themselves in one, and both come to the same: the task is refused for no other reason
than its details or a field of its own.
-/
namespace ElementMetadata
open WellFormed

theorem TaskDetails.read_of_read {v : Json} {t : UserTask} (h : Codec.read v = .ok t) :
    Codec.read v = .ok t.details := by
  cases v with
  | object ms =>
    obtain ⟨ha, hc, -⟩ := Tabular.read_object_eq_ok_iff.1 h
    have hs : Field.slots (Tabular.fields (α := UserTask)) =
        Field.slots UserTask.ownFields ++ Field.slots TaskDetails.fields := UserTask.slots_fields
    rw [hs] at ha hc
    have hread : Codec.read (.object ms) = .ok (Codec.ofNormal
        (Slot.keptAll (Field.slots TaskDetails.fields) ms) : TaskDetails) :=
      Tabular.read_object_eq_ok_iff.2 ⟨(Form.accepts_append.1 ha).2,
        fun slot hslot => hc slot (List.mem_append_right _ hslot), rfl⟩
    rw [hread]
    -- The forms of both differ, but what they write at each key is what the object holds there.
    have hp : Proper t := Plain.proper_of_read h
    refine congrArg _ (Plain.eq_of_write_eq _ _ (Plain.proper_of_read hread) hp fun f hf => ?_)
    have hw : f.within UserTask.details ∈ UserTask.fields :=
      List.mem_append_right _ (List.mem_map_of_mem hf)
    have htask := Plain.write_of_read h hw
    have hdetails := Plain.write_of_read hread hf
    rw [hdetails]
    exact htask.symm
  | _ => cases h

namespace UserTask
variable {ms : Members}

def ownTexts : List (String × (UserTask → Option String)) :=
  [ ("elementInstanceKey", elementInstanceKey),
    ("elementId", elementId),
    ("name", name),
    ("processInstanceKey", processInstanceKey),
    ("tenantId", tenantId) ]

theorem ownFields_eq : ownFields =
    ownTexts.map fun own => .optional own.1 .text fun t => (own.2 t).map .string := rfl

theorem accepts_ownFields : Slot.Accepts (Field.slots ownFields) ms ↔
    ∀ own ∈ ownTexts, ∀ v, (own.1, v) ∈ ms → v = .null ∨ ∃ s, v = .string s := by
  have hslots : Field.slots ownFields =
      ownTexts.map fun own => ⟨own.1, false, Form.text.optional⟩ := rfl
  rw [hslots]
  constructor
  · intro h own hown v hv
    exact Form.exists_ofValue_optional_text.1 (h _ hv _ (List.mem_map_of_mem hown) rfl)
  · intro h m hm slot hslot hkey
    obtain ⟨own, hown, rfl⟩ := List.mem_map.1 hslot
    dsimp only at hkey
    apply Form.exists_ofValue_optional_text.2
    apply h own hown
    rwa [hkey]

theorem exists_read_iff : (∃ t : UserTask, Codec.read (.object ms) = .ok t) ↔
    (∃ d : TaskDetails, Codec.read (.object ms) = .ok d) ∧
      Slot.Accepts (Field.slots ownFields) ms := by
  have hs : Field.slots (Tabular.fields (α := UserTask)) =
      Field.slots ownFields ++ Field.slots TaskDetails.fields := slots_fields
  have hd : Field.slots (Tabular.fields (α := TaskDetails)) = Field.slots TaskDetails.fields := rfl
  rw [Tabular.exists_read_iff (by decide), Tabular.exists_read_iff (by decide), hs, hd,
    Form.accepts_append, and_comm]

/-- An object is read as a task exactly if it is read as details and each own field is absent, null or
a string there. The details of the task are then what is read as details, and its own texts are
those of the object. -/
theorem read_object_as_details (ms : Members) :
    ((∃ t : UserTask, Codec.read (.object ms) = .ok t) ↔
      (∃ d : TaskDetails, Codec.read (.object ms) = .ok d) ∧
        ∀ own ∈ ownTexts, ∀ v, (own.1, v) ∈ ms → v = .null ∨ ∃ s, v = .string s) ∧
    ∀ t : UserTask, Codec.read (.object ms) = .ok t →
      Codec.read (.object ms) = .ok t.details ∧
        ∀ own ∈ ownTexts, own.2 t = (Json.object ms).text? own.1 := by
  refine ⟨by rw [exists_read_iff, accepts_ownFields], ?_⟩
  intro t ht
  refine ⟨TaskDetails.read_of_read ht, ?_⟩
  intro own hown
  have hfield : Field.optional own.1 .text (fun t => (own.2 t).map .string) ∈
      Tabular.fields (α := UserTask) := by
    apply List.mem_append_left
    rw [ownFields_eq]
    exact List.mem_map_of_mem hown
  exact (Plain.text?_of_read ht hfield rfl).symm

theorem unnamed_task_is_read_as_details : ∃ t : UserTask,
    Codec.read (.object [("assignee", .string "bob"), ("elementId", .string "Task_1"), ("name", .null)]) =
      .ok t ∧
    Codec.read (.object [("assignee", .string "bob"), ("elementId", .string "Task_1"), ("name", .null)]) =
      .ok t.details ∧
    t.details.assignee = some "bob" ∧ t.elementId = some "Task_1" ∧ t.name = none := by
  obtain ⟨hread, hagree⟩ := read_object_as_details
    [("assignee", .string "bob"), ("elementId", .string "Task_1"), ("name", .null)]
  have hdetails : Codec.read (.object
      [("assignee", .string "bob"), ("elementId", .string "Task_1"), ("name", .null)]) =
    .ok ({ assignee := some "bob" } : TaskDetails) := rfl
  obtain ⟨t, ht⟩ := hread.2 ⟨⟨_, hdetails⟩, by simp [ownTexts]⟩
  obtain ⟨hsame, hown⟩ := hagree t ht
  have hassignee : t.details = { assignee := some "bob" } :=
    Except.ok.inj (hsame.symm.trans hdetails)
  exact ⟨t, ht, hsame, by rw [hassignee], hown ("elementId", elementId) (by simp [ownTexts]),
    hown ("name", name) (by simp [ownTexts])⟩

end UserTask
end ElementMetadata
