import ElementMetadata.Proofs.Metadata.Changes
import ElementMetadata.Proofs.Record.Tabular

/-!
The metadata in JSON tell all that the metadata hold, but for two things: a word is known by its string
alone, and a state does not tell whose state it is. No key stands for two fields.
-/
namespace ElementMetadata

section Equality
variable {α β : Type} [BEq α] [BEq β] {f : α → β}

theorem list_beq_map (h : ∀ x y, (f x == f y) = (x == y)) (xs ys : List α) :
    (xs.map f == ys.map f) = (xs == ys) := by
  induction xs generalizing ys with
  | nil => cases ys <;> rfl
  | cons x xs ih =>
    cases ys with
    | nil => rfl
    | cons y ys => rw [List.map_cons, List.map_cons, List.cons_beq_cons, List.cons_beq_cons, h, ih]

theorem option_beq_map (h : ∀ x y, (f x == f y) = (x == y)) (a b : Option α) :
    (a.map f == b.map f) = (a == b) := by
  cases a with
  | none => cases b <;> rfl
  | some x =>
    cases b with
    | none => rfl
    | some y => exact h x y

end Equality

namespace Json

theorem sameItems_eq_beq (xs ys : List Json) : sameItems xs ys = (xs == ys) := by
  induction xs generalizing ys with
  | nil => cases ys <;> rfl
  | cons x xs ih =>
    cases ys with
    | nil => rfl
    | cons y ys =>
      rw [sameItems, ih, List.cons_beq_cons]
      rfl

theorem sameMembers_eq_beq (ms ns : List (String × Json)) : sameMembers ms ns = (ms == ns) := by
  induction ms generalizing ns with
  | nil => cases ns <;> rfl
  | cons m ms ih =>
    cases ns with
    | nil => rfl
    | cons n ns =>
      rw [sameMembers, ih, List.cons_beq_cons]
      rfl

@[simp] theorem string_beq (a b : String) : (string a == string b) = (a == b) := rfl

@[simp] theorem bool_beq (a b : Bool) : (bool a == bool b) = (a == b) := rfl

@[simp] theorem integer_beq (a b : WireInt) : (integer a == integer b) = (a == b) := rfl

@[simp] theorem object_beq (ms ns : List (String × Json)) : (object ms == object ns) = (ms == ns) :=
  sameMembers_eq_beq ms ns

@[simp] theorem ofTexts_beq (a b : List String) : (ofTexts a == ofTexts b) = (a == b) := by
  change sameItems _ _ = _
  rw [sameItems_eq_beq, list_beq_map string_beq]

@[simp] theorem ofLabels_beq (a b : List (String × String)) :
    (ofLabels a == ofLabels b) = (a == b) := by
  rw [ofLabels, ofLabels, object_beq]
  exact list_beq_map (f := fun m : String × String => (m.1, string m.2)) (fun _ _ => rfl) a b

theorem ofOption_beq_map {α : Type} [BEq α] {f : α → Json} (h : ∀ x y, (f x == f y) = (x == y))
    (hnull : ∀ x, (f x).isNull = false) (a b : Option α) :
    (ofOption (a.map f) == ofOption (b.map f)) = (a == b) := by
  have hne (x : α) : (f x == .null) = false ∧ (.null == f x) = false := by
    have hx := hnull x
    cases hf : f x with
    | null =>
      rw [hf] at hx
      cases hx
    | _ => exact ⟨rfl, rfl⟩
  cases a with
  | none =>
    cases b with
    | none => rfl
    | some y => exact (hne y).2
  | some x =>
    cases b with
    | none => exact (hne x).1
    | some y => exact h x y

end Json

theorem WireInt.ofInt64_beq (a b : Int64) : (ofInt64 a == ofInt64 b) = (a == b) := by
  rw [Bool.eq_iff_iff, beq_iff_eq, beq_iff_eq, ofInt64_inj]

theorem WireInt.ofInt32_beq (a b : Int32) : (ofInt32 a == ofInt32 b) = (a == b) := by
  rw [Bool.eq_iff_iff, beq_iff_eq, beq_iff_eq, ofInt32_inj]

theorem Column.map_fst_written {ρ : Type} (columns : List (Column ρ)) (r : ρ) :
    (columns.filterMap fun column => (column.write r).map (column.key, ·)).map Prod.fst =
      ((columns.map fun column => (column.key, (column.write r).isSome)).filter (·.2)).map
        Prod.fst := by
  induction columns with
  | nil => rfl
  | cons column columns ih =>
    rw [List.map_cons, List.filterMap_cons]
    cases column.write r with
    | none => exact ih
    | some v => exact congrArg (column.key :: ·) ih

namespace ShownState

/-- No listed state is kept as an unlisted one. -/
def Proper : ShownState → Prop
  | .element state => state.Proper
  | .userTask state => state.Proper

def SameOrigin : ShownState → ShownState → Prop
  | .element _, .element _ => True
  | .userTask _, .userTask _ => True
  | _, _ => False

theorem eq_of_text_eq {a b : ShownState} (ha : a.Proper) (hb : b.Proper) (ho : a.SameOrigin b)
    (h : a.text = b.text) : a = b := by
  cases a with
  | element state =>
    cases b with
    | element other => rw [(Wire.toString_inj ha hb).1 h]
    | userTask other => cases ho
  | userTask state =>
    cases b with
    | element other => cases ho
    | userTask other => rw [(Wire.toString_inj ha hb).1 h]

end ShownState

namespace Metadata
variable {m n : Metadata}

def typedAs (m n : Metadata) : Metadata := { m with type := n.type, state := n.state }

/-- The types are the same in words, and so are the states shown. -/
def SameWords (m n : Metadata) : Prop :=
  m.type.toString = n.type.toString ∧ m.state.text = n.state.text

def ProperWords (m : Metadata) : Prop := m.type.Proper ∧ m.state.Proper

/-- The keys of the fields in declaration order, and whether the metadata have something there to write. -/
def presence (m : Metadata) : List (String × Bool) :=
  [ ("calledProcessInstanceId", true),
    ("calledProcessDefinitionName", true),
    ("calledDecisionInstanceId", true),
    ("calledDecisionDefinitionName", true),
    ("jobRetries", true),
    ("jobDeadline", true),
    ("jobKey", true),
    ("jobType", true),
    ("jobWorker", true),
    ("jobCustomHeaders", true),
    ("elementInstanceKey", true),
    ("elementId", true),
    ("elementName", m.elementName.isSome),
    ("type", true),
    ("state", true),
    ("startDate", true),
    ("endDate", true),
    ("processDefinitionId", m.processDefinitionId.isSome),
    ("processInstanceKey", m.processInstanceKey.isSome),
    ("processDefinitionKey", m.processDefinitionKey.isSome),
    ("hasIncident", true),
    ("incidentKey", m.incidentKey.isSome),
    ("tenantId", m.tenantId.isSome),
    ("creationDate", m.creationDate.isSome),
    ("completionDate", m.completionDate.isSome),
    ("customHeaders", m.customHeaders.isSome),
    ("priority", m.priority.isSome),
    ("userTaskKey", m.userTaskKey.isSome),
    ("dueDate", m.dueDate.isSome),
    ("followUpDate", m.followUpDate.isSome),
    ("formKey", m.formKey.isSome),
    ("assignee", m.assignee.isSome),
    ("candidateGroups", m.candidateGroups.isSome),
    ("candidateUsers", m.candidateUsers.isSome),
    ("externalFormReference", m.externalFormReference.isSome) ]

theorem nodup_columns : (columns.map Column.key).Nodup := by decide

theorem presence_eq (m : Metadata) :
    m.presence = columns.map fun column => (column.key, (column.write m).isSome) := by
  simp [presence, columns]

theorem nodup_presence (m : Metadata) : (m.presence.map Prod.fst).Nodup := by
  rw [presence_eq, List.map_map]
  exact nodup_columns

theorem member?_toJson (m : Metadata) {column : Column Metadata} (h : column ∈ columns) :
    m.toJson.member? column.key = column.write m :=
  Json.lookup_table Column.key (Column.write · m) nodup_columns h

theorem member?_toJson_of_forall_ne (m : Metadata) {key : String}
    (h : ∀ column ∈ columns, column.key ≠ key) : m.toJson.member? key = none :=
  Json.lookup_table_of_forall_ne Column.key (Column.write · m) h

theorem forall_member?_iff (same : Option Json → Option Json → Prop) (hnone : same none none) :
    (∀ key, same (m.toJson.member? key) (n.toJson.member? key)) ↔
      ∀ column ∈ columns, same (column.write m) (column.write n) := by
  constructor
  · intro h column hcolumn
    rw [← member?_toJson m hcolumn, ← member?_toJson n hcolumn]
    exact h column.key
  · intro h key
    by_cases hkey : ∃ column ∈ columns, column.key = key
    · obtain ⟨column, hcolumn, rfl⟩ := hkey
      rw [member?_toJson m hcolumn, member?_toJson n hcolumn]
      exact h column hcolumn
    · have hne (column : Column Metadata) (hcolumn : column ∈ columns) : column.key ≠ key :=
        fun heq => hkey ⟨column, hcolumn, heq⟩
      rwa [member?_toJson_of_forall_ne m hne, member?_toJson_of_forall_ne n hne]

theorem writes_eq_iff : (∀ column ∈ columns, column.write m = column.write n) ↔
    m.SameWords n ∧ m.typedAs n = n := by
  cases m
  cases n
  simp only [columns, SameWords, typedAs, List.mem_cons, List.not_mem_nil, or_false,
    forall_eq_or_imp, forall_eq, Column.nullable_write, Column.always_write, Column.omitted_write,
    Option.some.injEq, Option.mem_def, Option.map_eq_some_iff, ne_eq, forall_exists_index, and_imp,
    forall_apply_eq_imp_iff₂, reduceCtorEq, not_false_eq_true, implies_true, imp_self,
    Json.ofOption_inj, Option.map_inj_right, Wire.toJson, Json.string.injEq, Json.bool.injEq,
    Json.integer.injEq, Json.object.injEq, Json.ofTexts_inj, Json.ofLabels_inj,
    WireInt.ofInt64_inj, WireInt.ofInt32_inj, mk.injEq, true_and]
  -- Both sides are the same equations but for their order.
  grind only

theorem beq_eq (m n : Metadata) : (m == n) = instBEqMetadata.beq m n := rfl

theorem writes_beq_iff : (∀ column ∈ columns, (column.write m == column.write n) = true) ↔
    m.SameWords n ∧ (m.typedAs n == n) = true := by
  have htext := Json.ofOption_beq_map Json.string_beq fun _ => rfl
  have hretries := Json.ofOption_beq_map (f := fun n => .integer (.ofInt64 n))
    WireInt.ofInt64_beq fun _ => rfl
  have hheaders := Json.ofOption_beq_map Json.object_beq fun _ => rfl
  have hpriority := option_beq_map (f := fun n => Json.integer (.ofInt32 n)) WireInt.ofInt32_beq
  cases m
  cases n
  simp only [columns, SameWords, typedAs, List.mem_cons, List.not_mem_nil, or_false,
    forall_eq_or_imp, forall_eq, Column.nullable_write, Column.always_write, Column.omitted_write,
    Option.some_beq_some, htext, hretries, hheaders, hpriority, option_beq_map Json.string_beq,
    option_beq_map Json.ofTexts_beq, option_beq_map Json.ofLabels_beq, Wire.toJson,
    Json.string_beq, Json.bool_beq, beq_iff_eq, beq_eq, instBEqMetadata.beq, BEq.rfl,
    Bool.true_and, Bool.and_eq_true]
  grind only

theorem SameWords.typedAs_eq (h : m.SameWords n) (hm : m.ProperWords) (hn : n.ProperWords)
    (ho : m.state.SameOrigin n.state) : m.typedAs n = m := by
  have htype : m.type = n.type := (Wire.toString_inj hm.1 hn.1).1 h.1
  have hstate : m.state = n.state := ShownState.eq_of_text_eq hm.2 hn.2 ho h.2
  rw [typedAs, ← htype, ← hstate]

/-- Metadata with the same JSON hold the same, type and state taken as texts, and so do metadata with
JSON that counts as equal. A state forgets no more than its origin. In JSON the keys are those of the
fields that have something to write, in declaration order, and no two fields have the same key. -/
theorem json_determines_metadata (m n : Metadata) :
    ((∀ key, m.toJson.member? key = n.toJson.member? key) ↔ m.SameWords n ∧ m.typedAs n = n) ∧
    ((∀ key, (m.toJson.member? key == n.toJson.member? key) = true) ↔
      m.SameWords n ∧ (m.typedAs n == n) = true) ∧
    (m.ProperWords → n.ProperWords → m.state.SameOrigin n.state → m.toJson = n.toJson → m = n) ∧
    (m.presence.map Prod.fst).Nodup ∧
    ∃ members, m.toJson = .object members ∧
      members.map Prod.fst = (m.presence.filter (·.2)).map Prod.fst := by
  have heq : (∀ key, m.toJson.member? key = n.toJson.member? key) ↔
      m.SameWords n ∧ m.typedAs n = n :=
    (forall_member?_iff Eq rfl).trans writes_eq_iff
  have hbeq : (∀ key, (m.toJson.member? key == n.toJson.member? key) = true) ↔
      m.SameWords n ∧ (m.typedAs n == n) = true :=
    (forall_member?_iff (fun v w => (v == w) = true) rfl).trans writes_beq_iff
  refine ⟨heq, hbeq, fun hm hn ho hjson => ?_, nodup_presence m, _, rfl, ?_⟩
  · obtain ⟨hwords, hfields⟩ := heq.1 fun key => by rw [hjson]
    exact (hwords.typedAs_eq hm hn ho).symm.trans hfields
  · rw [presence_eq]
    exact Column.map_fst_written columns m

/-- The state of an element and that of its task look alike. -/
example (m : Metadata) : ({ m with state := .element (.listed .completed) } : Metadata).toJson =
    ({ m with state := .userTask (.listed .completed) } : Metadata).toJson := rfl

def reviewFrom (startDate : Option String) : Metadata :=
  ({ element := { Sources.review with startDate, state := .other "PAUSED" } } : Sources).merge {}

theorem properWords_reviewFrom (startDate : Option String) : (reviewFrom startDate).ProperWords := by
  refine ⟨trivial, fun state => ?_⟩
  cases state <;> decide

theorem empty_start_is_no_start :
    (reviewFrom (some "")).toJson = (reviewFrom none).toJson ∧
    reviewFrom (some "") = reviewFrom none ∧
    ((reviewFrom none).presence.filter (·.2)).map Prod.fst =
      [ "calledProcessInstanceId", "calledProcessDefinitionName", "calledDecisionInstanceId",
        "calledDecisionDefinitionName", "jobRetries", "jobDeadline", "jobKey", "jobType",
        "jobWorker", "jobCustomHeaders", "elementInstanceKey", "elementId", "type", "state",
        "startDate", "endDate", "hasIncident" ] := by
  obtain ⟨-, -, hsame, -⟩ := json_determines_metadata (reviewFrom (some "")) (reviewFrom none)
  have hjson : (reviewFrom (some "")).toJson = (reviewFrom none).toJson := rfl
  exact ⟨hjson, hsame (properWords_reviewFrom _) (properWords_reviewFrom _) trivial hjson, rfl⟩

end Metadata
end ElementMetadata
