import ElementMetadata.Document
import ElementMetadata.Proofs.Record.Plain
import Mathlib.Data.Option.Defs

/-!
What documents are read as. Each record is read from the value at its key, whatever else the
document holds; a record that is absent or null is none.
-/
namespace ElementMetadata

namespace Document
variable {α : Type} [Codec α] {doc v : Json} {key : String} {kind : RecordKind} {r : α}

def ReadsIfAny (v : Option Json) (o : Option α) : Prop :=
  Option.Rel (fun v r => Codec.read v = .ok r) v o

def PageReads (v : Option Json) (page : SearchPage α) : Prop :=
  v = none ∧ page = {} ∨ ∃ x, v = some x ∧ Codec.read x = .ok page

theorem readRecord_eq_ok_iff : readRecord kind v = .ok r ↔ Codec.read v = .ok r := by
  unfold readRecord
  cases (Codec.read v : Except Fault α) with
  | error fault => simp [Except.mapError]
  | ok s => simp [Except.mapError]

theorem requiredRecord_eq_ok_iff :
    requiredRecord doc key kind = .ok r ↔ ∃ v, at? doc key = some v ∧ Codec.read v = .ok r := by
  unfold requiredRecord
  cases at? doc key with
  | none => simp
  | some v => simp [readRecord_eq_ok_iff]

theorem optionalRecord_eq_ok_iff {o : Option α} :
    optionalRecord doc key kind = .ok o ↔ ReadsIfAny (at? doc key) o := by
  unfold optionalRecord ReadsIfAny
  cases at? doc key with
  | none =>
    constructor
    · intro hrel
      cases hrel
      exact .none
    · intro hrel
      cases hrel
      rfl
  | some v =>
    simp only [map_eq_ok_iff, readRecord_eq_ok_iff]
    constructor
    · intro hex
      obtain ⟨r, hr, rfl⟩ := hex
      exact .some hr
    · intro hrel
      cases hrel
      next r hr => exact ⟨r, hr, rfl⟩

theorem optionalPage_eq_ok_iff {page : SearchPage α} :
    optionalPage doc key kind = .ok page ↔ PageReads (at? doc key) page := by
  unfold optionalPage PageReads
  cases at? doc key with
  | none => simp [eq_comm]
  | some v => simp [readRecord_eq_ok_iff]

theorem readObject_eq_ok_iff {β : Type} {read : Json → Except DocumentError β} {b : β} :
    readObject read doc = .ok b ↔ ∃ ms, doc = .object ms ∧ read doc = .ok b := by
  cases doc <;> simp [readObject]

theorem isNull_of_at? (h : at? doc key = some v) : v.isNull = false := by
  have hn := (Option.filter_eq_some_iff.1 h).2
  simpa using hn

def inRecord? (doc : Json) (record key : String) : Option Json := (at? doc record).bind (at? · key)

def ObjectAt (doc : Json) (record : String) : Prop :=
  ∀ v, at? doc record = some v → ∃ ms, v = .object ms

variable {α : Type} [Codec α] [WellFormed α] [Plain α]

theorem inRecord?_of_reads {v : Json} {r : α} (hv : at? doc record = some v)
    (h : Codec.read v = .ok r) (ho : ObjectAt doc record) :
    ∀ f ∈ Tabular.fields (α := α), f.value? r = (inRecord? doc record f.column.key).or
      (((Plain.blank α).lookup f.column.key).filter (!·.isNull)) := by
  intro f hf
  obtain ⟨ms, rfl⟩ := ho v hv
  rw [inRecord?, hv, Option.bind_some]
  exact Plain.field_value?_of_read h hf

theorem inRecord?_of_readsIfAny {o : Option α} (h : ReadsIfAny (at? doc record) o)
    (ho : ObjectAt doc record) (hb : ∀ m ∈ Plain.blank α, m.2 = .null) :
    ∀ f ∈ Tabular.fields (α := α), o.bind f.value? = inRecord? doc record f.column.key := by
  intro f hf
  unfold ReadsIfAny at h
  cases hv : at? doc record with
  | none =>
    rw [hv] at h
    cases h
    rw [inRecord?, hv]
    rfl
  | some v =>
    rw [hv] at h
    cases h with
    | some hr =>
      have hblank : ((Plain.blank α).lookup f.column.key).filter (!·.isNull) = none := by
        rw [Option.filter_eq_none_iff]
        intro x hx
        obtain ⟨l₁, l₂, hl, -⟩ := List.lookup_eq_some_iff.1 hx
        have hx : x = .null := hb (f.column.key, x) (by simp [hl])
        simp [hx, Json.isNull]
      rw [Option.bind_some, inRecord?_of_reads hv hr ho f hf, hblank, Option.or_none]

end Document

open Document

namespace Sources

theorem ofJson_eq_ok_iff {doc : Json} {sources : Sources} : ofJson doc = .ok sources ↔
    (∃ ms, doc = .object ms) ∧
    (∃ v, at? doc "elementInstance" = some v ∧ Codec.read v = .ok sources.element) ∧
    ReadsIfAny (at? doc "job") sources.job ∧
    ReadsIfAny (at? doc "calledProcessInstance") sources.calledProcess ∧
    ReadsIfAny (at? doc "decisionInstance") sources.decision ∧
    ReadsIfAny (at? doc "userTask") sources.userTask := by
  simp only [ofJson, readObject_eq_ok_iff, bind_eq_ok_iff, requiredRecord_eq_ok_iff,
    optionalRecord_eq_ok_iff]
  constructor
  · intro hex
    obtain ⟨ms, hms, element, he, job, hj, called, hc, decision, hd, task, ht, hs⟩ := hex
    obtain rfl := Except.ok.inj hs
    exact ⟨⟨ms, hms⟩, he, hj, hc, hd, ht⟩
  · intro hex
    obtain ⟨⟨ms, hms⟩, he, hj, hc, hd, ht⟩ := hex
    exact ⟨ms, hms, _, he, _, hj, _, hc, _, hd, _, ht, rfl⟩

end Sources

namespace LinkedPages

theorem ofJson_eq_ok_iff {doc : Json} {pages : LinkedPages} : ofJson doc = .ok pages ↔
    (∃ ms, doc = .object ms) ∧
    (∃ v, at? doc "elementInstance" = some v ∧ Codec.read v = .ok pages.element) ∧
    PageReads (at? doc "jobs") pages.jobs ∧
    PageReads (at? doc "processInstances") pages.processInstances ∧
    PageReads (at? doc "decisionInstances") pages.decisionInstances ∧
    PageReads (at? doc "userTasks") pages.userTasks := by
  simp only [ofJson, readObject_eq_ok_iff, bind_eq_ok_iff, requiredRecord_eq_ok_iff,
    optionalPage_eq_ok_iff]
  constructor
  · intro hex
    obtain ⟨ms, hms, element, he, jobs, hj, called, hc, decisions, hd, tasks, ht, hs⟩ := hex
    obtain rfl := Except.ok.inj hs
    exact ⟨⟨ms, hms⟩, he, hj, hc, hd, ht⟩
  · intro hex
    obtain ⟨⟨ms, hms⟩, he, hj, hc, hd, ht⟩ := hex
    exact ⟨ms, hms, _, he, _, hj, _, hc, _, hd, _, ht, rfl⟩

end LinkedPages
end ElementMetadata
