import ElementMetadata.Proofs.Summary
import ElementMetadata.Proofs.Time.Execution

/-!
The duration in a summary, from the dates of the element. Dates are taken as absent where they are empty,
once in the metadata and once more for the duration, so that it makes no difference which they are. The
duration is left out, and this reported, where a date is no timestamp; the start counts before the end.
-/
namespace ElementMetadata

/-- The same date, absent and empty ones taken as the same. -/
def SameDate (date other : Option String) : Prop := date = other ∨ Blank date ∧ Blank other

theorem nonEmptyDate_eq_none_iff {date : Option String} : nonEmptyDate date = none ↔ Blank date := by
  cases date <;> simp [nonEmptyDate, Blank]

theorem nonEmptyDate_eq_some_iff {date : Option String} {raw : String} :
    nonEmptyDate date = some raw ↔ date = some raw ∧ raw ≠ "" := by
  simp [nonEmptyDate, Option.filter_eq_some_iff]

theorem nonEmptyDate_of_parse {date : Option String} {raw : String} {t : Timestamp}
    (hdate : date = some raw) (h : Timestamp.parse raw = .ok t) : nonEmptyDate date = some raw := by
  have hempty := Timestamp.isEmpty_of_parse h
  exact nonEmptyDate_eq_some_iff.2 ⟨hdate, by simpa using hempty⟩

theorem SameDate.nonEmptyDate_eq {date other : Option String} (h : SameDate date other) :
    nonEmptyDate other = nonEmptyDate date := by
  obtain rfl | ⟨hdate, hother⟩ := h
  · rfl
  · rw [nonEmptyDate_eq_none_iff.2 hdate, nonEmptyDate_eq_none_iff.2 hother]

namespace ElementInstance

/-- A date of the element is no timestamp: its start, or the end behind a start that is one. -/
inductive Misdated (e : ElementInstance) : TimestampError → Prop
  | start {raw : String} {error : TimestampError} : e.startDate = some raw → raw ≠ "" →
    Timestamp.parse raw = .error error → Misdated e error
  | stop {raw stop : String} {t : Timestamp} {error : TimestampError} :
    e.startDate = some raw → Timestamp.parse raw = .ok t → e.endDate = some stop → stop ≠ "" →
    Timestamp.parse stop = .error error → Misdated e error

inductive Timed (e : ElementInstance) (now : Timestamp) (suffix : String) :
    Except TimestampError (Option String) → Prop
  | unstarted : Blank e.startDate → Timed e now suffix (.ok none)
  | misdated {error : TimestampError} : Misdated e error → Timed e now suffix (.error error)
  | running {raw : String} {t : Timestamp} : e.startDate = some raw → Timestamp.parse raw = .ok t →
    Blank e.endDate → Timed e now suffix (.ok (some ((t.durationTo now).text ++ suffix)))
  | ended {raw stop : String} {t u : Timestamp} : e.startDate = some raw →
    Timestamp.parse raw = .ok t → e.endDate = some stop → Timestamp.parse stop = .ok u →
    Timed e now suffix (.ok (some (t.durationTo u).text))

variable {e : ElementInstance} {now : Timestamp} {suffix : String}

theorem exists_timed (e : ElementInstance) (now : Timestamp) (suffix : String) :
    ∃ result, Timed e now suffix result := by
  cases hstart : nonEmptyDate e.startDate with
  | none => exact ⟨_, .unstarted (nonEmptyDate_eq_none_iff.1 hstart)⟩
  | some raw =>
    obtain ⟨hstart, hraw⟩ := nonEmptyDate_eq_some_iff.1 hstart
    cases ht : Timestamp.parse raw with
    | error error => exact ⟨_, .misdated (.start hstart hraw ht)⟩
    | ok t =>
      cases hend : nonEmptyDate e.endDate with
      | none => exact ⟨_, .running hstart ht (nonEmptyDate_eq_none_iff.1 hend)⟩
      | some stop =>
        obtain ⟨hend, hstop⟩ := nonEmptyDate_eq_some_iff.1 hend
        cases hu : Timestamp.parse stop with
        | error error => exact ⟨_, .misdated (.stop hstart ht hend hstop hu)⟩
        | ok u => exact ⟨_, .ended hstart ht hend hu⟩

theorem Timed.executionText_eq {result : Except TimestampError (Option String)}
    (h : Timed e now suffix result) :
    executionText ((nonEmptyDate e.startDate).getD "") (nonEmptyDate e.endDate) now suffix =
      result := by
  cases h with
  | unstarted hstart =>
    rw [nonEmptyDate_eq_none_iff.2 hstart]
    rfl
  | misdated hmisdated =>
    cases hmisdated with
    | start hstart hraw herror =>
      rw [nonEmptyDate_eq_some_iff.2 ⟨hstart, hraw⟩]
      exact executionText_of_start_error now suffix hraw herror
    | stop hstart ht hend hstop herror =>
      rw [nonEmptyDate_of_parse hstart ht, nonEmptyDate_eq_some_iff.2 ⟨hend, hstop⟩]
      exact executionText_of_stop_error now suffix ht hstop herror
  | running hstart ht hend =>
    rw [nonEmptyDate_of_parse hstart ht, nonEmptyDate_eq_none_iff.2 hend]
    exact executionText_running now suffix ht (.inl rfl)
  | ended hstart ht hend hu =>
    rw [nonEmptyDate_of_parse hstart ht, nonEmptyDate_of_parse hend hu]
    exact executionText_ended now suffix ht hu

theorem executionText_eq_iff_timed {result : Except TimestampError (Option String)} :
    executionText ((nonEmptyDate e.startDate).getD "") (nonEmptyDate e.endDate) now suffix =
      result ↔ Timed e now suffix result := by
  constructor
  · rintro rfl
    obtain ⟨result, h⟩ := exists_timed e now suffix
    rwa [h.executionText_eq]
  · exact Timed.executionText_eq

theorem timed_none_iff : Timed e now suffix (.ok none) ↔ Blank e.startDate := by
  constructor
  · intro h
    cases h with
    | unstarted hstart => exact hstart
  · exact .unstarted

theorem timed_error_iff {error : TimestampError} :
    Timed e now suffix (.error error) ↔ Misdated e error := by
  constructor
  · intro h
    cases h with
    | misdated herror => exact herror
  · exact .misdated

end ElementInstance

namespace Summary
variable {m : Metadata} {now : Timestamp} {suffix : String}

theorem executionDuration_eq_none_iff :
    (ofMetadata m now suffix).value.executionDuration = none ↔
      executionText m.startDate m.endDate now suffix = .ok none ∨
        ∃ error, executionText m.startDate m.endDate now suffix = .error error := by
  simp only [ofMetadata, durationOf, Logged.bind_value, Logged.pure_value]
  cases executionText m.startDate m.endDate now suffix <;> simp

theorem executionDuration_eq_some_iff {text : String} :
    (ofMetadata m now suffix).value.executionDuration = some text ↔
      executionText m.startDate m.endDate now suffix = .ok (some text) := by
  simp only [ofMetadata, durationOf, Logged.bind_value, Logged.pure_value]
  cases executionText m.startDate m.endDate now suffix <;> simp

theorem events_of_error {error : TimestampError}
    (h : executionText m.startDate m.endDate now suffix = .error error) :
    (ofMetadata m now suffix).events = [.durationSkipped m.elementKey error] := by
  simp [ofMetadata, durationOf, h]

theorem events_of_ok {text : Option String}
    (h : executionText m.startDate m.endDate now suffix = .ok text) :
    (ofMetadata m now suffix).events = [] := by
  simp [ofMetadata, durationOf, h]

end Summary

namespace Sources

def redate (sources : Sources) (start stop : Option String) : Sources :=
  { sources with element := { sources.element with startDate := start, endDate := stop } }

theorem metadata_redate {sources : Sources} {start stop : Option String}
    (hstart : SameDate sources.element.startDate start)
    (hstop : SameDate sources.element.endDate stop) :
    (sources.redate start stop).metadata = sources.metadata := by
  simp only [metadata, merge, redate, hstart.nonEmptyDate_eq, hstop.nonEmptyDate_eq]
  rfl

end Sources

/-- A summary is without a duration if the element has not started or one of its dates is no timestamp,
which is then reported with the error of the first such date. The suffix follows a duration exactly if
there is no end. Absent and empty dates are the same to the metadata and to the summary, and nothing but
the duration depends on dates, on the time and on the suffix. -/
theorem duration_in_summary (sources : Sources) (now : Timestamp) (suffix : String) :
    let summary := Summary.ofMetadata sources.metadata.value now suffix
    (summary.value.executionDuration = none ↔
      Blank sources.element.startDate ∨ ∃ error, sources.element.Misdated error) ∧
    (∀ error, sources.element.Misdated error → ∃ event, summary.events = [event] ∧
      event.level = .debug ∧ event.message = "skipping execution duration" ∧
      event.fields = [("element_instance_key", sources.element.key), ("error", error.message)]) ∧
    ((∀ error, ¬ sources.element.Misdated error) → summary.events = []) ∧
    (∀ text, summary.value.executionDuration = some text → ∃ raw t,
      sources.element.startDate = some raw ∧ Timestamp.parse raw = .ok t ∧
      (Blank sources.element.endDate ∧ text = (t.durationTo now).text ++ suffix ∨
        ∃ stop u, sources.element.endDate = some stop ∧ stop ≠ "" ∧
          Timestamp.parse stop = .ok u ∧ text = (t.durationTo u).text)) ∧
    (∀ start stop, SameDate sources.element.startDate start →
      SameDate sources.element.endDate stop →
      (sources.redate start stop).metadata = sources.metadata ∧
        Summary.ofMetadata (sources.redate start stop).metadata.value now suffix = summary) ∧
    ∀ start stop now' suffix',
      let other := Summary.ofMetadata (sources.redate start stop).metadata.value now' suffix'
      { other.value with executionDuration := summary.value.executionDuration } =
        summary.value := by
  have htimed (result : Except TimestampError (Option String)) :
      executionText sources.metadata.value.startDate sources.metadata.value.endDate now suffix =
        result ↔ sources.element.Timed now suffix result :=
    ElementInstance.executionText_eq_iff_timed
  refine ⟨?none, ?skipped, ?quiet, ?text, ?same, ?rest⟩
  case none =>
    simp only [Summary.executionDuration_eq_none_iff, htimed, ElementInstance.timed_none_iff,
      ElementInstance.timed_error_iff]
  case skipped =>
    intro error herror
    have hevents := Summary.events_of_error ((htimed _).2 (.misdated herror))
    exact ⟨_, hevents, rfl, rfl, rfl⟩
  case quiet =>
    intro hnone
    cases htext : executionText sources.metadata.value.startDate sources.metadata.value.endDate
      now suffix with
    | ok text => exact Summary.events_of_ok htext
    | error error =>
      have herror := ElementInstance.timed_error_iff.1 ((htimed _).1 htext)
      exact absurd herror (hnone error)
  case text =>
    intro text htext
    rw [Summary.executionDuration_eq_some_iff, htimed] at htext
    cases htext with
    | running hstart ht hend => exact ⟨_, _, hstart, ht, .inl ⟨hend, rfl⟩⟩
    | ended hstart ht hend hu =>
      have hstop := (nonEmptyDate_eq_some_iff.1 (nonEmptyDate_of_parse hend hu)).2
      exact ⟨_, _, hstart, ht, .inr ⟨_, _, hend, hstop, hu, rfl⟩⟩
  case same =>
    intro start stop hstart hstop
    have hsame := Sources.metadata_redate hstart hstop
    exact ⟨hsame, by rw [hsame]⟩
  case rest =>
    -- Key, links and incident come from fields that stay the same with other dates.
    intro start stop now' suffix'
    rfl

def endsSoon : Sources where
  element :=
    { key := "7", elementId := "ship", elementName := none, type := .listed .userTask
      state := .listed .active, startDate := some "2020-03-01T01:00:00Z", endDate := some "soon"
      processDefinitionId := none, processInstanceKey := none, processDefinitionKey := none
      hasIncident := true, incidentKey := none, tenantId := none }

theorem duration_of_endsSoon :
    (∃ event,
      (Summary.ofMetadata endsSoon.metadata.value ⟨2020, 3, 2, 1, 0, 0, 0, 0⟩ " so far").events =
        [event] ∧
      event.fields = [ ("element_instance_key", "7"),
        ("error", "invalid timestamp 'soon': the 'year' component could not be parsed") ]) ∧
    (Summary.ofMetadata (endsSoon.redate endsSoon.element.startDate (some "")).metadata.value
      ⟨2020, 3, 2, 1, 0, 0, 0, 0⟩ " so far").value.executionDuration = some "1 day so far" := by
  have hstart : Timestamp.parse "2020-03-01T01:00:00Z" = .ok ⟨2020, 3, 1, 1, 0, 0, 0, 0⟩ := rfl
  have hstop : Timestamp.parse "soon" = .error ⟨"soon", .unreadable .year⟩ := rfl
  constructor
  · obtain ⟨-, hskipped, -⟩ :=
      duration_in_summary endsSoon ⟨2020, 3, 2, 1, 0, 0, 0, 0⟩ " so far"
    obtain ⟨event, hevents, -, -, hfields⟩ :=
      hskipped _ (.stop rfl hstart rfl (by decide) hstop)
    exact ⟨event, hevents, hfields⟩
  · obtain ⟨-, -, -, -, hsame, -⟩ :=
      duration_in_summary (endsSoon.redate endsSoon.element.startDate none)
        ⟨2020, 3, 2, 1, 0, 0, 0, 0⟩ " so far"
    have hequal := (hsame endsSoon.element.startDate (some "") (.inl rfl)
      (.inr ⟨.inl rfl, .inr rfl⟩)).2
    change (Summary.ofMetadata ((endsSoon.redate endsSoon.element.startDate none).redate
      endsSoon.element.startDate (some "")).metadata.value _ _).value.executionDuration = _
    rw [hequal, Summary.executionDuration_eq_some_iff]
    refine (executionText_running _ " so far" hstart (.inl rfl)).trans ?_
    decide +kernel

end ElementMetadata
