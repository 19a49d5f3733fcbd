import ElementMetadata.Command.Run
import ElementMetadata.Proofs.Record.Form
import ElementMetadata.Proofs.Resolution
import Mathlib

/-!
How a run ends. It goes through stages in a fixed order: the settings, the time that counts as now, the
file, its JSON and its document. The first stage that fails is the end of the run and what is reported
of it, without any output; a run that no stage stops writes one rendering of its result.
-/
namespace ElementMetadata

inductive Stage where
  | settings
  | now
  | file
  | json
  | document
deriving DecidableEq

def Stage.rank : Stage → Nat
  | .settings => 0
  | .now => 1
  | .file => 2
  | .json => 3
  | .document => 4

def Task.reader : Task → Json → Except DocumentError (Logged Event Metadata)
  | .build | .summary _ => Metadata.ofSourcesDocument
  | .resolve => Metadata.ofPagesDocument

inductive CountsAsNow (s : Surroundings) : Option String → Timestamp → Prop
  | clock : CountsAsNow s none s.clock
  | given {raw : String} {t : Timestamp} : Timestamp.parse raw = .ok t → CountsAsNow s (some raw) t

theorem Content.text_toUTF8 (text : String) : Content.text (.ok text.toUTF8) = .ok text := by
  have h : String.fromUTF8? text.toUTF8 = some text := dif_pos text.isValidUTF8
  rw [Content.text, h]

namespace Invocation
variable {inv : Invocation} {s : Surroundings} {settings : Settings} {failure : Failure}
  {path : String} {doc : Json}

/-- The settings are read from a file: the one that the arguments name, whatever it is, or else the one
of the usual name, if that is a regular file. -/
def SettingsLieAt (inv : Invocation) (s : Surroundings) (path : String) : Prop :=
  inv.config = some path ∨
    inv.config = none ∧ path = Settings.defaultPath ∧ s.isFile path = true

inductive HasSettings (inv : Invocation) (s : Surroundings) : Settings → Prop
  | read {path text : String} {settings : Settings} : inv.SettingsLieAt s path →
      (s.content path).text = .ok text → Settings.parse s.wording.settings text = .ok settings →
      HasSettings inv s settings
  | usual : (∀ path, ¬ inv.SettingsLieAt s path) → HasSettings inv s {}

def HoldsJson (inv : Invocation) (s : Surroundings) (doc : Json) : Prop :=
  ∃ text, (s.content inv.file).text = .ok text ∧ Json.parse text = .ok doc

inductive FailsAt (inv : Invocation) (s : Surroundings) : Stage → Failure → Prop
  | unreadableSettings {path : String} {fault : ReadFault} : inv.SettingsLieAt s path →
      (s.content path).text = .error fault → FailsAt inv s .settings (.unreadable path fault)
  | badSettings {path text : String} {fault : SettingsFault} : inv.SettingsLieAt s path →
      (s.content path).text = .ok text → Settings.parse s.wording.settings text = .error fault →
      FailsAt inv s .settings (.badSettings path fault)
  | badTimestamp {raw : String} {error : TimestampError} : inv.task = .summary (some raw) →
      Timestamp.parse raw = .error error → FailsAt inv s .now (.badTimestamp error)
  | unreadableFile {fault : ReadFault} : (s.content inv.file).text = .error fault →
      FailsAt inv s .file (.unreadable inv.file fault)
  | notJson {text : String} {error : Located SyntaxFault} :
      (s.content inv.file).text = .ok text → Json.parse text = .error error →
      FailsAt inv s .json (.notJson inv.file error)
  | badDocument {doc : Json} {error : DocumentError} : inv.HoldsJson s doc →
      inv.task.reader doc = .error error → FailsAt inv s .document (.badDocument error)

def FailsFirst (inv : Invocation) (s : Surroundings) (stage : Stage) (failure : Failure) : Prop :=
  inv.FailsAt s stage failure ∧
    ∀ earlier, earlier.rank < stage.rank → ∀ other, ¬ inv.FailsAt s earlier other

def logText (inv : Invocation) (s : Surroundings) (settings : Settings) (notices : List Notice) :
    String :=
  String.join ((inv.filter s settings).events.map (·.line)) ++
    Notice.log (inv.filter s settings).value notices

/-- What is told of the stage that a run fails at. Before there are settings there is no log, and the
format can only be that of the arguments. -/
inductive Told (inv : Invocation) (s : Surroundings) (failure : Failure) : Stage → String → Prop
  | withoutSettings :
      Told inv s failure .settings (failure.report (inv.output.getD .text) inv.quiet)
  | withSettings {stage : Stage} {settings : Settings} : stage ≠ .settings →
      inv.HasSettings s settings →
      Told inv s failure stage (inv.logText s settings [.failed failure] ++
        failure.report ((inv.output <|> settings.format).getD .text) inv.quiet)

/-- The output of a run for the metadata of its document: the metadata themselves whatever the format
is, or their summary in the format of the run. -/
inductive Renders (inv : Invocation) (s : Surroundings) (settings : Settings) (m : Metadata) :
    String → Prop
  | build : inv.task = .build → Renders inv s settings m (m.toJson.printed settings.pretty)
  | resolve : inv.task = .resolve → Renders inv s settings m (m.toJson.printed settings.pretty)
  | json {given : Option String} {now : Timestamp} : inv.task = .summary given →
      CountsAsNow s given now → (inv.output <|> settings.format).getD .text = .json →
      Renders inv s settings m
        ((Summary.ofMetadata m now settings.runningSuffix).value.toJson.printed settings.pretty)
  | rows {given : Option String} {now : Timestamp} : inv.task = .summary given →
      CountsAsNow s given now → (inv.output <|> settings.format).getD .text = .text →
      Renders inv s settings m (Summary.ofMetadata m now settings.runningSuffix).value.render

section Settings

theorem readSettings_eq_ok_iff : readSettings s path = .ok settings ↔
    ∃ text, (s.content path).text = .ok text ∧
      Settings.parse s.wording.settings text = .ok settings := by
  simp only [readSettings, bind_eq_ok_iff, mapError_eq_ok_iff]

theorem readSettings_eq_error_iff : readSettings s path = .error failure ↔
    (∃ fault, (s.content path).text = .error fault ∧ .unreadable path fault = failure) ∨
      ∃ text, (s.content path).text = .ok text ∧
        ∃ fault, Settings.parse s.wording.settings text = .error fault ∧
          .badSettings path fault = failure := by
  simp only [readSettings, bind_eq_error_iff, mapError_eq_ok_iff, mapError_eq_error_iff]

theorem settings_of_lieAt (h : inv.SettingsLieAt s path) : inv.settings s = readSettings s path := by
  obtain h | ⟨h, rfl, hfile⟩ := h
  · rw [Invocation.settings, h]
  · rw [Invocation.settings, h]
    exact if_pos hfile

theorem settings_of_forall_not_lieAt (h : ∀ path, ¬ inv.SettingsLieAt s path) :
    inv.settings s = .ok {} := by
  cases hc : inv.config with
  | some path => exact absurd (.inl hc) (h path)
  | none =>
    rw [Invocation.settings, hc]
    exact if_neg fun hfile => h _ (.inr ⟨hc, rfl, hfile⟩)

theorem settings_eq_ok_iff : inv.settings s = .ok settings ↔ inv.HasSettings s settings := by
  constructor
  · intro h
    by_cases hlie : ∃ path, inv.SettingsLieAt s path
    · obtain ⟨path, hlie⟩ := hlie
      rw [settings_of_lieAt hlie] at h
      obtain ⟨text, htext, hparse⟩ := readSettings_eq_ok_iff.1 h
      exact .read hlie htext hparse
    · rw [settings_of_forall_not_lieAt (not_exists.1 hlie)] at h
      obtain rfl := Except.ok.inj h
      exact .usual (not_exists.1 hlie)
  · intro h
    cases h with
    | read hlie htext hparse =>
      rw [settings_of_lieAt hlie]
      exact readSettings_eq_ok_iff.2 ⟨_, htext, hparse⟩
    | usual hnone => exact settings_of_forall_not_lieAt hnone

theorem settings_eq_error_iff :
    inv.settings s = .error failure ↔ inv.FailsAt s .settings failure := by
  constructor
  · intro h
    by_cases hlie : ∃ path, inv.SettingsLieAt s path
    · obtain ⟨path, hlie⟩ := hlie
      rw [settings_of_lieAt hlie] at h
      obtain ⟨fault, htext, rfl⟩ | ⟨text, htext, fault, hparse, rfl⟩ := readSettings_eq_error_iff.1 h
      · exact .unreadableSettings hlie htext
      · exact .badSettings hlie htext hparse
    · rw [settings_of_forall_not_lieAt (not_exists.1 hlie)] at h
      cases h
  · intro h
    cases h with
    | unreadableSettings hlie htext =>
      rw [settings_of_lieAt hlie]
      exact readSettings_eq_error_iff.2 (.inl ⟨_, htext, rfl⟩)
    | badSettings hlie htext hparse =>
      rw [settings_of_lieAt hlie]
      exact readSettings_eq_error_iff.2 (.inr ⟨_, htext, _, hparse, rfl⟩)

end Settings

section Result

theorem document_eq_ok_iff : inv.document s = .ok doc ↔ inv.HoldsJson s doc := by
  simp only [document, bind_eq_ok_iff, mapError_eq_ok_iff, HoldsJson]

theorem document_eq_error_iff :
    inv.document s = .error failure ↔ inv.FailsAt s .file failure ∨ inv.FailsAt s .json failure := by
  simp only [document, bind_eq_error_iff, mapError_eq_ok_iff, mapError_eq_error_iff]
  constructor
  · rintro (⟨fault, htext, rfl⟩ | ⟨text, htext, error, hparse, rfl⟩)
    · exact .inl (.unreadableFile htext)
    · exact .inr (.notJson htext hparse)
  · rintro (h | h)
    · cases h with
      | unreadableFile htext => exact .inl ⟨_, htext, rfl⟩
    · cases h with
      | notJson htext hparse => exact .inr ⟨_, htext, _, hparse, rfl⟩

theorem now_eq_ok_iff {given : Option String} {t : Timestamp} :
    now s given = .ok t ↔ CountsAsNow s given t := by
  cases given with
  | none =>
    constructor
    · intro h
      obtain rfl := Except.ok.inj h
      exact .clock
    · rintro ⟨⟩
      rfl
  | some raw =>
    rw [now, mapError_eq_ok_iff]
    exact ⟨.given, fun h => by cases h; assumption⟩

theorem now_eq_error_iff {given : Option String} (htask : inv.task = .summary given) :
    now s given = .error failure ↔ inv.FailsAt s .now failure := by
  constructor
  · intro h
    cases given with
    | none => cases h
    | some raw =>
      obtain ⟨error, hparse, rfl⟩ := mapError_eq_error_iff.1 h
      exact .badTimestamp htask hparse
  · intro h
    cases h with
    | badTimestamp hgiven hparse =>
      obtain rfl := Task.summary.inj (htask.symm.trans hgiven)
      exact mapError_eq_error_iff.2 ⟨_, hparse, rfl⟩

theorem not_failsAt_now (htask : ∀ given, inv.task ≠ .summary given) :
    ¬ inv.FailsAt s .now failure := by
  intro h
  cases h with
  | badTimestamp hgiven _ => exact htask _ hgiven

theorem metadata_eq_ok_iff {read : Json → Except DocumentError (Logged Event Metadata)}
    {m : Logged Notice Metadata} : inv.metadata s read = .ok m ↔
      ∃ doc n, inv.HoldsJson s doc ∧ read doc = .ok n ∧ n.mapEvents .library = m := by
  simp only [metadata, bind_eq_ok_iff, document_eq_ok_iff, mapError_eq_ok_iff, pure, Except.pure,
    Except.ok.injEq]
  exact ⟨fun ⟨doc, hdoc, n, hn, hm⟩ => ⟨doc, n, hdoc, hn, hm⟩,
    fun ⟨doc, n, hdoc, hn, hm⟩ => ⟨doc, hdoc, n, hn, hm⟩⟩

theorem metadata_eq_error_iff : inv.metadata s inv.task.reader = .error failure ↔
    inv.FailsAt s .file failure ∨ inv.FailsAt s .json failure ∨
      inv.FailsAt s .document failure := by
  simp only [metadata, bind_eq_error_iff, document_eq_error_iff, document_eq_ok_iff,
    mapError_eq_error_iff, or_assoc, pure, Except.pure, reduceCtorEq, and_false, exists_false,
    or_false]
  refine or_congr_right (or_congr_right ⟨?_, fun h => ?_⟩)
  · rintro ⟨doc, hdoc, error, hread, rfl⟩
    exact .badDocument hdoc hread
  · cases h with
    | badDocument hdoc hread => exact ⟨_, hdoc, _, hread, rfl⟩

theorem result_eq_error_iff : inv.result s settings = .error failure ↔
    inv.FailsAt s .now failure ∨ (∀ other, ¬ inv.FailsAt s .now other) ∧
      (inv.FailsAt s .file failure ∨ inv.FailsAt s .json failure ∨
        inv.FailsAt s .document failure) := by
  have hmetadata : inv.metadata s inv.task.reader = .error failure ↔ _ := metadata_eq_error_iff
  cases htask : inv.task with
  | summary given =>
    rw [← now_eq_error_iff htask, ← hmetadata, htask, result, htask]
    simp only [bind_eq_error_iff, ← now_eq_error_iff htask, Task.reader, pure, Except.pure,
      reduceCtorEq, and_false, exists_false, or_false]
    cases now s given with
    | error other => simp
    | ok t => simp
  | _ =>
    have hnow (other : Failure) : ¬ inv.FailsAt s .now other := by
      refine not_failsAt_now fun given => ?_
      rw [htask]
      nofun
    rw [← hmetadata, htask, result, htask]
    simp only [bind_eq_error_iff, Task.reader, pure, Except.pure, reduceCtorEq, and_false,
      exists_false, or_false, hnow, false_or, not_false_eq_true, implies_true, true_and]

theorem renders_of_result {r : Logged Notice String} (h : inv.result s settings = .ok r) :
    ∃ doc m, inv.HoldsJson s doc ∧ inv.task.reader doc = .ok m ∧
      inv.Renders s settings m.value r.value := by
  cases htask : inv.task with
  | summary given =>
    rw [result, htask] at h
    obtain ⟨t, hnow, h⟩ := bind_eq_ok_iff.1 h
    obtain ⟨_, hm, h⟩ := bind_eq_ok_iff.1 h
    obtain ⟨doc, m, hdoc, hread, rfl⟩ := metadata_eq_ok_iff.1 hm
    obtain rfl := Except.ok.inj h
    refine ⟨doc, m, hdoc, hread, ?_⟩
    have hnow := now_eq_ok_iff.1 hnow
    simp only [Logged.bind_value, Logged.pure_value, summaryText]
    cases hformat : inv.format settings with
    | json => exact .json htask hnow hformat
    | text => exact .rows htask hnow hformat
  | build =>
    rw [result, htask] at h
    obtain ⟨_, hm, h⟩ := bind_eq_ok_iff.1 h
    obtain ⟨doc, m, hdoc, hread, rfl⟩ := metadata_eq_ok_iff.1 hm
    obtain rfl := Except.ok.inj h
    exact ⟨doc, m, hdoc, hread, .build htask⟩
  | resolve =>
    rw [result, htask] at h
    obtain ⟨_, hm, h⟩ := bind_eq_ok_iff.1 h
    obtain ⟨doc, m, hdoc, hread, rfl⟩ := metadata_eq_ok_iff.1 hm
    obtain rfl := Except.ok.inj h
    exact ⟨doc, m, hdoc, hread, .resolve htask⟩

end Result

section Order

theorem not_failsAt_file {text : String} (h : (s.content inv.file).text = .ok text) :
    ¬ inv.FailsAt s .file failure := by
  intro hfails
  cases hfails with
  | unreadableFile htext =>
    rw [h] at htext
    cases htext

theorem not_failsAt_json (h : inv.HoldsJson s doc) : ¬ inv.FailsAt s .json failure := by
  intro hfails
  obtain ⟨text, htext, hparse⟩ := h
  cases hfails with
  | notJson htext' hparse' =>
    obtain rfl := Except.ok.inj (htext.symm.trans htext')
    rw [hparse] at hparse'
    cases hparse'

theorem failsFirst_settings (h : inv.FailsAt s .settings failure) :
    inv.FailsFirst s .settings failure := ⟨h, fun _ hlt => absurd hlt (Nat.not_lt_zero _)⟩

theorem failsFirst_now (hsettings : ∀ other, ¬ inv.FailsAt s .settings other)
    (h : inv.FailsAt s .now failure) : inv.FailsFirst s .now failure := by
  refine ⟨h, fun earlier hlt => ?_⟩
  cases earlier with
  | settings => exact hsettings
  | _ => simp [Stage.rank] at hlt

/-- Of the stages of the file one at most fails, since each needs what the one before it gives. -/
theorem failsFirst_of_file (hsettings : ∀ other, ¬ inv.FailsAt s .settings other)
    (hnow : ∀ other, ¬ inv.FailsAt s .now other)
    (h : inv.FailsAt s .file failure ∨ inv.FailsAt s .json failure ∨
      inv.FailsAt s .document failure) :
    ∃ stage, stage ≠ .settings ∧ inv.FailsFirst s stage failure := by
  obtain h | h | h := h
  · refine ⟨.file, by decide, h, fun earlier hlt => ?_⟩
    cases earlier with
    | settings => exact hsettings
    | now => exact hnow
    | _ => simp [Stage.rank] at hlt
  · refine ⟨.json, by decide, h, fun earlier hlt => ?_⟩
    cases h with
    | notJson htext _ =>
      cases earlier with
      | settings => exact hsettings
      | now => exact hnow
      | file => exact fun _ => not_failsAt_file htext
      | _ => simp [Stage.rank] at hlt
  · refine ⟨.document, by decide, h, fun earlier hlt => ?_⟩
    cases h with
    | badDocument hdoc _ =>
      cases earlier with
      | settings => exact hsettings
      | now => exact hnow
      | file => exact fun _ => not_failsAt_file hdoc.choose_spec.1
      | json => exact fun _ => not_failsAt_json hdoc
      | document => simp [Stage.rank] at hlt

end Order

theorem run_cases (inv : Invocation) (s : Surroundings) :
    (∃ stage failure told, inv.FailsFirst s stage failure ∧ inv.Told s failure stage told ∧
      inv.run s = { exit := 1, stderr := told }) ∨
    (∀ stage failure, ¬ inv.FailsAt s stage failure) ∧
      ∃ settings r, inv.HasSettings s settings ∧ inv.result s settings = .ok r ∧
        inv.run s =
          { exit := 0, stdout := r.value, stderr := inv.logText s settings r.events } := by
  cases hset : inv.settings s with
  | error failure =>
    refine .inl ⟨.settings, failure, _, failsFirst_settings (settings_eq_error_iff.1 hset),
      .withoutSettings, ?_⟩
    rw [run, hset]
  | ok settings =>
    have hsettings (other : Failure) : ¬ inv.FailsAt s .settings other := by
      rw [← settings_eq_error_iff, hset]
      nofun
    have hhas := settings_eq_ok_iff.1 hset
    cases hresult : inv.result s settings with
    | error failure =>
      have hrun : inv.run s =
          { exit := 1
            stderr := inv.logText s settings [.failed failure] ++
              failure.report ((inv.output <|> settings.format).getD .text) inv.quiet } := by
        rw [run, hset]
        simp only [hresult]
        rfl
      obtain hnow | ⟨hnow, hfile⟩ := result_eq_error_iff.1 hresult
      · exact .inl ⟨.now, failure, _, failsFirst_now hsettings hnow,
          .withSettings (by decide) hhas, hrun⟩
      · obtain ⟨stage, hstage, hfirst⟩ := failsFirst_of_file hsettings hnow hfile
        exact .inl ⟨stage, failure, _, hfirst, .withSettings hstage hhas, hrun⟩
    | ok r =>
      refine .inr ⟨fun stage failure hfails => ?_, settings, r, hhas, hresult, ?_⟩
      · have hnone (other : Failure) : ¬ inv.result s settings = .error other := by
          rw [hresult]
          nofun
        simp only [result_eq_error_iff, not_or, not_and] at hnone
        have hnow (other : Failure) : ¬ inv.FailsAt s .now other := (hnone other).1
        obtain ⟨hfile, hjson, hdocument⟩ := (hnone failure).2 hnow
        cases stage with
        | settings => exact hsettings failure hfails
        | now => exact hnow failure hfails
        | file => exact hfile hfails
        | json => exact hjson hfails
        | document => exact hdocument hfails
      · rw [run, hset]
        simp only [hresult]
        rfl

theorem runProgram_of_ofArguments {arguments : List String} (h : ofArguments arguments = .ok inv)
    (s : Surroundings) : runProgram arguments s = inv.run s := by
  rw [runProgram, h]

def soonText : String :=
  "\x7b\"elementInstance\":\x7b\"elementId\":\"ship\",\"elementInstanceKey\":\"7\"," ++
  "\"hasIncident\":true,\"startDate\":\"soon\",\"state\":\"ACTIVE\",\"type\":\"USER_TASK\"\x7d\x7d"

/-- A document, and beside it settings that can be read but lie in no regular file. -/
def soonSurroundings : Surroundings where
  content path :=
    if path = "task.json" then .ok soonText.toUTF8
    else if path = Settings.defaultPath then .ok "[output]\nformat = \"json\"\n".toUTF8
    else .error .nothing
  isFile path := path == "task.json"
  clock := { year := 2024, month := 5, day := 1 }
  wording := { halt := fun _ _ => "", settings := fun _ => ⟨"", ""⟩ }

end Invocation
end ElementMetadata
