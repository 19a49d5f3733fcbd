import ElementMetadata.Proofs.Command.Arguments
import ElementMetadata.Proofs.Command.Settings
import ElementMetadata.Proofs.Command.Stages
import ElementMetadata.Proofs.Json.Layout
import ElementMetadata.Proofs.Toml.JsonObject

/-!
What the log can change of a run: neither its output nor how it exits, whatever the filters are and
whether the run is quiet. A quiet run writes no log, and tells of a failure in JSON only.
-/
namespace ElementMetadata

section Quiet

theorem allows_upTo (level : Level) (s : Subject) :
    (Filter.upTo level).allows s = decide (s.level.rank ≤ level.rank) := rfl

theorem not_allows_error (notice : Notice) :
    (Filter.upTo .error).allows notice.subject = false := by
  rw [allows_upTo]
  cases notice with
  | library event => cases event <;> rfl
  | _ => rfl

theorem log_upTo_error (notices : List Notice) : Notice.log (Filter.upTo .error) notices = "" := by
  simp [Notice.log, not_allows_error]

end Quiet

namespace Invocation
variable {inv inv' : Invocation} {s s' : Surroundings} {settings : Settings} {path : String}

theorem logText_of_quiet (h : inv.quiet = true) (s : Surroundings) (settings : Settings)
    (notices : List Notice) : inv.logText s settings notices = "" := by
  have hfilter : inv.filter s settings = pure (Filter.upTo .error) := by
    rw [filter, h]
    rfl
  rw [logText, hfilter]
  exact log_upTo_error notices

section Settings

theorem toOption_readSettings (s : Surroundings) (path : String) : (readSettings s path).toOption =
    (s.content path).text.toOption.bind fun text => (Toml.parse text).bind Settings.ofEntries? := by
  unfold readSettings
  cases (s.content path).text with
  | error fault => rfl
  | ok text =>
    change ((Settings.parse _ text).mapError _).toOption = (Toml.parse text).bind _
    rw [← Settings.toOption_parse s.wording.settings]
    cases Settings.parse s.wording.settings text <;> rfl

theorem readSettings_rel (h : (s.content path).SameButLogFilter (s'.content path)) :
    Option.Rel Settings.SameButFilter (readSettings s path).toOption
      (readSettings s' path).toOption := by
  rw [toOption_readSettings, toOption_readSettings]
  generalize s.content path = content, s'.content path = content' at h ⊢
  cases h with
  | same => exact rel_of_eq rfl fun _ => rfl
  | documents htext htext' hparse hparse' h =>
    simp only [htext, htext', Except.toOption, Option.bind_some, hparse, hparse']
    exact Settings.ofEntries?_rel h

theorem settings_rel (hconfig : inv'.config = inv.config)
    (h : ∀ path, (s.content path).SameButLogFilter (s'.content path))
    (hfile : ∀ path, s.isFile path = s'.isFile path) :
    Option.Rel Settings.SameButFilter (inv.settings s).toOption (inv'.settings s').toOption := by
  unfold Invocation.settings
  rw [hconfig, ← hfile]
  cases inv.config with
  | some path => exact readSettings_rel (h path)
  | none =>
    cases s.isFile Settings.defaultPath with
    | true => exact readSettings_rel (h _)
    | false => exact .some rfl

end Settings

section Result

theorem exists_object_of_reader {task : Task} {doc : Json} {m : Logged Event Metadata}
    (h : task.reader doc = .ok m) : ∃ members, doc = .object members := by
  cases doc with
  | object members => exact ⟨members, rfl⟩
  | _ => cases task <;> cases h

theorem result_of_toml {text : String} {entries : Toml.Entries}
    (htext : (s.content inv.file).text = .ok text) (hparse : Toml.parse text = some entries) :
    (inv.result s settings).toOption = none := by
  cases h : inv.result s settings with
  | error failure => rfl
  | ok r =>
    obtain ⟨doc, m, ⟨text', htext', hdoc⟩, hread, -⟩ := renders_of_result h
    obtain rfl := Except.ok.inj (htext.symm.trans htext')
    obtain ⟨members, rfl⟩ := exists_object_of_reader hread
    exact absurd hdoc (Toml.parse_ne_object hparse members)

theorem result_congr (quiet : Bool) (other : Option String) (htask : inv.task ≠ .summary none)
    (hfile : s.content inv.file = s'.content inv.file) :
    ({ inv with quiet } : Invocation).result s' { settings with filter := other } =
      inv.result s settings := by
  obtain ⟨task, file, config, output, _⟩ := inv
  dsimp only at htask hfile
  cases task with
  | build =>
    simp only [result, metadata, document, hfile]
  | resolve =>
    simp only [result, metadata, document, hfile]
  | summary given =>
    cases given with
    | none => exact absurd rfl htask
    | some raw =>
      simp only [result, metadata, document, hfile]
      rfl

def output? (inv : Invocation) (s : Surroundings) : Option String :=
  (inv.settings s).toOption.bind fun settings =>
    (inv.result s settings).toOption.map (·.value)

theorem exit_run : (inv.run s).exit = if (inv.output? s).isSome then 0 else 1 := by
  unfold run output?
  cases inv.settings s with
  | error failure => rfl
  | ok settings =>
    cases h : inv.result s settings <;> simp [h, Except.toOption]

theorem stdout_run : (inv.run s).stdout = (inv.output? s).getD "" := by
  unfold run output?
  cases inv.settings s with
  | error failure => rfl
  | ok settings =>
    cases h : inv.result s settings <;> simp [h, Except.toOption]

theorem output?_congr (hinv : inv' = { inv with quiet := inv'.quiet })
    (htask : inv.task ≠ .summary none)
    (h : ∀ path, (s.content path).SameButLogFilter (s'.content path))
    (hfile : ∀ path, s.isFile path = s'.isFile path) :
    inv.output? s = inv'.output? s' := by
  have hconfig : inv'.config = inv.config := by rw [hinv]
  have hsettings := settings_rel hconfig h hfile
  have hresult (settings settings' : Settings) (hset : settings.SameButFilter settings') :
      (inv.result s settings).toOption.map (·.value) =
        (inv'.result s' settings').toOption.map (·.value) := by
    obtain hfile | ⟨text, text', entries, entries', htext, hparse, htext', hparse'⟩ :=
      (h inv.file).eq_or_toml
    · rw [hset, hinv, result_congr _ _ htask hfile]
    · -- The file of the runs is one of settings, which is no document for either of them.
      have hfile : inv'.file = inv.file := by rw [hinv]
      rw [result_of_toml htext hparse, result_of_toml (hfile ▸ htext') hparse']
  unfold output?
  generalize (inv.settings s).toOption = x, (inv'.settings s').toOption = y at hsettings ⊢
  cases hsettings with
  | none => rfl
  | some hset => exact hresult _ _ hset

end Result

section Report

/-- The format that a run tells of its failure in: the one of the arguments, else that of the settings
if they could be loaded, else text. -/
def reportFormat (inv : Invocation) (s : Surroundings) : Format :=
  (inv.output <|> (inv.settings s).toOption.bind (·.format)).getD .text

/-- What a quiet run tells of a failure: to people nothing, and to programs one line with an object
that holds the message and nothing else. -/
def ToldQuietly (failure : Failure) : Format → String → Prop
  | .text, told => told = ""
  | .json, told => ∃ line, told = line ++ "\n" ∧ '\n' ∉ line.toList ∧
      Json.parse line = .ok (.object [("error", .string failure.message)])

theorem toldQuietly_report (failure : Failure) (format : Format) :
    ToldQuietly failure format (failure.report format true) := by
  cases format with
  | text => rfl
  | json =>
    exact ⟨_, rfl, Json.newline_not_mem_compact_single _ _, Json.parse_compact_single _ _⟩

theorem told_of_quiet {stage : Stage} {failure : Failure} {told : String} (hquiet : inv.quiet = true)
    (hfails : inv.FailsAt s stage failure) (h : inv.Told s failure stage told) :
    told = failure.report (inv.reportFormat s) true := by
  cases h with
  | withoutSettings =>
    rw [reportFormat, settings_eq_error_iff.2 hfails, hquiet]
    cases inv.output <;> rfl
  | withSettings _ hset =>
    rw [reportFormat, settings_eq_ok_iff.2 hset, hquiet, logText_of_quiet hquiet, String.empty_append]
    rfl

end Report

/-- A `--quiet` among the arguments changes nothing of a run but whether it is quiet. Two runs on the
same files that differ only in that, in the filter of the environment and in the filter of the settings
exit alike and with the same output, unless the clock decides. A quiet run writes nothing to the log:
it is silent when it succeeds, and when it fails it tells of its first failure to programs only, in
one line. -/
theorem logging_changes_no_result :
    (∀ before after {inv inv' : Invocation}, ofArguments (before ++ after) = .ok inv →
      ofArguments (before ++ "--quiet" :: after) = .ok inv' →
      inv' = { inv with quiet := inv'.quiet }) ∧
    (∀ {arguments arguments' : List String} {inv inv' : Invocation} {s s' : Surroundings},
      ofArguments arguments = .ok inv → ofArguments arguments' = .ok inv' →
      inv' = { inv with quiet := inv'.quiet } → inv.task ≠ .summary none →
      (∀ path, (s.content path).SameButLogFilter (s'.content path)) →
      (∀ path, s.isFile path = s'.isFile path) →
      (runProgram arguments s).exit = (runProgram arguments' s').exit ∧
        (runProgram arguments s).stdout = (runProgram arguments' s').stdout) ∧
    ∀ {arguments : List String} {inv : Invocation} (s : Surroundings),
      ofArguments arguments = .ok inv → inv.quiet = true →
      let outcome := runProgram arguments s
      (outcome.exit = 0 → outcome.stderr = "") ∧
      (outcome.exit = 1 → ∃ stage failure, inv.FailsFirst s stage failure ∧
        ToldQuietly failure (inv.reportFormat s) outcome.stderr) := by
  refine ⟨fun _ _ {_ _} => ofArguments_insert_quiet,
    fun {_ _ inv inv' s s'} h h' hinv htask hcontent hfile => ?_, fun {_ inv} s h hquiet => ?_⟩
  · rw [runProgram_of_ofArguments h, runProgram_of_ofArguments h', exit_run, exit_run, stdout_run,
      stdout_run, output?_congr hinv htask hcontent hfile]
    exact ⟨rfl, rfl⟩
  · simp only [runProgram_of_ofArguments h]
    obtain ⟨stage, failure, told, hfirst, htold, hout⟩ | ⟨-, settings, r, -, -, hout⟩ :=
      run_cases inv s
    · rw [hout]
      refine ⟨nofun, fun _ => ⟨stage, failure, hfirst, ?_⟩⟩
      rw [told_of_quiet hquiet hfirst.1 htold]
      exact toldQuietly_report _ _
    · rw [hout]
      exact ⟨fun _ => logText_of_quiet hquiet _ _ _, nofun⟩

def filteredSurroundings (settingsText : String) (logFilter : Option String) : Surroundings where
  content path :=
    if path = "task.json" then .ok soonText.toUTF8
    else if path = Settings.defaultPath then .ok settingsText.toUTF8
    else .error .nothing
  isFile path := path == "task.json" || path == Settings.defaultPath
  logFilter := logFilter
  clock := soonSurroundings.clock
  wording := soonSurroundings.wording

/-- A summary with a log of everything and a quiet one, and a quiet run without its settings. -/
theorem quiet_summary_is_the_same :
    let talkative := filteredSurroundings "[logging]\nfilter = \"debug\"\n" (some "trace")
    let silent := filteredSurroundings "[logging]\nfilter = \"off\"\n" none
    let summary := ["summary", "task.json", "--now", "2024-05-01T10:00:00Z"]
    let failed := runProgram
      ["--quiet", "--config", "gone.toml", "--output", "json", "build", "task.json"] talkative
    (runProgram summary talkative).exit = (runProgram ("--quiet" :: summary) silent).exit ∧
    (runProgram summary talkative).stdout = (runProgram ("--quiet" :: summary) silent).stdout ∧
    ∃ line, failed.stderr = line ++ "\n" ∧ '\n' ∉ line.toList ∧ Json.parse line = .ok (.object
      [ ("error",
          .string "error reading file 'gone.toml': No such file or directory (os error 2)") ]) := by
  intro talkative silent summary failed
  have hfiles (path : String) : (talkative.content path).SameButLogFilter (silent.content path) := by
    have hdebug : Toml.parse "[logging]\nfilter = \"debug\"\n" =
        some [("logging", .table .header [("filter", .text "debug")])] := rfl
    have hoff : Toml.parse "[logging]\nfilter = \"off\"\n" =
        some [("logging", .table .header [("filter", .text "off")])] := rfl
    dsimp only [talkative, silent, filteredSurroundings]
    split
    · exact .same _
    · split
      · exact .documents (Content.text_toUTF8 _) (Content.text_toUTF8 _) hdebug hoff
          (.change (.table (.change (.mk _ _) .nil)) .nil)
      · exact .same _
  have hsummary : ofArguments summary = .ok _ := rfl
  have hquiet : ofArguments ("--quiet" :: summary) = .ok _ := rfl
  obtain ⟨hinsert, hcongr, htold⟩ := logging_changes_no_result
  obtain ⟨hexit, hstdout⟩ :=
    hcongr hsummary hquiet (hinsert [] summary hsummary hquiet) nofun hfiles fun _ => rfl
  refine ⟨hexit, hstdout, ?_⟩
  let inv : Invocation :=
    { task := .build, file := "task.json", config := some "gone.toml", output := some .json
      quiet := true }
  have hfailed : ofArguments
      ["--quiet", "--config", "gone.toml", "--output", "json", "build", "task.json"] = .ok inv := rfl
  obtain ⟨stage, failure, hfirst, htold⟩ := (htold talkative hfailed rfl).2 rfl
  have hsettings : inv.settings talkative = .error (.unreadable "gone.toml" (.system .nothing)) := rfl
  cases stage with
  | settings =>
    obtain rfl := Except.error.inj (hsettings.symm.trans (settings_eq_error_iff.2 hfirst.1))
    exact htold
  | _ => exact absurd (settings_eq_error_iff.1 hsettings) (hfirst.2 .settings (by decide) _)

end Invocation
end ElementMetadata
