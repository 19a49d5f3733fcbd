import ElementMetadata.Command.Arguments
import ElementMetadata.Command.Notice

/-!
A run of the program: its settings, the result for its file, and what it writes. A run that fails writes
no result.
-/
namespace ElementMetadata

/-- The texts that the program leaves to its libraries. -/
structure Wording where
  /-- What is written for arguments that ask for no run. -/
  halt : List String → Halt → String
  settings : String → SettingsFault

/-- What a run finds around it. -/
structure Surroundings where
  content : String → Content
  /-- Whether a regular file lies at a path. There may be something else to read, and a file may be
  unreadable. -/
  isFile : String → Bool
  logFilter : Option String := none
  clock : Timestamp
  wording : Wording

structure Outcome where
  exit : Nat
  stdout : String := ""
  stderr : String := ""
deriving DecidableEq

def Json.printed (v : Json) (pretty : Bool) : String :=
  (if pretty then v.pretty else v.compact) ++ "\n"

namespace Invocation
variable (inv : Invocation) (s : Surroundings)

def readSettings (path : String) : Except Failure Settings := do
  let text ← (s.content path).text.mapError (.unreadable path)
  (Settings.parse s.wording.settings text).mapError (.badSettings path)

/-- The settings in the file that the arguments name, else in the one of the usual name if that is a
regular file. -/
def settings : Except Failure Settings :=
  match inv.config with
  | some path => readSettings s path
  | none =>
    if s.isFile Settings.defaultPath then readSettings s Settings.defaultPath else .ok {}

def format (settings : Settings) : Format := (inv.output <|> settings.format).getD .text

def document : Except Failure Json := do
  let text ← (s.content inv.file).text.mapError (.unreadable inv.file)
  (Json.parse text).mapError (.notJson inv.file)

def now (given : Option String) : Except Failure Timestamp :=
  match given with
  | some raw => (Timestamp.parse raw).mapError .badTimestamp
  | none => .ok s.clock

def metadata (read : Json → Except DocumentError (Logged Event Metadata)) :
    Except Failure (Logged Notice Metadata) := do
  let doc ← inv.document s
  let metadata ← (read doc).mapError .badDocument
  return metadata.mapEvents .library

def summaryText (settings : Settings) (summary : Summary) : String :=
  match inv.format settings with
  | .json => summary.toJson.printed settings.pretty
  | .text => summary.render

def result (settings : Settings) : Except Failure (Logged Notice String) :=
  match inv.task with
  | .build => do
    let metadata ← inv.metadata s Metadata.ofSourcesDocument
    return do
      let m ← metadata
      Logged.report (.built m.elementKey)
      return m.toJson.printed settings.pretty
  | .resolve => do
    let metadata ← inv.metadata s Metadata.ofPagesDocument
    return do
      let m ← metadata
      Logged.report (.resolved m.elementKey m.type)
      return m.toJson.printed settings.pretty
  | .summary given => do
    let now ← now s given
    let metadata ← inv.metadata s Metadata.ofSourcesDocument
    return do
      let summary ← (Summary.ofMetadata (← metadata) now settings.runningSuffix).mapEvents .library
      return inv.summaryText settings summary

def filter (settings : Settings) : Logged Complaint Filter :=
  Filter.choose inv.quiet s.logFilter settings.filter

def run : Outcome :=
  match inv.settings s with
  | .error failure =>
    { exit := 1, stderr := failure.report (inv.output.getD .text) inv.quiet }
  | .ok settings =>
    let filter := inv.filter s settings
    let complaints := String.join (filter.events.map (·.line))
    match inv.result s settings with
    | .ok result =>
      { exit := 0, stdout := result.value
        stderr := complaints ++ Notice.log filter.value result.events }
    | .error failure =>
      { exit := 1
        stderr := complaints ++ Notice.log filter.value [.failed failure] ++
          failure.report (inv.format settings) inv.quiet }

end Invocation

def versionText : String := "flowmeta 0.1.0\n"

def Halt.outcome (text : String) : Halt → Outcome
  | .version => { exit := 0, stdout := versionText }
  | .help => { exit := 0, stdout := text }
  | .misuse _ => { exit := 2, stderr := text }

def runProgram (arguments : List String) (s : Surroundings) : Outcome :=
  match Invocation.ofArguments arguments with
  | .ok inv => inv.run s
  | .error halt => halt.outcome (s.wording.halt arguments halt)

end ElementMetadata
