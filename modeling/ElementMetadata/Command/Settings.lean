import ElementMetadata.Command.Disk
import ElementMetadata.Summary
import ElementMetadata.Toml.Parser

/-!
Settings from a TOML file. Each is optional, and so is each section; what is not known is passed over.
-/
namespace ElementMetadata

inductive Format where
  | text
  | json
deriving DecidableEq

def Format.ofName? : String → Option Format
  | "text" => some .text
  | "json" => some .json
  | _ => none

structure Settings where
  filter : Option String := none
  format : Option Format := none
  /-- Whether JSON is spread over lines. -/
  pretty : Bool := true
  runningSuffix : String := Summary.defaultRunningSuffix

/-- What is said of a text that gives no settings: to the user, and in detail. -/
structure SettingsFault where
  message : String
  detail : String
deriving DecidableEq

namespace Settings

def defaultPath : String := "flowmeta.toml"

/-- The settings of a section. An array gives them by their place; a date is a section without any. -/
def section? (names : List String) : Toml.Node → Option Toml.Entries
  | .table _ entries => some entries
  | .inlineTable entries => some entries
  | .array items => some (names.zip items)
  | .tables earlier last => some (names.zip (earlier ++ [.table .header last]))
  | .date => some []
  | _ => none

def text? : Toml.Node → Option String
  | .text s => some s
  | _ => none

def flag? : Toml.Node → Option Bool
  | .flag b => some b
  | _ => none

def isEmpty : Toml.Node → Bool
  | .array items => items.isEmpty
  | .inlineTable entries | .table _ entries => entries.isEmpty
  | _ => false

/-- A format by its name, which may also be the one key of a table and hold something empty. -/
def format? : Toml.Node → Option Format
  | .text s => Format.ofName? s
  | .inlineTable [(name, node)] | .table _ [(name, node)] =>
    if isEmpty node then Format.ofName? name else none
  | _ => none

/-- What is set at a key, nothing where the key is absent; none where `read` refuses it. -/
def setting? {α : Type} (read : Toml.Node → Option α) (entries : Toml.Entries) (key : String) :
    Option (Option α) :=
  match entries.lookup key with
  | none => some none
  | some node => (read node).map some

def ofEntries? (entries : Toml.Entries) : Option Settings := do
  let logging ← setting? (section? ["filter"]) entries "logging"
  let output ← setting? (section? ["format", "pretty"]) entries "output"
  let summary ← setting? (section? ["running_suffix"]) entries "summary"
  let filter ← setting? text? (logging.getD []) "filter"
  let format ← setting? format? (output.getD []) "format"
  let pretty ← setting? flag? (output.getD []) "pretty"
  let suffix ← setting? text? (summary.getD []) "running_suffix"
  return {
    filter
    format
    pretty := pretty.getD true
    runningSuffix := suffix.getD Summary.defaultRunningSuffix }

/-- The settings in a text. The words for one that gives none are those of `refusal`. -/
def parse (refusal : String → SettingsFault) (text : String) : Except SettingsFault Settings :=
  match (Toml.parse text).bind ofEntries? with
  | none => .error (refusal text)
  | some settings => .ok settings

end Settings
end ElementMetadata
