import ElementMetadata.Command.Settings
import ElementMetadata.Text.Split

/-!
The arguments of the program, read one after the other. Options may stand before the command and behind
it; behind it they count for more. Each may be given once at either place.
-/
namespace ElementMetadata

inductive Command where
  | build
  | summary
  | resolve
deriving DecidableEq

def Command.ofName? : String → Option Command
  | "build" => some .build
  | "summary" => some .summary
  | "resolve" => some .resolve
  | _ => none

inductive Task where
  | build
  /-- The time for elements that still run is given or that of the clock. -/
  | summary (now : Option String)
  | resolve
deriving DecidableEq

structure Invocation where
  task : Task
  file : String
  config : Option String := none
  output : Option Format := none
  quiet : Bool := false

inductive Misuse where
  | unknownOption (argument : String)
  | unknownCommand (word : String)
  | repeatedOption (name : String)
  | missingValue (name : String)
  | wrongValue (name value : String)
  | tooManyFiles (word : String)
  | missingCommand
  | missingFile
deriving DecidableEq

inductive Halt where
  | version
  | help
  | misuse (fault : Misuse)
deriving DecidableEq

inductive Valued where
  | output
  | config
  | now
deriving DecidableEq

def Valued.name : Valued → String
  | .output => "output"
  | .config => "config"
  | .now => "now"

structure Options where
  output : Option Format := none
  config : Option String := none
  now : Option String := none
  quiet : Bool := false

namespace Options

def put {α : Type} (option : Valued) (old : Option α) (value : Option α) (raw : String) :
    Except Halt (Option α) :=
  if old.isSome then .error (.misuse (.repeatedOption option.name))
  else if value.isNone then .error (.misuse (.wrongValue option.name raw))
  else .ok value

def set (options : Options) (option : Valued) (raw : String) : Except Halt Options :=
  match option with
  | .output => (put .output options.output (Format.ofName? raw) raw).map ({ options with output := · })
  | .config =>
    (put .config options.config (if raw.isEmpty then none else some raw) raw).map
      ({ options with config := · })
  | .now => (put .now options.now (some raw) raw).map ({ options with now := · })

def setQuiet (options : Options) : Except Halt Options :=
  if options.quiet then .error (.misuse (.repeatedOption "quiet"))
  else .ok { options with quiet := true }

end Options

inductive Topic where
  | program
  | command
deriving DecidableEq

structure Reading where
  /-- The options before the command. -/
  general : Options := {}
  command : Option Command := none
  /-- The options behind the command. -/
  special : Options := {}
  file : Option String := none
  /-- The option whose value the next argument is. -/
  pending : Option Valued := none
  wordsOnly : Bool := false
  /-- Set behind the word `help`, where only a command may follow. -/
  topic : Option Topic := none

namespace Reading

def misuse {α : Type} (fault : Misuse) : Except Halt α := .error (.misuse fault)

def changeOptions (r : Reading) (change : Options → Except Halt Options) : Except Halt Reading :=
  match r.command with
  | none => (change r.general).map ({ r with general := · })
  | some _ => (change r.special).map ({ r with special := · })

def give (r : Reading) (option : Valued) (value : String) : Except Halt Reading :=
  ({ r with pending := none } : Reading).changeOptions (·.set option value)

def word (r : Reading) (w : String) : Except Halt Reading :=
  match r.command with
  | none =>
    if r.wordsOnly then misuse (.unknownCommand w)
    else if w = "help" then .ok { r with topic := some .program }
    else
      match Command.ofName? w with
      | some command => .ok { r with command := some command }
      | none => misuse (.unknownCommand w)
  | some _ =>
    if r.file.isSome then misuse (.tooManyFiles w)
    else if w.isEmpty then misuse .missingFile
    else .ok { r with file := some w }

def valued (r : Reading) (option : Valued) (attached : Option String) : Except Halt Reading :=
  match attached with
  | some value => r.give option value
  | none => .ok { r with pending := some option }

def longOption (r : Reading) (argument name : String) (attached : Option String) :
    Except Halt Reading :=
  match name, attached with
  | "output", _ => r.valued .output attached
  | "config", _ => r.valued .config attached
  | "now", _ =>
    if r.command = some .summary then r.valued .now attached else misuse (.unknownOption argument)
  | "quiet", none => r.changeOptions (·.setQuiet)
  | "help", none => .error .help
  | "version", none => if r.command.isNone then .error .version else misuse (.unknownOption argument)
  | _, _ => misuse (.unknownOption argument)

def shortOption (r : Reading) (argument : String) (letter : Char) : Except Halt Reading :=
  if letter = 'h' then .error .help
  else if letter = 'V' ∧ r.command.isNone then .error .version
  else misuse (.unknownOption argument)

/-- Whether an argument cannot be the value of the option before it. -/
def looksLikeOption (argument : String) : Bool :=
  match argument.toList with
  | '-' :: _ :: _ => true
  | _ => false

def narrow (r : Reading) (topic : Topic) (argument : String) : Except Halt Reading :=
  match topic with
  | .program =>
    if argument = "help" ∨ (Command.ofName? argument).isSome then .ok { r with topic := some .command }
    else misuse (.unknownCommand argument)
  | .command => misuse (.unknownCommand argument)

def step (r : Reading) (argument : String) : Except Halt Reading :=
  match r.topic, r.pending with
  | some topic, _ => r.narrow topic argument
  | none, some option =>
    if looksLikeOption argument then misuse (.missingValue option.name) else r.give option argument
  | none, none =>
    if r.wordsOnly then r.word argument
    else
      match argument.toList with
      | ['-', '-'] => .ok { r with wordsOnly := true }
      | '-' :: '-' :: rest =>
        let (name, attached) := splitEquals rest
        r.longOption argument (String.ofList name) (attached.map String.ofList)
      | '-' :: letter :: _ => r.shortOption argument letter
      | _ => r.word argument

def finish (r : Reading) : Except Halt Invocation :=
  match r.topic, r.pending, r.command, r.file with
  | some _, _, _, _ => .error .help
  | none, some option, _, _ => misuse (.missingValue option.name)
  | none, none, none, _ => misuse .missingCommand
  | none, none, some _, none => misuse .missingFile
  | none, none, some command, some file =>
    let task : Task := match command with
      | .build => .build
      | .summary => .summary r.special.now
      | .resolve => .resolve
    .ok {
      task
      file
      config := r.special.config <|> r.general.config
      output := r.special.output <|> r.general.output
      quiet := r.general.quiet || r.special.quiet }

end Reading

namespace Invocation

def ofArguments (arguments : List String) : Except Halt Invocation := do
  (← arguments.foldlM Reading.step {}).finish

end Invocation
end ElementMetadata
