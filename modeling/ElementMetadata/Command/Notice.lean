import ElementMetadata.Command.Failure
import ElementMetadata.Log.Filter

/-!
The lines of the log: the events of the library, and those of the command itself.
-/
namespace ElementMetadata

inductive Notice where
  | library (event : Event)
  | built (elementKey : String)
  | resolved (elementKey : String) (type : Wire ElementType)
  | failed (failure : Failure)

namespace Notice

def target : Notice → Target
  | .library (.jobAndTask _) => .metadata
  | .library (.severalMatches ..) => .resolution
  | .library (.durationSkipped ..) => .summary
  | .built _ => .buildCommand
  | .resolved .. => .resolveCommand
  | .failed _ => .program

def level : Notice → Level
  | .library event => event.level
  | .built _ | .resolved .. => .info
  | .failed _ => .debug

def message : Notice → String
  | .library event => event.message
  | .built _ => "built instance metadata"
  | .resolved .. => "resolved linked records"
  | .failed _ => "command failed"

/-- The fields as they are written on a line. Those about matches have their strings in quotes. -/
def fields : Notice → List (String × String)
  | .library (.severalMatches kind key ignored) =>
    [ ("kind", textLiteral kind.name), ("element_instance_key", textLiteral key),
      ("ignored", toString ignored) ]
  | .library event => event.fields
  | .built key => [("element_instance_key", key)]
  | .resolved key type => [("element_instance_key", key), ("element_type", type.toString)]
  | .failed failure => [("error", failure.detail)]

def line (notice : Notice) : String :=
  notice.level.name ++ " " ++ notice.message ++
    String.join (notice.fields.map fun field => " " ++ field.1 ++ "=" ++ field.2) ++ "\n"

/-- What a filter sees of a notice, whose message is a field too. -/
def subject (notice : Notice) : Subject where
  target := notice.target
  level := notice.level
  fieldNames := "message" :: notice.fields.map (·.1)

def log (filter : Filter) (notices : List Notice) : String :=
  String.join ((notices.filter fun n => filter.allows n.subject).map line)

end Notice
end ElementMetadata
