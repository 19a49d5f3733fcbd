import ElementMetadata.Command.Settings
import ElementMetadata.Json.Printer

/-!
Why a run fails, in a message for its user and in detail for the log.
-/
namespace ElementMetadata

inductive Failure where
  | unreadable (path : String) (fault : ReadFault)
  | notJson (path : String) (error : Located SyntaxFault)
  | badSettings (path : String) (fault : SettingsFault)
  | badDocument (error : DocumentError)
  | badTimestamp (error : TimestampError)

def detailText (name : String) (details : List (String × String)) : String :=
  name ++ " \x7b " ++ ", ".intercalate (details.map fun d => d.1 ++ ": " ++ d.2) ++ " \x7d"

def ReadFault.detail : ReadFault → String
  | .system fault => detailText "Os"
    [ ("code", toString fault.code), ("kind", fault.kind),
      ("message", textLiteral fault.message) ]
  | .notUtf8 => detailText "Error"
    [("kind", "InvalidData"), ("message", textLiteral notUtf8Message)]

def DocumentError.detail : DocumentError → String
  | .notAnObject found => "InvalidDocument(" ++ textLiteral (objectWanted found) ++ ")"
  | .missingField key => detailText "MissingField" [("field", textLiteral key)]
  | .invalidRecord kind fault => detailText "InvalidRecord"
    [("record", textLiteral kind.name), ("message", textLiteral fault.message)]

def TimestampError.detail (e : TimestampError) : String :=
  detailText "InvalidTimestamp"
    [("value", textLiteral e.raw), ("message", textLiteral e.fault.message)]

namespace Failure

def message : Failure → String
  | .unreadable path fault => "error reading file '" ++ path ++ "': " ++ fault.message
  | .notJson path error =>
    "error parsing JSON in '" ++ path ++ "': " ++ error.describe SyntaxFault.message
  | .badSettings path fault => "error parsing config '" ++ path ++ "': " ++ fault.message
  | .badDocument error => error.message
  | .badTimestamp error => error.message

def detail : Failure → String
  | .unreadable path fault => detailText "Read"
    [("path", textLiteral path), ("source", fault.detail)]
  | .notJson path error => detailText "Json"
    [ ("path", textLiteral path),
      ("source", "Error(" ++ textLiteral error.fault.message ++ ", line: " ++
        toString error.line ++ ", column: " ++ toString error.column ++ ")")]
  | .badSettings path fault => detailText "Config"
    [("path", textLiteral path), ("source", fault.detail)]
  | .badDocument error => "Metadata(Records(" ++ error.detail ++ "))"
  | .badTimestamp error => "Metadata(" ++ error.detail ++ ")"

def report (failure : Failure) (format : Format) (quiet : Bool) : String :=
  match format with
  | .text => if quiet then "" else failure.message ++ "\n"
  | .json => (Json.object [("error", .string failure.message)]).compact ++ "\n"

end Failure
end ElementMetadata
