import ElementMetadata.Json.Skip
import ElementMetadata.Record.Fault

/-!
Forms of JSON values: which values a field accepts, and the normal form in which it keeps one. Each
form is read from a value or straight from a text; in a text the first fault from its front counts.
-/
namespace ElementMetadata

/-- A way of reading values: from a JSON value, and from a text in which values may nest so deep.
Both give the normal form of the value. -/
structure Form where
  ofValue : Json → Except Fault Json
  ofText : Nat → List Char → Scan TextFault (Json × List Char)

namespace Form

def faultAt {α : Type} (fault : Fault) (rest : List Char) : Scan TextFault α :=
  .error ⟨.form fault, byteCount rest⟩

/-- The fault of a text that begins with something else than expected. It lies behind a scalar, but
in front of an array or an object. -/
def wrongTypeAt {α : Type} (expected : Expected) (text : List Char) : Scan TextFault α :=
  match text with
  | [] => stopAt .valueEnds []
  | '[' :: rest => faultAt (.wrongType .sequence expected) ('[' :: rest)
  | '\x7b' :: rest => faultAt (.wrongType .map expected) ('\x7b' :: rest)
  | text => do
    let (v, rest) ← Json.readValue 0 text
    faultAt (.wrongType (Found.ofJson v) expected) rest

def text : Form where
  ofValue
    | .string s => .ok (.string s)
    | v => .error (.wrongType (Found.ofJson v) .text)
  ofText _ text :=
    match Json.skipBlanks text with
    | '\"' :: rest => (Json.readString rest).map fun (s, rest) => (.string s, rest)
    | text => wrongTypeAt .text text

def boolean : Form where
  ofValue
    | .bool b => .ok (.bool b)
    | v => .error (.wrongType (Found.ofJson v) .boolean)
  ofText _ text :=
    match Json.skipBlanks text with
    | 't' :: rest => (Json.readName ('t' :: rest)).map fun rest => (.bool true, rest)
    | 'f' :: rest => (Json.readName ('f' :: rest)).map fun rest => (.bool false, rest)
    | text => wrongTypeAt .boolean text

/-- An integer in the range of a word; a float is none, whatever its value. -/
def integer (width : Width) : Form where
  ofValue := check
  ofText _ text :=
    match Json.skipBlanks text with
    | [] => wrongTypeAt (.integer width) []
    | c :: rest =>
      if Json.beginsNumber c then do
        let (v, rest) ← Json.readNumber (c :: rest)
        match check v with
        | .ok v => return (v, rest)
        | .error fault => faultAt fault rest
      else wrongTypeAt (.integer width) (c :: rest)
where
  check : Json → Except Fault Json
    | .integer n =>
      if width.Holds n.val then .ok (.integer n) else .error (.outOfRange n.val width)
    | v => .error (.wrongType (Found.ofJson v) (.integer width))

def any : Form where
  ofValue v := .ok v
  ofText depth text := (Json.readValue depth text).map fun (v, rest) => (v.canonical, rest)

def optional (form : Form) : Form where
  ofValue
    | .null => .ok .null
    | v => form.ofValue v
  ofText depth text :=
    match Json.skipBlanks text with
    | 'n' :: rest => (Json.readName ('n' :: rest)).map fun rest => (.null, rest)
    | text => form.ofText depth text

def list (form : Form) : Form where
  ofValue
    | .array items => (items.mapM form.ofValue).map .array
    | v => .error (.wrongType (Found.ofJson v) .sequence)
  ofText depth text :=
    match Json.skipBlanks text with
    | '[' :: rest =>
      match depth with
      | 0 => stopNext .tooDeep ('[' :: rest)
      | depth + 1 =>
        (Json.readItems (form.ofText depth) rest).map fun (items, rest) => (.array items, rest)
    | text => wrongTypeAt .sequence text

def members (form : Form) (ms : List (String × Json)) : Except Fault (List (String × Json)) :=
  ms.mapM fun (key, v) => (form.ofValue v).map (key, ·)

def map (form : Form) : Form where
  ofValue
    | .object ms => (form.members ms).map .object
    | v => .error (.wrongType (Found.ofJson v) .map)
  ofText depth text :=
    match Json.skipBlanks text with
    | '\x7b' :: rest =>
      match depth with
      | 0 => stopNext .tooDeep ('\x7b' :: rest)
      | depth + 1 =>
        (Json.readMembers (Json.keepMember (form.ofText depth)) [] rest).map
          fun (ms, rest) => (.object (Json.sortMembers ms), rest)
    | text => wrongTypeAt .map text

end Form
end ElementMetadata
