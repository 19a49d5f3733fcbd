import ElementMetadata.Record.Form

/-!
Records: objects with known keys. A record is described by its slots in declaration order. It is read
from an object, whose unknown keys are passed over, or from an array of its fields in that order.
The normal form of a record is the object of the fields that are there and not null, in
declaration order.
-/
namespace ElementMetadata

/-- A field of a record, as far as reading goes. -/
structure Slot where
  key : String
  needed : Bool
  form : Form

abbrev Members := List (String × Json)

namespace Slot

def find? (slots : List Slot) (key : String) : Option Slot := slots.find? (·.key == key)

def readKnown (slots : List Slot) : Members → Except Fault Members
  | [] => .ok []
  | (key, v) :: rest =>
    match find? slots key with
    | none => readKnown slots rest
    | some slot => do
      let v ← slot.form.ofValue v
      let rest ← readKnown slots rest
      return (key, v) :: rest

/-- Reads the values at known keys, and refuses a known key that comes a second time. -/
def readKnownOnce (slots : List Slot) (seen : List String) : Members → Except Fault Members
  | [] => .ok []
  | (key, v) :: rest =>
    match find? slots key with
    | none => readKnownOnce slots seen rest
    | some slot =>
      if seen.contains key then .error (.duplicateField key)
      else do
        let v ← slot.form.ofValue v
        let rest ← readKnownOnce slots (key :: seen) rest
        return (key, v) :: rest

/-- Reads the items of an array as the fields in declaration order. Fields at the end may be left out
if none of them has to be there; `index` is that of the first slot. -/
def readInOrder (record : String) (fields length : Nat) :
    Nat → List Slot → List Json → Except Fault Members
  | _, [], [] => .ok []
  | _, [], _ :: _ => .error (.tooLong length)
  | index, slot :: slots, [] =>
    if slot.needed then .error (.tooShort index record fields)
    else readInOrder record fields length (index + 1) slots []
  | index, slot :: slots, v :: rest => do
    let v ← slot.form.ofValue v
    let rest ← readInOrder record fields length (index + 1) slots rest
    return (slot.key, v) :: rest

def normal (slots : List Slot) (read : Members) : Json :=
  .object <| slots.filterMap fun slot =>
    match read.lookup slot.key with
    | none | some .null => none
    | some v => some (slot.key, v)

def missing? (slots : List Slot) (read : Members) : Option Slot :=
  slots.find? fun slot => slot.needed && (read.lookup slot.key).isNone

def complete (slots : List Slot) (read : Members) : Except Fault Json :=
  match missing? slots read with
  | some slot => .error (.missingField slot.key)
  | none => .ok (normal slots read)

/-! Reading from a text. A fault that has no place of its own is reported behind the closing bracket,
if that comes next. -/

def behindClosing (bracket : Char) (text : List Char) : List Char :=
  match Json.skipBlanks text with
  | c :: rest => if c = bracket then rest else c :: rest
  | [] => []

def readMember (slots : List Slot) (depth : Nat) (read : Members) (key : String)
    (text : List Char) : Scan TextFault (Members × List Char) :=
  match find? slots key with
  | none => do
    let text ← Json.readColon text
    let rest ← Json.skip text
    return (read, rest)
  | some slot =>
    if (read.lookup key).isSome then
      Form.faultAt (.duplicateField key) (behindClosing '\x7d' text)
    else Json.keepMember (slot.form.ofText depth) read key text

def readArrayEnd (text : List Char) : Scan TextFault (List Char) :=
  match Json.skipBlanks text with
  | [] => stopAt .listEnds []
  | ']' :: rest => .ok rest
  | ',' :: rest =>
    match Json.skipBlanks rest with
    | ']' :: rest => stopNext .trailingComma (']' :: rest)
    | rest => stopNext .trailingCharacters rest
  | rest => stopNext .trailingCharacters rest

/-- What follows in an array: no more items, or one that begins here. -/
def nextItem? (first : Bool) (text : List Char) : Scan TextFault (Bool × List Char) :=
  match Json.skipBlanks text with
  | [] => stopAt .listEnds []
  | ']' :: rest => .ok (false, rest)
  | rest =>
    if first then .ok (true, rest)
    else match rest with
      | ',' :: rest =>
        match Json.skipBlanks rest with
        | [] => stopAt .valueEnds []
        | ']' :: rest => stopNext .trailingComma (']' :: rest)
        | rest => .ok (true, rest)
      | rest => stopNext .listCommaExpected rest

def readItemsInOrder (record : String) (fields depth : Nat) :
    Nat → List Slot → List Char → Scan TextFault (Members × List Char)
  | _, [], text => (readArrayEnd text).map ([], ·)
  | index, slot :: slots, text => do
    let (more, text) ← nextItem? (index = 0) text
    if more then
      let (v, text) ← slot.form.ofText depth text
      let (rest, text) ← readItemsInOrder record fields depth (index + 1) slots text
      return ((slot.key, v) :: rest, text)
    else
      match (slot :: slots).findIdx? (·.needed) with
      | some i => Form.faultAt (.tooShort (index + i) record fields) text
      | none => return ([], text)

end Slot

namespace Form

def placed {α : Type} (result : Except Fault α) (rest : List Char) : Scan TextFault (α × List Char) :=
  match result with
  | .ok v => .ok (v, rest)
  | .error fault => faultAt fault rest

def record (name : String) (slots : List Slot) : Form where
  ofValue
    | .object ms => do
      let read ← Slot.readKnown slots ms
      Slot.complete slots read
    | .array items => do
      let read ← Slot.readInOrder name slots.length items.length 0 slots items
      return Slot.normal slots read
    | v => .error (.wrongType (Found.ofJson v) (.record name))
  ofText depth text :=
    match Json.skipBlanks text with
    | '\x7b' :: rest =>
      match depth with
      | 0 => stopNext .tooDeep ('\x7b' :: rest)
      | depth + 1 => do
        let (read, rest) ← Json.readMembers (Slot.readMember slots depth) [] rest
        placed (Slot.complete slots read) rest
    | '[' :: rest =>
      match depth with
      | 0 => stopNext .tooDeep ('[' :: rest)
      | depth + 1 => do
        let (read, rest) ← Slot.readItemsInOrder name slots.length depth 0 slots rest
        return (Slot.normal slots read, rest)
    | text => wrongTypeAt (.record name) text

/-- Reads a member of a merged record from behind its key: an own field by its form, any other as
the value that it is. -/
def readMergedMember (own : List Slot) (depth : Nat) (read : Members × Members) (key : String)
    (text : List Char) : Scan TextFault ((Members × Members) × List Char) :=
  match Slot.find? own key with
  | some _ => do
    let (first, rest) ← Slot.readMember own depth read.1 key text
    return ((first, read.2), rest)
  | none => do
    let (others, rest) ← Json.keepMember (Json.readValue depth) read.2 key text
    return ((read.1, others), rest)

/-- An object that is two records in one, with own fields and those of an inner record, none of which
has to be there. All own fields are read before any inner one. An array is no such record. -/
def merged (name : String) (own inner : List Slot) : Form where
  ofValue
    | .object ms => do
      let first ← Slot.readKnown own ms
      let second ← Slot.readKnown inner ms
      Slot.complete (own ++ inner) (first ++ second)
    | v => .error (.wrongType (Found.ofJson v) (.record name))
  ofText depth text :=
    match Json.skipBlanks text with
    | '\x7b' :: rest =>
      match depth with
      | 0 => stopNext .tooDeep ('\x7b' :: rest)
      | depth + 1 => do
        let ((first, others), rest) ← Json.readMembers (readMergedMember own depth) ([], []) rest
        let (second, rest) ← placed (Slot.readKnownOnce inner [] others) rest
        let second := second.map fun (key, v) => (key, v.canonical)
        placed (Slot.complete (own ++ inner) (first ++ second)) rest
    | text => wrongTypeAt (.record name) text

end Form

structure Column (ρ : Type) where
  key : String
  write : ρ → Option Json

namespace Column
variable {ρ : Type}

def always (key : String) (write : ρ → Json) : Column ρ := ⟨key, fun r => some (write r)⟩

def omitted (key : String) (write : ρ → Option Json) : Column ρ := ⟨key, write⟩

def nullable (key : String) (write : ρ → Option Json) : Column ρ :=
  ⟨key, fun r => some (Json.ofOption (write r))⟩

def writeAll (columns : List (Column ρ)) (r : ρ) : Json :=
  .object (columns.filterMap fun column => (column.write r).map (column.key, ·))

end Column

structure Field (ρ : Type) where
  column : Column ρ
  needed : Bool
  form : Form

namespace Field
variable {ρ : Type}

def slot (field : Field ρ) : Slot := ⟨field.column.key, field.needed, field.form⟩

def required (key : String) (form : Form) (write : ρ → Json) : Field ρ :=
  ⟨.always key write, true, form⟩

/-- A field that may be absent or null, and is not written then. -/
def optional (key : String) (form : Form) (write : ρ → Option Json) : Field ρ :=
  ⟨.omitted key write, false, form.optional⟩

/-- A field that may be absent or null, and is written as null then. -/
def nullable (key : String) (form : Form) (write : ρ → Option Json) : Field ρ :=
  ⟨.nullable key write, false, form.optional⟩

/-- A field that may be absent but not null, and is always written. -/
def defaulted (key : String) (form : Form) (write : ρ → Json) : Field ρ :=
  ⟨.always key write, false, form⟩

def within {σ : Type} (field : Field ρ) (part : σ → ρ) : Field σ :=
  ⟨⟨field.column.key, fun r => field.column.write (part r)⟩, field.needed, field.form⟩

def slots (fields : List (Field ρ)) : List Slot := fields.map slot

def writeAll (fields : List (Field ρ)) (r : ρ) : Json := Column.writeAll (fields.map column) r

end Field

/-- A type that is read from JSON and written to it. `ofNormal` is asked for normal forms of `form`
only. -/
class Codec (α : Type) where
  form : Form
  ofNormal : Json → α
  toJson : α → Json

namespace Codec
variable {α : Type} [Codec α]

def read (v : Json) : Except Fault α := (form α).ofValue v |>.map ofNormal

def readText (text : String) : Except (Located TextFault) α :=
  (Json.readWholeText ((form α).ofText Json.maxDepth) text).map ofNormal

end Codec
end ElementMetadata
