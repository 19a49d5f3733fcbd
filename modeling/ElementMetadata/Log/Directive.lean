import ElementMetadata.Log.FieldTest
import ElementMetadata.Log.Subject
import ElementMetadata.Text.Split

/-!
Directives of a log filter: a level, a target, or `target[span{field=value}]=level` without some of its
parts. A value is a number, a truth value or a pattern. White space around a directive does not count where
its parts are told apart, but stays part of them: the bytes at which they begin and end are those of the text
without it, and they are cut out of the text with it.
-/
namespace ElementMetadata

/-- A level by its name, in any case, or by its rank; `off` and 0 are no level. -/
def Level.ofText? (text : String) : Option (Option Level) :=
  match text.toLower with
  | "off" => some none
  | "error" => some (some .error)
  | "warn" => some (some .warn)
  | "info" => some (some .info)
  | "debug" => some (some .debug)
  | "trace" => some (some .trace)
  | text =>
    let digits := match text.toList with
      | '+' :: digits => digits
      | digits => digits
    if digits.isEmpty || !digits.all isDigit then none
    else
      match digitsValue 0 digits with
      | 0 => some none
      | n => ([.error, .warn, .info, .debug, .trace].find? (·.rank == n)).map some

/-- One rule of a filter: a level for what it covers, and none if nothing of that is let through. -/
structure Directive where
  /-- What the name of the target begins with. -/
  target : Option String := none
  span : Option String := none
  field : Option FieldTest := none
  level : Option Level := some .trace
deriving DecidableEq

inductive DirectiveFault where
  | malformed
  | notALevel
  | value (fault : Pattern.Fault)
deriving DecidableEq

def DirectiveFault.message : DirectiveFault → String
  | .malformed => "invalid filter directive"
  | .notALevel => "error parsing level filter: expected one of \"off\", \"error\", \"warn\", \"info\", " ++
    "\"debug\", \"trace\", or a number 0-5"
  | .value fault => "invalid field filter: " ++ fault.message

/-- The part of a directive that is being read; numbers are the bytes before it. -/
inductive DirectivePart where
  | nothing
  | target
  | span (start : Nat)
  | field (start : Nat)
  | afterField
  | afterSpan
  | level (start : Nat)

namespace Directive

/-- A text behind some of its bytes, which must not end inside a character. -/
def behind (text : List Char) (start : Nat) : Except DirectiveFault (List Char) :=
  match splitBytes? start text with
  | some (_, rest) => .ok rest
  | none => .error .malformed

def cut (text : List Char) (start stop : Nat) : Except DirectiveFault String := do
  match splitBytes? (stop - start) (← behind text start) with
  | some (part, _) => return String.ofList part
  | none => .error .malformed

def opensTarget (c : Char) : Bool := isAlphanumeric c || c == '-' || c == ':' || c == '_'

/-- Reads a character that stands behind so many bytes. What is cut out comes from the whole text. -/
def readChar (text : List Char) :
    DirectivePart × Directive → Char × Nat → Except DirectiveFault (DirectivePart × Directive)
  | (.nothing, d), (c, i) =>
    if c = '[' then .ok (.span (i + 1), d)
    else if opensTarget c then .ok (.target, d)
    else .error .malformed
  | (.target, d), (c, i) =>
    if c = '=' then do return (.level (i + 1), { d with target := some (← cut text 0 i) })
    else if c = '[' then do return (.span (i + 1), { d with target := some (← cut text 0 i) })
    else .ok (.target, d)
  | (.span start, d), (c, i) =>
    if c = ']' then do return (.afterSpan, { d with span := some (← cut text start i) })
    else if c = '\x7b' then do
      let name ← cut text start i
      return (.field (i + 1), { d with span := if name = "" then none else some name })
    else .ok (.span start, d)
  | (.field start, d), (c, i) =>
    if c = '\x7d' then do
      let test ← cut text start i
      if test = "" then .error .malformed
      else
        let field ← (FieldTest.ofText test).mapError .value
        return (.afterField, { d with field })
    else .ok (.field start, d)
  | (.afterField, d), (c, _) => if c = ']' then .ok (.afterSpan, d) else .error .malformed
  | (.afterSpan, d), (c, i) => if c = '=' then .ok (.level (i + 1), d) else .error .malformed
  | (.level start, d), _ => .ok (.level start, d)

/-- The directive at the end of a text. A target alone may turn out to be a level, and without a level
everything is let through. -/
def finish (text : List Char) : DirectivePart × Directive → Except DirectiveFault Directive
  | (.target, d) =>
    let whole := String.ofList text
    match Level.ofText? whole with
    | some level => .ok { d with level }
    | none => .ok { d with target := some whole }
  | (.level start, d) => do
    let name := String.ofList (← behind text start)
    if name = "" then return d
    else
      match Level.ofText? name with
      | some level => return { d with level }
      | none => .error .notALevel
  | (.afterSpan, d) => .ok d
  | _ => .error .malformed

def ofText (text : String) : Except DirectiveFault Directive := do
  let places := bytePlaces 0 (trimSpace text.toList)
  finish text.toList (← places.foldlM (readChar text.toList) (.nothing, {}))

/-- Whether a directive is about a line. There are no spans, so one that asks for a span, or for a value
of a field, which spans carry, is about none. -/
def covers (d : Directive) (s : Subject) : Bool :=
  d.span.isNone && d.target.all (fun target => target.toList.isPrefixOf s.target.name.toList) &&
    d.field.all fun test => test.value.isNone && s.fieldNames.contains test.name

/-- How closely a directive describes what it covers: the length of its target counts first, then
whether it names a field. -/
def closeness (d : Directive) : Nat :=
  2 * d.target.elim 0 (·.length + 1) + if d.field.isSome then 1 else 0

/-- Whether a directive gives way to a later one; of two that are equally close the greater field wins. -/
def givesWayTo (d later : Directive) : Bool :=
  d.closeness < later.closeness || (d.closeness == later.closeness &&
    d.field.elim "" (·.name) ≤ later.field.elim "" (·.name))

end Directive
end ElementMetadata
