import ElementMetadata.Pattern.Reader

/-!
What a log filter asks of a field. The value of a field is compared with a truth value or a number, and
matched with any other text as a pattern.
-/
namespace ElementMetadata

structure FieldTest where
  name : String
  value : Option String := none
deriving DecidableEq

namespace FieldTest

def withoutSign : List Char → List Char
  | '+' :: rest | '-' :: rest => rest
  | text => text

def isExponent : List Char → Bool
  | [] => true
  | c :: rest =>
    let digits := withoutSign rest
    (c == 'e' || c == 'E') && !digits.isEmpty && digits.all isDigit

def isDecimal (text : List Char) : Bool :=
  let whole := text.takeWhile isDigit
  match text.dropWhile isDigit with
  | '.' :: rest =>
    (!whole.isEmpty || !(rest.takeWhile isDigit).isEmpty) && isExponent (rest.dropWhile isDigit)
  | rest => !whole.isEmpty && isExponent rest

def isNumber (text : List Char) : Bool :=
  let text := withoutSign text
  ["inf", "infinity", "nan"].contains (String.ofList text).toLower || isDecimal text

def fault? (value : String) : Option Pattern.Fault :=
  if value = "true" ∨ value = "false" ∨ isNumber value.toList then none
  else Pattern.fault? value.toList

/-- Reads the name of a field, and its value between the first equals sign and the next. -/
def ofText (text : String) : Except Pattern.Fault FieldTest :=
  match text.splitOn "=" with
  | name :: value :: _ =>
    match fault? value with
    | none => .ok { name, value := some value }
    | some fault => .error fault
  | _ => .ok { name := text }

end FieldTest
end ElementMetadata
