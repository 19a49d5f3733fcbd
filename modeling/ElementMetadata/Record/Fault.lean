import ElementMetadata.Decimal.Layout
import ElementMetadata.Json.Basic
import ElementMetadata.Json.Fault
import ElementMetadata.Text.Literal

/-!
Why a JSON value is not the record that it should be.
-/
namespace ElementMetadata

inductive Width where
  | signed64
  | signed32
  | unsigned64
deriving DecidableEq

namespace Width

def name : Width → String
  | .signed64 => "i64"
  | .signed32 => "i32"
  | .unsigned64 => "u64"

def Holds (w : Width) (n : Int) : Prop :=
  match w with
  | .signed64 => -9223372036854775808 ≤ n ∧ n ≤ 9223372036854775807
  | .signed32 => -2147483648 ≤ n ∧ n ≤ 2147483647
  | .unsigned64 => 0 ≤ n ∧ n ≤ 18446744073709551615

instance (w : Width) (n : Int) : Decidable (w.Holds n) := by
  cases w <;> unfold Holds <;> infer_instance

end Width

inductive Found where
  | null
  | boolean (value : Bool)
  | integer (value : Int)
  | float (value : Float)
  | text (value : String)
  | sequence
  | map

namespace Found

def ofJson : Json → Found
  | .null => .null
  | .bool b => .boolean b
  | .integer n => .integer n.val
  | .float x => .float x
  | .string s => .text s
  | .array _ => .sequence
  | .object _ => .map

def message : Found → String
  | .null => "null"
  | .boolean b => "boolean `" ++ toString b ++ "`"
  | .integer n => "integer `" ++ toString n ++ "`"
  | .float x => "floating point `" ++ FloatLayout.wire.write x ++ "`"
  | .text s => "string " ++ textLiteral s
  | .sequence => "sequence"
  | .map => "map"

end Found

inductive Expected where
  | text
  | boolean
  | integer (width : Width)
  | sequence
  | map
  | record (name : String)
deriving DecidableEq

def Expected.message : Expected → String
  | .text => "a string"
  | .boolean => "a boolean"
  | .integer w => w.name
  | .sequence => "a sequence"
  | .map => "a map"
  | .record name => "struct " ++ name

inductive Fault where
  | wrongType (found : Found) (expected : Expected)
  | outOfRange (value : Int) (width : Width)
  | missingField (key : String)
  | duplicateField (key : String)
  /-- An array that ends before the field of this index, which has to be there. -/
  | tooShort (index : Nat) (record : String) (fields : Nat)
  /-- An array with more items than the record has fields. -/
  | tooLong (length : Nat)

def Fault.message : Fault → String
  | .wrongType found expected =>
    "invalid type: " ++ found.message ++ ", expected " ++ expected.message
  | .outOfRange n w =>
    "invalid value: " ++ (Found.integer n).message ++ ", expected " ++ w.name
  | .missingField key => "missing field `" ++ key ++ "`"
  | .duplicateField key => "duplicate field `" ++ key ++ "`"
  | .tooShort index record fields =>
    "invalid length " ++ toString index ++ ", expected struct " ++ record ++ " with " ++
      toString fields ++ if fields = 1 then " element" else " elements"
  | .tooLong length => "invalid length " ++ toString length ++ ", expected fewer elements in array"

inductive TextFault where
  | grammar (fault : SyntaxFault)
  | form (fault : Fault)

instance : FromSyntax TextFault := ⟨.grammar⟩

def TextFault.message : TextFault → String
  | .grammar fault => fault.message
  | .form fault => fault.message

end ElementMetadata
