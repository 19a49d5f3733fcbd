/-!
What the program sees of the file system: the bytes at a path, or why there are none.
-/
namespace ElementMetadata

/-- Why the system gives no bytes for a path: its number for the fault, with the kind and the message
that belong to the number. -/
structure SystemFault where
  code : Nat
  kind : String
  message : String
deriving DecidableEq

def SystemFault.nothing : SystemFault := ⟨2, "NotFound", "No such file or directory"⟩

abbrev Content := Except SystemFault ByteArray

inductive ReadFault where
  | system (fault : SystemFault)
  | notUtf8
deriving DecidableEq

namespace ReadFault

def notUtf8Message : String := "stream did not contain valid UTF-8"

def message : ReadFault → String
  | .system fault => fault.message ++ " (os error " ++ toString fault.code ++ ")"
  | .notUtf8 => notUtf8Message

end ReadFault

def Content.text : Content → Except ReadFault String
  | .error fault => .error (.system fault)
  | .ok bytes =>
    match String.fromUTF8? bytes with
    | some s => .ok s
    | none => .error .notUtf8

end ElementMetadata
