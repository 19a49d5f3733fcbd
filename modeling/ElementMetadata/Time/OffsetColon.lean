import ElementMetadata.Text.Split
import ElementMetadata.Time.Timestamp

/-!
Putting the colon into an offset, on the text itself. Bytes may be looked at wherever they are, but
a text is parted between two characters only, so a step at a wrong place is a fault of its own.
-/
namespace ElementMetadata.Timestamp

/-- Puts the colon into an offset of a sign and four digits at the end, if there is one. -/
def insertOffsetColon (raw : String) : Except CutFault (Option String) :=
  if raw.utf8ByteSize < 5 then .ok none
  else
    match splitBytes? (raw.utf8ByteSize - 5) raw.toList with
    | none => .ok none
    | some (head, offset) => do
      let sign ← byteAt (utf8 offset) 0
      if sign = 43 ∨ sign = 45 then
        let digits ← bytesFrom (utf8 offset) 1
        if digits.all isDigitByte then
          -- Only now are the five bytes known to be characters of their own.
          let (front, back) ← cutAt offset 3
          return some (String.ofList (head ++ front ++ ':' :: back))
        else return none
      else return none

end ElementMetadata.Timestamp
