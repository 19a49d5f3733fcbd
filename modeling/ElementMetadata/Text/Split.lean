/-!
Taking a text apart.
-/
namespace ElementMetadata

def splitEquals : List Char → List Char × Option (List Char)
  | [] => ([], none)
  | '=' :: rest => ([], some rest)
  | c :: rest => (c :: (splitEquals rest).1, (splitEquals rest).2)

/-- The first so many bytes of a text and the others, if no character has bytes in both. -/
def splitBytes? : Nat → List Char → Option (List Char × List Char)
  | 0, text => some ([], text)
  | _ + 1, [] => none
  | n + 1, c :: rest =>
    if c.utf8Size ≤ n + 1 then (splitBytes? (n + 1 - c.utf8Size) rest).map fun (part, rest) => (c :: part, rest)
    else none

def utf8 (text : List Char) : List UInt8 := text.flatMap String.utf8EncodeChar

inductive CutFault where
  | beyondEnd
  | withinCharacter
deriving DecidableEq

def byteAt (bytes : List UInt8) (place : Nat) : Except CutFault UInt8 :=
  match bytes[place]? with
  | some b => .ok b
  | none => .error .beyondEnd

def bytesFrom (bytes : List UInt8) (place : Nat) : Except CutFault (List UInt8) :=
  if bytes.length < place then .error .beyondEnd else .ok (bytes.drop place)

def cutAt (text : List Char) (place : Nat) : Except CutFault (List Char × List Char) :=
  match splitBytes? place text with
  | some parts => .ok parts
  | none => .error (if (utf8 text).length < place then .beyondEnd else .withinCharacter)

/-- Each character with the number of bytes before it, `count` being that of the text before. -/
def bytePlaces (count : Nat) : List Char → List (Char × Nat)
  | [] => []
  | c :: rest => (c, count) :: bytePlaces (count + c.utf8Size) rest

end ElementMetadata
