/-!
Why and where a JSON text cannot be read. A fault carries the number of bytes that lie behind it;
`Located` turns that into a line and a column, both counted the way editors do, the column in bytes.
-/
namespace ElementMetadata

inductive SyntaxFault where
  | listEnds
  | objectEnds
  | stringEnds
  | valueEnds
  | colonExpected
  | listCommaExpected
  | objectCommaExpected
  | wordExpected
  | valueExpected
  | badEscape
  | badNumber
  | numberTooLarge
  | controlCharacter
  | keyExpected
  | loneSurrogate
  | hexEscapeEnds
  | trailingComma
  | trailingCharacters
  | tooDeep
deriving DecidableEq

def SyntaxFault.message : SyntaxFault → String
  | .listEnds => "EOF while parsing a list"
  | .objectEnds => "EOF while parsing an object"
  | .stringEnds => "EOF while parsing a string"
  | .valueEnds => "EOF while parsing a value"
  | .colonExpected => "expected `:`"
  | .listCommaExpected => "expected `,` or `]`"
  | .objectCommaExpected => "expected `,` or `\x7d`"
  | .wordExpected => "expected ident"
  | .valueExpected => "expected value"
  | .badEscape => "invalid escape"
  | .badNumber => "invalid number"
  | .numberTooLarge => "number out of range"
  | .controlCharacter => "control character (\\u0000-\\u001F) found while parsing a string"
  | .keyExpected => "key must be a string"
  | .loneSurrogate => "lone leading surrogate in hex escape"
  | .hexEscapeEnds => "unexpected end of hex escape"
  | .trailingComma => "trailing comma"
  | .trailingCharacters => "trailing characters"
  | .tooDeep => "recursion limit exceeded"

class FromSyntax (ε : Type) where
  fromSyntax : SyntaxFault → ε

instance : FromSyntax SyntaxFault := ⟨id⟩

/-- A fault, and how many bytes of the text lie behind the place it is reported at. -/
structure Stop (ε : Type) where
  fault : ε
  left : Nat

/-- Reading from the front of a text. What is left of the text is part of the result. -/
abbrev Scan (ε : Type) := Except (Stop ε)

def byteCount : List Char → Nat
  | [] => 0
  | c :: rest => c.utf8Size + byteCount rest

variable {ε α : Type}

def stopAt [FromSyntax ε] (fault : SyntaxFault) (rest : List Char) : Scan ε α :=
  .error ⟨FromSyntax.fromSyntax fault, byteCount rest⟩

/-- A fault of the grammar one byte into `rest`, or at its end if it is empty. -/
def stopNext [FromSyntax ε] (fault : SyntaxFault) (rest : List Char) : Scan ε α :=
  .error ⟨FromSyntax.fromSyntax fault, byteCount rest - 1⟩

/-- A fault with its line, from one, and its column, the bytes between it and the line's start. -/
structure Located (ε : Type) where
  fault : ε
  line : Nat
  column : Nat

def placeAfter (offset line column : Nat) : List Char → Nat × Nat
  | [] => (line, column + offset)
  | c :: rest =>
    if offset < c.utf8Size then (line, column + offset)
    else if c = '\n' then placeAfter (offset - 1) (line + 1) 0 rest
    else placeAfter (offset - c.utf8Size) line (column + c.utf8Size) rest

def Stop.locate (stop : Stop ε) (text : List Char) : Located ε :=
  let place := placeAfter (byteCount text - stop.left) 1 0 text
  ⟨stop.fault, place.1, place.2⟩

def Located.describe (error : Located ε) (message : ε → String) : String :=
  message error.fault ++ " at line " ++ toString error.line ++ " column " ++ toString error.column

end ElementMetadata
