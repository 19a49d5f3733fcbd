import ElementMetadata.Json.Number

/-!
Reading a JSON value from text. `readItems` and `readMembers` are the brackets, the commas and the
keys of arrays and objects; what stands between them is a parameter, so that a record can be read by
them too. Values nest at most `maxDepth` deep. `Json.parse` reads a whole text.
-/
namespace ElementMetadata.Json
variable {ε : Type} [FromSyntax ε]

def maxDepth : Nat := 127

def readMoreItems {α : Type} (item : List Char → Scan ε (α × List Char)) :
    Nat → List Char → Scan ε (List α × List Char)
  | 0, text => stopAt .listEnds text
  | fuel + 1, text =>
    match skipBlanks text with
    | [] => stopAt .listEnds []
    | ']' :: rest => .ok ([], rest)
    | ',' :: rest =>
      match skipBlanks rest with
      | [] => stopAt .valueEnds []
      | ']' :: rest => stopNext .trailingComma (']' :: rest)
      | rest => do
        let (x, rest) ← item rest
        let (xs, rest) ← readMoreItems item fuel rest
        return (x :: xs, rest)
    | rest => stopNext .listCommaExpected rest

def readItems {α : Type} (item : List Char → Scan ε (α × List Char)) (text : List Char) :
    Scan ε (List α × List Char) :=
  match skipBlanks text with
  | [] => stopAt .listEnds []
  | ']' :: rest => .ok ([], rest)
  | rest => do
    let (x, rest) ← item rest
    let (xs, rest) ← readMoreItems item rest.length rest
    return (x :: xs, rest)

def readColon (text : List Char) : Scan ε (List Char) :=
  match skipBlanks text with
  | [] => stopAt .objectEnds []
  | ':' :: rest => .ok rest
  | rest => stopNext .colonExpected rest

/-- Reads members behind the first, up to and with the closing brace. Each is read by `member` from
behind its key, in the state that the ones before it left. -/
def readMoreMembers {σ : Type} (member : σ → String → List Char → Scan ε (σ × List Char)) :
    Nat → σ → List Char → Scan ε (σ × List Char)
  | 0, _, text => stopAt .objectEnds text
  | fuel + 1, state, text =>
    match skipBlanks text with
    | [] => stopAt .objectEnds []
    | '\x7d' :: rest => .ok (state, rest)
    | ',' :: rest =>
      match skipBlanks rest with
      | [] => stopAt .valueEnds []
      | '\"' :: rest => do
        let (key, rest) ← readString rest
        let (state, rest) ← member state key rest
        readMoreMembers member fuel state rest
      | '\x7d' :: rest => stopNext .trailingComma ('\x7d' :: rest)
      | rest => stopNext .keyExpected rest
    | rest => stopNext .objectCommaExpected rest

def readMembers {σ : Type} (member : σ → String → List Char → Scan ε (σ × List Char)) (state : σ)
    (text : List Char) : Scan ε (σ × List Char) :=
  match skipBlanks text with
  | [] => stopAt .objectEnds []
  | '\x7d' :: rest => .ok (state, rest)
  | '\"' :: rest => do
    let (key, rest) ← readString rest
    let (state, rest) ← member state key rest
    readMoreMembers member rest.length state rest
  | rest => stopNext .keyExpected rest

def keepMember {α : Type} (value : List Char → Scan ε (α × List Char))
    (members : List (String × α)) (key : String) (text : List Char) :
    Scan ε (List (String × α) × List Char) := do
  let text ← readColon text
  let (v, rest) ← value text
  return (members ++ [(key, v)], rest)

/-- Reads a value that nests at most `depth` deep, its members in the order of the text. -/
def readValue (depth : Nat) (text : List Char) : Scan ε (Json × List Char) :=
  match skipBlanks text with
  | [] => stopAt .valueEnds []
  | '\"' :: rest => (readString rest).map fun (s, rest) => (.string s, rest)
  | '[' :: rest =>
    match depth with
    | 0 => stopNext .tooDeep ('[' :: rest)
    | depth + 1 => (readItems (readValue depth) rest).map fun (xs, rest) => (.array xs, rest)
  | '\x7b' :: rest =>
    match depth with
    | 0 => stopNext .tooDeep ('\x7b' :: rest)
    | depth + 1 =>
      (readMembers (keepMember (readValue depth)) [] rest).map fun (ms, rest) => (.object ms, rest)
  | 'n' :: rest => (readName ('n' :: rest)).map fun rest => (.null, rest)
  | 't' :: rest => (readName ('t' :: rest)).map fun rest => (.bool true, rest)
  | 'f' :: rest => (readName ('f' :: rest)).map fun rest => (.bool false, rest)
  | c :: rest =>
    if beginsNumber c then readNumber (c :: rest) else stopNext .valueExpected (c :: rest)

def readWholeText {α : Type} (value : List Char → Scan ε (α × List Char)) (text : String) :
    Except (Located ε) α :=
  let read : Scan ε α := do
    let (v, rest) ← value text.toList
    match skipBlanks rest with
    | [] => return v
    | rest => stopNext .trailingCharacters rest
  read.mapError (·.locate text.toList)

def parse (text : String) : Except (Located SyntaxFault) Json :=
  (readWholeText (readValue maxDepth) text).map canonical

end ElementMetadata.Json
