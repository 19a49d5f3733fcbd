import ElementMetadata.Toml.Basic
import ElementMetadata.Toml.Quoted
import ElementMetadata.Toml.Scalar

/-!
Reading TOML documents. Arrays and tables between braces nest at most `maxDepth` deep, and a dotted
key has at most that many parts.
-/
namespace ElementMetadata.Toml

def maxDepth : Nat := 79

def skipBlanks (text : List Char) : List Char := text.dropWhile isBlank

def afterLine? (text : List Char) : Option (List Char) :=
  let rest := match skipBlanks text with
    | '#' :: rest => rest.dropWhile isLineChar
    | rest => rest
  if rest.isEmpty then some [] else afterBreak? rest

def skipFiller (inComment : Bool) : List Char → List Char
  | [] => []
  | '\n' :: rest => skipFiller false rest
  | '\r' :: '\n' :: rest => skipFiller false rest
  | c :: rest =>
    if inComment then if isLineChar c then skipFiller true rest else c :: rest
    else if isBlank c then skipFiller false rest
    else if c = '#' then skipFiller true rest
    else c :: rest

def isBareChar (c : Char) : Bool := c.isAlphanum || c == '-' || c == '_'

def readKey (text : List Char) : Option (String × List Char) :=
  match readLine text with
  | some read => some read
  | none =>
    match text.takeWhile isBareChar with
    | [] => none
    | cs => some (String.ofList cs, text.dropWhile isBareChar)

def readPath : Nat → List Char → Option (Path × List Char)
  | 0, _ => none
  | parts + 1, text => do
    let (key, rest) ← readKey (skipBlanks text)
    match skipBlanks rest with
    | '.' :: rest => do
      let (path, rest) ← readPath parts rest
      return (⟨key :: path.way, path.key⟩, rest)
    | rest => return (⟨[], key⟩, rest)

def isScalarChar (c : Char) : Bool := isBareChar c || c == '+' || c == '.' || c == ':'

/-- Reads a word, a number or a date; a blank may part a date from a time. -/
def readScalar (text : List Char) : Option (Node × List Char) :=
  let word := text.takeWhile isScalarChar
  let rest := text.dropWhile isScalarChar
  if word = ['t', 'r', 'u', 'e'] then some (.flag true, rest)
  else if word = ['f', 'a', 'l', 's', 'e'] then some (.flag false, rest)
  else if isDate word then
    match rest with
    | ' ' :: behind =>
      let time := behind.takeWhile isScalarChar
      if time.isEmpty then some (.date, rest)
      else if isClockTime time then some (.date, behind.dropWhile isScalarChar)
      else none
    | rest => some (.date, rest)
  else if isMoment word then some (.date, rest)
  else if isNumber word then some (.number, rest)
  else none

def readItems (value : List Char → Option (Node × List Char)) :
    Nat → List Char → Option (List Node × List Char)
  | 0, _ => none
  | fuel + 1, text =>
    match skipFiller false text with
    | ']' :: rest => some ([], rest)
    | text => do
      let (item, rest) ← value text
      match skipFiller false rest with
      | ',' :: rest => (readItems value fuel rest).map fun (items, rest) => (item :: items, rest)
      | ']' :: rest => some ([item], rest)
      | _ => none

def readAssignment (value : List Char → Option (Node × List Char)) (text : List Char) :
    Option (Path × Node × List Char) := do
  let (path, rest) ← readPath maxDepth text
  match rest with
  | '=' :: rest => do
    let (v, rest) ← value (skipBlanks rest)
    return (path, v, rest)
  | _ => none

def readAssignments (value : List Char → Option (Node × List Char)) :
    Nat → List Char → Option (List (Path × Node) × List Char)
  | 0, _ => none
  | fuel + 1, text => do
    let (path, v, rest) ← readAssignment value text
    match skipBlanks rest with
    | ',' :: rest =>
      (readAssignments value fuel rest).map fun (more, rest) => ((path, v) :: more, rest)
    | '\x7d' :: rest => some ([(path, v)], rest)
    | _ => none

def readInlineTable (value : List Char → Option (Node × List Char)) (text : List Char) :
    Option (Node × List Char) :=
  match skipBlanks text with
  | '\x7d' :: rest => some (.inlineTable [], rest)
  | text => do
    let (assignments, rest) ← readAssignments value text.length text
    let entries ← ofAssignments assignments
    return (.inlineTable entries, rest)

def readValue (depth : Nat) (text : List Char) : Option (Node × List Char) :=
  match depth, text with
  | 0, '[' :: _ => none
  | depth + 1, '[' :: rest =>
    (readItems (readValue depth) (rest.length + 1) rest).map fun (items, rest) => (.array items, rest)
  | 0, '\x7b' :: _ => none
  | depth + 1, '\x7b' :: rest => readInlineTable (readValue depth) rest
  | _, '\"' :: rest => (readText ('\"' :: rest)).map fun (s, rest) => (.text s, rest)
  | _, '\'' :: rest => (readText ('\'' :: rest)).map fun (s, rest) => (.text s, rest)
  | _, text => readScalar text

def readHeader (closing : List Char) (text : List Char) : Option (Path × List Char) := do
  let (path, rest) ← readPath maxDepth text
  if closing.isPrefixOf rest then
    (afterLine? (rest.drop closing.length)).map (path, ·)
  else none

def readStatement (text : List Char) : Option (Statement × List Char) :=
  match text with
  | '[' :: '[' :: rest => (readHeader [']', ']'] rest).map fun (path, rest) => (.nextTable path, rest)
  | '[' :: rest => (readHeader [']'] rest).map fun (path, rest) => (.table path, rest)
  | text => do
    let (path, v, rest) ← readAssignment (readValue maxDepth) text
    return (.assignment path v, ← afterLine? rest)

def readStatements : Nat → List Char → Option (List Statement)
  | 0, _ => none
  | fuel + 1, text =>
    match skipBlanks text with
    | [] => some []
    | c :: rest =>
      if c = '#' ∨ c = '\n' ∨ c = '\r' then (afterLine? (c :: rest)).bind (readStatements fuel)
      else do
        let (statement, rest) ← readStatement (c :: rest)
        return statement :: (← readStatements fuel rest)

/-- The tree of a document, in front of which a byte order mark may stand. -/
def parse (text : String) : Option Entries :=
  let chars := match text.toList with
    | '\ufeff' :: rest => rest
    | chars => chars
  (readStatements (chars.length + 1) chars).bind ofStatements

end ElementMetadata.Toml
