import ElementMetadata.Json.Parser

/-!
Passing over a JSON value that nobody asked for. Its brackets, words and strings have to be in
order; whether its numbers and characters exist is not asked, and it may nest as deep as it likes.
-/
namespace ElementMetadata.Json
variable {ε : Type} [FromSyntax ε]

def skipString : List Char → Scan ε (List Char)
  | [] => stopAt .stringEnds []
  | '\"' :: rest => .ok rest
  | '\\' :: 'u' :: a :: b :: c :: d :: rest =>
    match hexUnit? a b c d with
    | none => badHex (a :: b :: c :: d :: rest)
    | some _ => skipString rest
  | '\\' :: 'u' :: rest => badHex rest
  | '\\' :: c :: rest => if (escaped? c).isSome then skipString rest else stopNext .badEscape (c :: rest)
  | '\\' :: [] => stopAt .stringEnds []
  | c :: rest => if isControl c then stopAt .controlCharacter (c :: rest) else skipString rest

def skipDigits (text : List Char) (missing : Scan ε (List Char)) : Scan ε (List Char) :=
  match text with
  | c :: rest => if isDigit c then .ok (rest.dropWhile isDigit) else missing
  | [] => missing

def skipExponent (text : List Char) : Scan ε (List Char) :=
  match text with
  | c :: rest =>
    if c = 'e' ∨ c = 'E' then
      let rest := (readExponentSign rest).2
      skipDigits rest (stopNext .badNumber rest)
    else .ok text
  | [] => .ok []

def skipNumber (text : List Char) : Scan ε (List Char) := do
  let rest ← match text with
    | '0' :: c :: rest => if isDigit c then stopNext .badNumber (c :: rest) else .ok (c :: rest)
    | text => skipDigits text (stopNext .badNumber text)
  match rest with
  | '.' :: rest => do
    let rest ← skipDigits rest (stopNext .badNumber rest)
    skipExponent rest
  | rest => skipExponent rest

mutual
def skipValue : Nat → List Char → Scan ε (List Char)
  | 0, text => stopAt .valueEnds text
  | fuel + 1, text =>
    match skipBlanks text with
    | [] => stopAt .valueEnds []
    | '\"' :: rest => skipString rest
    | '[' :: rest =>
      match skipBlanks rest with
      | [] => stopAt .listEnds []
      | ']' :: rest => .ok rest
      | rest => do
        let rest ← skipValue fuel rest
        skipItems fuel rest
    | '\x7b' :: rest =>
      match skipBlanks rest with
      | [] => stopAt .objectEnds []
      | '\x7d' :: rest => .ok rest
      | rest => do
        let rest ← skipMember fuel rest
        skipMembers fuel rest
    | '-' :: rest => skipNumber rest
    | c :: rest => if isDigit c then skipNumber (c :: rest) else readName (c :: rest)

def skipItems : Nat → List Char → Scan ε (List Char)
  | 0, text => stopAt .listEnds text
  | fuel + 1, text =>
    match skipBlanks text with
    | [] => stopAt .listEnds []
    | ']' :: rest => .ok rest
    | ',' :: rest => do
      let rest ← skipValue fuel rest
      skipItems fuel rest
    | rest => stopNext .listCommaExpected rest

def skipMember : Nat → List Char → Scan ε (List Char)
  | 0, text => stopAt .objectEnds text
  | fuel + 1, text =>
    match skipBlanks text with
    | [] => stopAt .objectEnds []
    | '\"' :: rest => do
      let rest ← skipString rest
      let rest ← readColon rest
      skipValue fuel rest
    | rest => stopNext .keyExpected rest

def skipMembers : Nat → List Char → Scan ε (List Char)
  | 0, text => stopAt .objectEnds text
  | fuel + 1, text =>
    match skipBlanks text with
    | [] => stopAt .objectEnds []
    | '\x7d' :: rest => .ok rest
    | ',' :: rest => do
      let rest ← skipMember fuel rest
      skipMembers fuel rest
    | rest => stopNext .objectCommaExpected rest
end

/-- Passes over a value; every step takes a character, so the length of the text bounds them. -/
def skip (text : List Char) : Scan ε (List Char) := skipValue (2 * text.length + 2) text

end ElementMetadata.Json
