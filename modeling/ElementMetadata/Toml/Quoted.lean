import ElementMetadata.Text.Digits

/-!
Strings of TOML: in double quotes with escapes or in single quotes without, on one line or, with three
quotes on either side, on many. A line break reads as a line feed, and a first one does not count.
-/
namespace ElementMetadata.Toml

def isBlank (c : Char) : Bool := c == ' ' || c == '\t'

def isLineChar (c : Char) : Bool :=
  c == '\t' || (0x20 ≤ c.toNat && c.toNat ≤ 0x7E) || 0x80 ≤ c.toNat

def isPlainChar (c : Char) : Bool := isLineChar c && c != '\"' && c != '\\'

def afterBreak? : List Char → Option (List Char)
  | '\n' :: rest => some rest
  | '\r' :: '\n' :: rest => some rest
  | _ => none

def escaped? (c : Char) : Option Char :=
  match c with
  | 'b' => some '\x08'
  | 't' => some '\t'
  | 'n' => some '\n'
  | 'f' => some '\x0c'
  | 'r' => some '\r'
  | '\"' => some '\"'
  | '\\' => some '\\'
  | _ => none

def codeChar? (digits : List Char) : Option Char := do
  let code ← digits.foldlM (fun n c => (hexDigit? c).map (n * 16 + ·)) 0
  if code.isValidChar then some (Char.ofNat code) else none

def withChar (c : Char) (read : List Char × List Char) : List Char × List Char :=
  (c :: read.1, read.2)

def readEscaped : List Char → Option (List Char × List Char)
  | [] => none
  | '\"' :: rest => some ([], rest)
  | '\\' :: 'u' :: a :: b :: c :: d :: rest => do
    let x ← codeChar? [a, b, c, d]
    return withChar x (← readEscaped rest)
  | '\\' :: 'U' :: a :: b :: c :: d :: e :: f :: g :: h :: rest => do
    let x ← codeChar? [a, b, c, d, e, f, g, h]
    return withChar x (← readEscaped rest)
  | '\\' :: c :: rest => do
    let x ← escaped? c
    return withChar x (← readEscaped rest)
  | c :: rest => if isPlainChar c then (readEscaped rest).map (withChar c) else none

def readLiteral : List Char → Option (List Char × List Char)
  | [] => none
  | '\'' :: rest => some ([], rest)
  | c :: rest => if isLineChar c then (readLiteral rest).map (withChar c) else none

/-- The end of a string of many lines behind the first three quotes that stand together: up to two more
of them belong to the string. -/
def closeLines (quote : Char) (rest : List Char) : List Char × List Char :=
  match rest with
  | c :: d :: rest =>
    if c = quote ∧ d = quote then ([quote, quote], rest)
    else if c = quote then ([quote], d :: rest)
    else ([], c :: d :: rest)
  | [c] => if c = quote then ([quote], []) else ([], [c])
  | [] => ([], [])

/-- Reads a string of many lines from behind its three double quotes. A backslash at the end of a line
drops the blanks and line breaks behind it, which `folding` is for. -/
def readEscapedLines (folding : Bool) : List Char → Option (List Char × List Char)
  | [] => none
  | '\"' :: '\"' :: '\"' :: rest => some (closeLines '\"' rest)
  | '\r' :: '\n' :: rest =>
    if folding then readEscapedLines true rest
    else (readEscapedLines false rest).map (withChar '\n')
  | '\n' :: rest =>
    if folding then readEscapedLines true rest
    else (readEscapedLines false rest).map (withChar '\n')
  | '\\' :: 'u' :: a :: b :: c :: d :: rest => do
    let x ← codeChar? [a, b, c, d]
    return withChar x (← readEscapedLines false rest)
  | '\\' :: 'U' :: a :: b :: c :: d :: e :: f :: g :: h :: rest => do
    let x ← codeChar? [a, b, c, d, e, f, g, h]
    return withChar x (← readEscapedLines false rest)
  | '\\' :: rest =>
    if (afterBreak? (rest.dropWhile isBlank)).isSome then readEscapedLines true rest
    else
      match rest with
      | c :: rest => do
        let x ← escaped? c
        return withChar x (← readEscapedLines false rest)
      | [] => none
  | c :: rest =>
    if folding && isBlank c then readEscapedLines true rest
    else if isPlainChar c || c == '\"' then (readEscapedLines false rest).map (withChar c)
    else none

def readLiteralLines : List Char → Option (List Char × List Char)
  | [] => none
  | '\'' :: '\'' :: '\'' :: rest => some (closeLines '\'' rest)
  | '\r' :: '\n' :: rest => (readLiteralLines rest).map (withChar '\n')
  | '\n' :: rest => (readLiteralLines rest).map (withChar '\n')
  | c :: rest => if isLineChar c then (readLiteralLines rest).map (withChar c) else none

def readLine (text : List Char) : Option (String × List Char) :=
  let read := match text with
    | '\"' :: rest => readEscaped rest
    | '\'' :: rest => readLiteral rest
    | _ => none
  read.map fun (cs, rest) => (String.ofList cs, rest)

def readText (text : List Char) : Option (String × List Char) :=
  let behindBreak (rest : List Char) := (afterBreak? rest).getD rest
  match text with
  | '\"' :: '\"' :: '\"' :: rest =>
    (readEscapedLines false (behindBreak rest)).map fun (cs, rest) => (String.ofList cs, rest)
  | '\'' :: '\'' :: '\'' :: rest =>
    (readLiteralLines (behindBreak rest)).map fun (cs, rest) => (String.ofList cs, rest)
  | text => readLine text

end ElementMetadata.Toml
