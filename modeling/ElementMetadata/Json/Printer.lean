import ElementMetadata.Json.Basic
import ElementMetadata.Decimal.Layout

/-!
Writing JSON values, on one line without blanks or spread over lines with two blanks a level.
Members are written in the order in which they stand.
-/
namespace ElementMetadata.Json

def hexDigit (n : Nat) : Char := if n < 10 then Char.ofNat ('0'.toNat + n) else Char.ofNat ('a'.toNat + (n - 10))

def escapeChar (c : Char) : List Char :=
  match c with
  | '\"' => ['\\', '\"']
  | '\\' => ['\\', '\\']
  | '\x08' => ['\\', 'b']
  | '\x0c' => ['\\', 'f']
  | '\n' => ['\\', 'n']
  | '\r' => ['\\', 'r']
  | '\t' => ['\\', 't']
  | c =>
    if c.toNat < 0x20 then ['\\', 'u', '0', '0', hexDigit (c.toNat / 16), hexDigit (c.toNat % 16)]
    else [c]

def quoteChars (s : String) : List Char := '\"' :: (s.toList.flatMap escapeChar ++ ['\"'])

mutual
def compactChars : Json → List Char
  | .null => ['n', 'u', 'l', 'l']
  | .bool true => ['t', 'r', 'u', 'e']
  | .bool false => ['f', 'a', 'l', 's', 'e']
  | .integer n => (toString n.val).toList
  | .float x => (FloatLayout.wire.write x).toList
  | .string s => quoteChars s
  | .array [] => ['[', ']']
  | .array (x :: xs) => '[' :: (compactChars x ++ compactItems xs)
  | .object [] => ['\x7b', '\x7d']
  | .object ((k, v) :: ms) => '\x7b' :: (quoteChars k ++ ':' :: (compactChars v ++ compactMembers ms))

def compactItems : List Json → List Char
  | [] => [']']
  | x :: xs => ',' :: (compactChars x ++ compactItems xs)

def compactMembers : List (String × Json) → List Char
  | [] => ['\x7d']
  | (k, v) :: ms => ',' :: (quoteChars k ++ ':' :: (compactChars v ++ compactMembers ms))
end

def newLine (level : Nat) : List Char := '\n' :: List.replicate (2 * level) ' '

mutual
def prettyChars (level : Nat) : Json → List Char
  | .array (x :: xs) =>
    '[' :: (newLine (level + 1) ++ prettyChars (level + 1) x ++ prettyItems level xs)
  | .object ((k, v) :: ms) =>
    '\x7b' :: (newLine (level + 1) ++ quoteChars k ++ ':' :: ' ' ::
      (prettyChars (level + 1) v ++ prettyMembers level ms))
  | v => compactChars v

def prettyItems (level : Nat) : List Json → List Char
  | [] => newLine level ++ [']']
  | x :: xs => ',' :: (newLine (level + 1) ++ prettyChars (level + 1) x ++ prettyItems level xs)

def prettyMembers (level : Nat) : List (String × Json) → List Char
  | [] => newLine level ++ ['\x7d']
  | (k, v) :: ms =>
    ',' :: (newLine (level + 1) ++ quoteChars k ++ ':' :: ' ' ::
      (prettyChars (level + 1) v ++ prettyMembers level ms))
end

def compact (v : Json) : String := String.ofList (compactChars v)

def pretty (v : Json) : String := String.ofList (prettyChars 0 v)

end ElementMetadata.Json
