import ElementMetadata.Text.Shapeless

/-!
String literals as they appear in messages: in double quotes, with backslash escapes, and with the
code in place of every character that could not be seen.
-/
namespace ElementMetadata

def hexText (n : Nat) : String := String.ofList (Nat.toDigits 16 n)

def literalChar (c : Char) : String :=
  match c with
  | '\x00' => "\\0"
  | '\t' => "\\t"
  | '\n' => "\\n"
  | '\r' => "\\r"
  | '\"' => "\\\""
  | '\\' => "\\\\"
  | c => if isShapeless c then "\\u\x7b" ++ hexText c.toNat ++ "\x7d" else c.toString

def textLiteral (s : String) : String := "\"" ++ String.join (s.toList.map literalChar) ++ "\""

end ElementMetadata
