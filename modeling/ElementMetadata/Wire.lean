import ElementMetadata.Record.Table

/-!
Words of a vocabulary as strings on the wire. A string that the vocabulary does not list is kept as it
is, so that reading never fails on a new word and writing gives it back.
-/
namespace ElementMetadata

/-- A finite list of words, each with its own string. -/
class Vocabulary (α : Type) where
  words : List α
  wire : α → String
  mem_words (a : α) : a ∈ words
  wire_nodup : (words.map wire).Nodup

inductive Wire (α : Type) where
  | listed (word : α)
  | other (raw : String)
deriving DecidableEq

namespace Wire
variable {α : Type} [Vocabulary α]

def ofString (s : String) : Wire α :=
  match (Vocabulary.words (α := α)).find? (Vocabulary.wire · == s) with
  | some word => .listed word
  | none => .other s

def toString : Wire α → String
  | .listed word => Vocabulary.wire word
  | .other raw => raw

instance : ToString (Wire α) := ⟨toString⟩

def toJson (w : Wire α) : Json := .string w.toString

def capitalized (part : List Char) : List Char :=
  match part with
  | [] => []
  | c :: rest => c :: rest.map Char.toLower

/-- The name of a listed word: the parts of its string without the underscores between them. -/
def label : Wire α → String
  | .listed word =>
    String.ofList (((Vocabulary.wire word).toList.splitOn '_').flatMap capitalized)
  | .other _ => "Other"

instance : Codec (Wire α) where
  form := .text
  ofNormal v := ofString v.asText
  toJson := toJson

end Wire
end ElementMetadata
