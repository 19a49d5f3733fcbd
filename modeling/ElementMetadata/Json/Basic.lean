/-!
JSON values: exact 64-bit integers beside floats, arrays in order, objects as lists of members.
`Json.canonical` is the value that a text denotes: in every object the keys ascend, and of two
equal keys the later one counts.
-/
namespace ElementMetadata

/-- An integer that a signed or an unsigned 64-bit word holds. -/
structure WireInt where
  val : Int
  inRange : -9223372036854775808 ≤ val ∧ val ≤ 18446744073709551615
deriving DecidableEq

namespace WireInt

def ofInt? (n : Int) : Option WireInt :=
  if h : -9223372036854775808 ≤ n ∧ n ≤ 18446744073709551615 then some ⟨n, h⟩ else none

def ofInt64 (n : Int64) : WireInt :=
  ⟨n.toInt, Int64.le_toInt n, by have := Int64.toInt_lt n; omega⟩

def ofInt32 (n : Int32) : WireInt :=
  ⟨n.toInt, by have := Int32.le_toInt n; omega, by have := Int32.toInt_lt n; omega⟩

def ofUInt64 (n : UInt64) : WireInt :=
  ⟨n.toNat, by omega, by have := UInt64.toNat_lt n; omega⟩

end WireInt

inductive Json where
  | null
  | bool (value : Bool)
  | integer (value : WireInt)
  | float (value : Float)
  | string (value : String)
  | array (items : List Json)
  | object (members : List (String × Json))
deriving Inhabited

namespace Json

mutual
/-- Equality of values. An integer never equals a float; the two float zeros are equal. -/
def same : Json → Json → Bool
  | .null, .null => true
  | .bool a, .bool b => a == b
  | .integer a, .integer b => a == b
  | .float a, .float b => a == b
  | .string a, .string b => a == b
  | .array xs, .array ys => sameItems xs ys
  | .object ms, .object ns => sameMembers ms ns
  | _, _ => false

def sameItems : List Json → List Json → Bool
  | [], [] => true
  | x :: xs, y :: ys => same x y && sameItems xs ys
  | _, _ => false

def sameMembers : List (String × Json) → List (String × Json) → Bool
  | [], [] => true
  | (k, x) :: ms, (l, y) :: ns => k == l && same x y && sameMembers ms ns
  | _, _ => false
end

instance : BEq Json := ⟨same⟩

/-- Puts a member at its place in a list with ascending keys; a member of the same key gives way. -/
def insertMember {α : Type} (key : String) (value : α) :
    List (String × α) → List (String × α)
  | [] => [(key, value)]
  | (k, v) :: rest =>
    if key < k then (key, value) :: (k, v) :: rest
    else if key = k then (key, value) :: rest
    else (k, v) :: insertMember key value rest

/-- The members with ascending keys, the last of equal keys kept. -/
def sortMembers {α : Type} (members : List (String × α)) : List (String × α) :=
  members.foldl (fun sorted m => insertMember m.1 m.2 sorted) []

mutual
def canonical : Json → Json
  | .array items => .array (canonicalItems items)
  | .object members => .object (sortMembers (canonicalMembers members))
  | v => v

def canonicalItems : List Json → List Json
  | [] => []
  | v :: rest => canonical v :: canonicalItems rest

def canonicalMembers : List (String × Json) → List (String × Json)
  | [] => []
  | (k, v) :: rest => (k, canonical v) :: canonicalMembers rest
end

def isNull : Json → Bool
  | .null => true
  | _ => false

def member? (v : Json) (key : String) : Option Json :=
  match v with
  | .object members => members.lookup key
  | _ => none

def text? (v : Json) (key : String) : Option String :=
  match v.member? key with
  | some (.string s) => some s
  | _ => none

def flag? (v : Json) (key : String) : Option Bool :=
  match v.member? key with
  | some (.bool b) => some b
  | _ => none

def integer? (v : Json) (key : String) : Option Int :=
  match v.member? key with
  | some (.integer n) => some n.val
  | _ => none

def items? (v : Json) (key : String) : Option (List Json) :=
  match v.member? key with
  | some (.array items) => some items
  | _ => none

def members? (v : Json) (key : String) : Option (List (String × Json)) :=
  match v.member? key with
  | some (.object members) => some members
  | _ => none

/-- The string in a JSON string, and the empty one elsewhere. -/
def asText : Json → String
  | .string s => s
  | _ => ""

def texts? (v : Json) (key : String) : Option (List String) :=
  (v.items? key).map (·.map asText)

def labels? (v : Json) (key : String) : Option (List (String × String)) :=
  (v.members? key).map (·.map fun m => (m.1, m.2.asText))

def ofTexts (texts : List String) : Json := .array (texts.map .string)

def ofLabels (labels : List (String × String)) : Json :=
  .object (labels.map fun m => (m.1, .string m.2))

def ofOption (v : Option Json) : Json := v.getD .null

end Json
end ElementMetadata
