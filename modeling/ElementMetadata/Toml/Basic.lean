/-!
TOML documents as trees. `Toml.ofStatements` makes one of the lines of a document, which name tables
and assign values to dotted keys. No key may be assigned twice, no table may have two headers, and a
table that one notation has made can be added to by the other only as far as TOML allows it.
-/
namespace ElementMetadata.Toml

/-- How a table came to be there: it has a header, it is on the way to the table of a header, or it is
on the way of a dotted key. -/
inductive Origin where
  | header
  | way
  | dottedKey
deriving DecidableEq

/-- A value or a table. Numbers and dates have to be well-formed, but what they are is not kept. -/
inductive Node where
  | text (value : String)
  | flag (value : Bool)
  | number
  | date
  | array (items : List Node)
  /-- A table between braces, to which nothing can be added. -/
  | inlineTable (entries : List (String × Node))
  | table (origin : Origin) (entries : List (String × Node))
  /-- Tables that share a header; only the last one can be added to. -/
  | tables (earlier : List Node) (last : List (String × Node))
deriving Inhabited

abbrev Entries := List (String × Node)

structure Path where
  way : List String
  key : String
deriving DecidableEq

def setEntry (key : String) (node : Node) : Entries → Entries
  | [] => [(key, node)]
  | (k, n) :: rest => if k = key then (key, node) :: rest else (k, n) :: setEntry key node rest

/-- Changes the table that a key leads to, if it may be entered. Where the key leads to nothing, that
is a new and empty table. -/
def changeTable (origin : Origin) (mayEnter : Node → Bool) (key : String)
    (change : Entries → Option Entries) (entries : Entries) : Option Entries :=
  match entries.lookup key with
  | none => (change []).map fun sub => setEntry key (.table origin sub) entries
  | some node =>
    if mayEnter node then
      match node with
      | .table origin sub => (change sub).map fun sub => setEntry key (.table origin sub) entries
      | .tables earlier last =>
        (change last).map fun last => setEntry key (.tables earlier last) entries
      | _ => none
    else none

/-- Whether a dotted key with this way left may lead through a table: never through one with a header
of its own, and it must not end in a table that no dotted key has made. -/
def Node.isOpenTo (way : List String) : Node → Bool
  | .table .header _ => false
  | .table .dottedKey _ => true
  | .table .way _ | .tables .. => !way.isEmpty
  | _ => false

def assign (key : String) (value : Node) : List String → Entries → Option Entries
  | [], entries =>
    if (entries.lookup key).isSome then none else some (setEntry key value entries)
  | step :: way, entries =>
    changeTable .dottedKey (Node.isOpenTo way) step (assign key value way) entries

def changeAt (change : Entries → Option Entries) : List String → Entries → Option Entries
  | [], entries => change entries
  | step :: way, entries => changeTable .way (fun _ => true) step (changeAt change way) entries

def openTable (key : String) (entries : Entries) : Option Entries :=
  match entries.lookup key with
  | none => some (setEntry key (.table .header []) entries)
  | some (.table .way sub) => some (setEntry key (.table .header sub) entries)
  | some _ => none

def openNextTable (key : String) (entries : Entries) : Option Entries :=
  match entries.lookup key with
  | none => some (setEntry key (.tables [] []) entries)
  | some (.tables earlier last) =>
    some (setEntry key (.tables (earlier ++ [.table .header last]) []) entries)
  | some _ => none

inductive Statement where
  | table (path : Path)
  | nextTable (path : Path)
  | assignment (path : Path) (value : Node)

/-- A document so far: its entries, and the way to the table that assignments go to. -/
structure Draft where
  entries : Entries := []
  current : List String := []

namespace Draft

def add (draft : Draft) : Statement → Option Draft
  | .table path =>
    (changeAt (openTable path.key) path.way draft.entries).map
      (⟨·, path.way ++ [path.key]⟩)
  | .nextTable path =>
    (changeAt (openNextTable path.key) path.way draft.entries).map
      (⟨·, path.way ++ [path.key]⟩)
  | .assignment path value =>
    (changeAt (assign path.key value path.way) draft.current draft.entries).map
      (⟨·, draft.current⟩)

end Draft

def ofStatements (statements : List Statement) : Option Entries :=
  (statements.foldlM Draft.add {}).map (·.entries)

def ofAssignments (assignments : List (Path × Node)) : Option Entries :=
  assignments.foldlM (fun entries (path, value) => assign path.key value path.way entries) []

end ElementMetadata.Toml
