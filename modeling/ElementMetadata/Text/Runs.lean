/-!
Sets of characters, given by the runs that their codes form.
-/
namespace ElementMetadata

/-- The first and the last code of each run, in ascending order. -/
abbrev Runs := List (Nat × Nat)

def Runs.holds (runs : Runs) (c : Char) : Bool :=
  runs.any fun run => run.1 ≤ c.toNat && c.toNat ≤ run.2

end ElementMetadata
