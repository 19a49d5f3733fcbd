import ElementMetadata.Event

/-!
What a log filter looks at.
-/
namespace ElementMetadata

inductive Target where
  | metadata
  | resolution
  | summary
  | buildCommand
  | resolveCommand
  | program
deriving DecidableEq

def Target.name : Target → String
  | .metadata => "flowmeta_core::aggregate"
  | .resolution => "flowmeta_core::resolve"
  | .summary => "flowmeta_core::summary"
  | .buildCommand => "flowmeta::commands::build"
  | .resolveCommand => "flowmeta::commands::resolve"
  | .program => "flowmeta"

structure Subject where
  target : Target
  level : Level
  fieldNames : List String

end ElementMetadata
