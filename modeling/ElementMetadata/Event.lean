import ElementMetadata.Document
import ElementMetadata.Time.Timestamp

/-!
Events that the library reports beside its results. They never change a result.
-/
namespace ElementMetadata

/-- A value, and the events on the way to it in the order in which they occurred. -/
structure Logged (ε α : Type) where
  value : α
  events : List ε := []

namespace Logged
variable {ε δ α β : Type}

instance : Monad (Logged ε) where
  pure a := ⟨a, []⟩
  bind x f := ⟨(f x.value).value, x.events ++ (f x.value).events⟩

def report (event : ε) : Logged ε Unit := ⟨(), [event]⟩

def mapEvents (f : ε → δ) (x : Logged ε α) : Logged δ α := ⟨x.value, x.events.map f⟩

end Logged

inductive Level where
  | error
  | warn
  | info
  | debug
  | trace
deriving DecidableEq

namespace Level

def name : Level → String
  | .error => "ERROR"
  | .warn => "WARN"
  | .info => "INFO"
  | .debug => "DEBUG"
  | .trace => "TRACE"

def rank : Level → Nat
  | .error => 1
  | .warn => 2
  | .info => 3
  | .debug => 4
  | .trace => 5

end Level

inductive Event where
  | jobAndTask (elementKey : String)
  | severalMatches (kind : RecordKind) (elementKey : String) (ignored : Nat)
  | durationSkipped (elementKey : String) (error : TimestampError)
deriving DecidableEq

namespace Event

def level : Event → Level
  | .jobAndTask _ => .warn
  | .severalMatches .. | .durationSkipped .. => .debug

def message : Event → String
  | .jobAndTask _ => "both job and user task fields supplied; passing both through unmerged"
  | .severalMatches .. => "several linked records match; using the first"
  | .durationSkipped .. => "skipping execution duration"

def fields : Event → List (String × String)
  | .jobAndTask key => [("element_instance_key", key)]
  | .severalMatches kind key ignored =>
    [("kind", kind.name), ("element_instance_key", key), ("ignored", toString ignored)]
  | .durationSkipped key error => [("element_instance_key", key), ("error", error.message)]

end Event
end ElementMetadata
