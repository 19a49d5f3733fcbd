import ElementMetadata.Log.Directive

/-!
Filters of a log: lists of directives, of which the one that describes a line most closely counts.
-/
namespace ElementMetadata

abbrev Filter := List Directive

structure Complaint where
  part : String
  fault : DirectiveFault
deriving DecidableEq

def Complaint.line (c : Complaint) : String := "ignoring `" ++ c.part ++ "`: " ++ c.fault.message ++ "\n"

namespace Filter

def upTo (level : Level) : Filter := [{ level := some level }]

/-- A filter without directives lets errors through. -/
def ofDirectives : List Directive → Filter
  | [] => upTo .error
  | directives => directives

def parts (text : String) : List String := (text.splitOn ",").filter (· != "")

def ofText? (text : String) : Option Filter :=
  ((parts text).mapM fun part => (Directive.ofText part).toOption).map ofDirectives

def directives : List String → Logged Complaint (List Directive)
  | [] => pure []
  | part :: parts =>
    match Directive.ofText part with
    | .ok d => do return d :: (← directives parts)
    | .error fault => do
      Logged.report { part, fault }
      directives parts

def ofText (text : String) : Logged Complaint Filter := ofDirectives <$> directives (parts text)

def directiveFor (filter : Filter) (s : Subject) : Option Directive :=
  (filter.filter (·.covers s)).foldl (fun best d =>
    if best.all (·.givesWayTo d) then some d else best) none

def allows (filter : Filter) (s : Subject) : Bool :=
  ((filter.directiveFor s).bind (·.level)).any (s.level.rank ≤ ·.rank)

/-- The filter of a run: only errors if it is quiet, else the one of the environment if that can be read,
else the one of the settings, else warnings and errors. -/
def choose (quiet : Bool) (environment settings : Option String) : Logged Complaint Filter :=
  if quiet then pure (upTo .error)
  else
    match environment.bind ofText? with
    | some filter => pure filter
    | none => settings.elim (pure (upTo .warn)) ofText

end Filter
end ElementMetadata
