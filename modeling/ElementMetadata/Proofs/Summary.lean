import ElementMetadata.Proofs.Resolution
import ElementMetadata.Summary

/-!
What the rows of a summary hold. A label has at most one row, and its text is that of one field.
-/
namespace ElementMetadata

def Blank (text : Option String) : Prop := text = none ∨ text = some ""

namespace Summary

def text? (s : Summary) : Label → Option String
  | .elementKey => some s.elementKey
  | .executionDuration => s.executionDuration
  | .calledProcess => s.calledProcess
  | .calledDecision => s.calledDecision
  | .incident => if s.hasIncident then some "yes" else none
  | .rootCauseDecision => s.rootCauseDecision

theorem mem_row_iff {label l : Label} {text : Option String} {t : String} :
    (l, t) ∈ row label text ↔ l = label ∧ text = some t := by
  cases text with
  | none => simp [row]
  | some u => simp [row, eq_comm]

theorem mem_rows_iff {s : Summary} {label : Label} {text : String} :
    (label, text) ∈ s.rows ↔ s.text? label = some text := by
  simp only [rows, List.mem_append, mem_row_iff]
  cases label <;> simp [text?]

theorem linkLabel_eq_none_iff {general : String} {name key : Option String} :
    linkLabel general name key = none ↔ key = none := Option.map_eq_none_iff

theorem rootCauseDecision_eq_some_iff {m : Metadata} {now : Timestamp} {suffix text : String} :
    (ofMetadata m now suffix).value.rootCauseDecision = some text ↔
      (ofMetadata m now suffix).value.calledDecision = some text ∧ m.hasIncident = true := by
  simp only [ofMetadata, Logged.bind_value, Logged.pure_value]
  exact Option.filter_eq_some_iff

end Summary
end ElementMetadata
