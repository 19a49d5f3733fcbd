import ElementMetadata.Proofs.Metadata.Changes
import ElementMetadata.Proofs.Summary
import Mathlib.Data.List.Forall2
import Mathlib.Order.Bounds.Basic

/-!
The text of a summary loses nothing. The rows are taken back from their lines label by label, since no
label begins with another one; with the labels the width is known, and with it where the values begin.
-/
namespace ElementMetadata.Summary

/-! The rows. -/

def Label.all : List Label :=
  [.elementKey, .executionDuration, .calledProcess, .calledDecision, .incident, .rootCauseDecision]

theorem rows_eq_filterMap (s : Summary) :
    s.rows = Label.all.filterMap fun label => (s.text? label).map (label, ·) := by
  obtain ⟨key, duration, process, decision, cause, incident⟩ := s
  cases duration <;> cases process <;> cases decision <;> cases cause <;> cases incident <;> rfl

theorem map_fst_rows (s : Summary) :
    s.rows.map (·.1) = Label.all.filter fun label => (s.text? label).isSome := by
  rw [rows_eq_filterMap, List.map_filterMap, ← List.filterMap_eq_filter]
  congr 1
  funext label
  cases h : s.text? label <;> simp [Option.guard, h]

theorem ext_text? {s₁ s₂ : Summary} (h : ∀ label, s₁.text? label = s₂.text? label) : s₁ = s₂ := by
  obtain ⟨key, duration, process, decision, cause, incident⟩ := s₁
  obtain rfl : key = s₂.elementKey := Option.some.inj (h .elementKey)
  obtain rfl : duration = s₂.executionDuration := h .executionDuration
  obtain rfl : process = s₂.calledProcess := h .calledProcess
  obtain rfl : decision = s₂.calledDecision := h .calledDecision
  obtain rfl : cause = s₂.rootCauseDecision := h .rootCauseDecision
  have hincident := h .incident
  obtain ⟨_, _, _, _, _, incident'⟩ := s₂
  cases incident <;> cases incident' <;> first | rfl | cases hincident

theorem eq_of_rows_eq {s₁ s₂ : Summary} (h : s₁.rows = s₂.rows) : s₁ = s₂ := by
  refine ext_text? fun label => Option.ext fun text => ?_
  rw [← mem_rows_iff, ← mem_rows_iff, h]

def shownRows (s : Summary) : List (String × String) := s.rows.map fun row => (row.1.text, row.2)

theorem Label.eq_of_text_isPrefix {l l' : Label} (h : l.text.toList <+: l'.text.toList) : l = l' := by
  revert h
  cases l <;> cases l' <;> decide

theorem Label.text_injective : Function.Injective Label.text := by
  intro l l' h
  have hsame : l.text.toList <+: l'.text.toList := h ▸ List.prefix_rfl
  exact eq_of_text_isPrefix hsame

theorem eq_of_shownRows_eq {s₁ s₂ : Summary} (h : s₁.shownRows = s₂.shownRows) : s₁ = s₂ := by
  have hinjective : Function.Injective fun row : Label × String => (row.1.text, row.2) := by
    rintro ⟨l, text⟩ ⟨l', text'⟩ heq
    obtain ⟨hlabel, htext⟩ := Prod.mk.inj heq
    exact Prod.ext (Label.text_injective hlabel) htext
  exact eq_of_rows_eq (List.map_injective_iff.2 hinjective h)

theorem mem_shownRows_iff {s : Summary} {label : Label} {text : String} :
    (label.text, text) ∈ s.shownRows ↔ s.text? label = some text := by
  rw [← mem_rows_iff, shownRows, List.mem_map]
  constructor
  · rintro ⟨⟨l, t⟩, hmem, heq⟩
    obtain ⟨hlabel, rfl⟩ := Prod.mk.inj heq
    rwa [← Label.text_injective hlabel]
  · intro hmem
    exact ⟨_, hmem, rfl⟩

theorem map_fst_shownRows_sublist (s : Summary) :
    (s.shownRows.map (·.1)).Sublist (Label.all.map Label.text) := by
  have hrows : s.shownRows.map (·.1) = (s.rows.map (·.1)).map Label.text := by
    simp [shownRows]
  rw [hrows, map_fst_rows]
  exact List.filter_sublist.map Label.text

/-! The lines. -/

def line (width : Nat) (row : Label × String) : String :=
  padded width row.1.text ++ "  " ++ row.2

theorem render_eq (s : Summary) :
    s.render = String.join ((s.rows.map (line (labelWidth s.rows))).map (· ++ "\n")) := by
  rw [List.map_map]
  rfl

theorem labelWidth_eq (rows : List (Label × String)) :
    labelWidth rows = ((rows.map (·.1)).map (·.text.length)).foldl max 0 := by
  rw [List.foldl_map, List.foldl_map, labelWidth]

theorem max?_labelWidth (row : Label × String) (rows : List (Label × String)) :
    ((row :: rows).map (·.1.text.length)).max? = some (labelWidth (row :: rows)) := by
  rw [List.map_cons, List.max?_cons', List.foldl_map, labelWidth, List.foldl_cons, Nat.zero_max]

theorem isGreatest_labelWidth (s : Summary) :
    IsGreatest {n | ∃ row ∈ s.rows, row.1.text.length = n} (labelWidth s.rows) := by
  -- There is always a first row, so that the width is that of some label.
  obtain ⟨first, rest, hrows⟩ : ∃ first rest, s.rows = first :: rest := ⟨_, _, rfl⟩
  rw [hrows]
  obtain ⟨hmem, hle⟩ := List.max?_eq_some_iff.1 (max?_labelWidth first rest)
  refine ⟨List.mem_map.1 hmem, ?_⟩
  intro n hn
  exact hle n (List.mem_map.2 hn)

/-- A line is its label, blanks, and its value, which begins two columns behind the width. -/
theorem exists_line_eq {width : Nat} {row : Label × String} (h : row.1.text.length ≤ width) :
    ∃ blanks, row.1.text.length + blanks = width + 2 ∧
      line width row = row.1.text ++ String.ofList (List.replicate blanks ' ') ++ row.2 := by
  refine ⟨width - row.1.text.length + 2, by omega, ?_⟩
  rw [line, padded, List.replicate_add, String.ofList_append]
  simp only [String.append_assoc]
  rfl

theorem Label.eq_of_line_eq {width width' : Nat} {row row' : Label × String}
    (h : line width row = line width' row') : row.1 = row'.1 := by
  have hbegins (width : Nat) (row : Label × String) :
      row.1.text.toList <+: (line width row).toList := by
    simp [line, padded]
  obtain hle | hle := List.prefix_or_prefix_of_prefix (hbegins width row) (h ▸ hbegins width' row')
  · exact eq_of_text_isPrefix hle
  · exact (eq_of_text_isPrefix hle).symm

theorem line_injective (width : Nat) : Function.Injective (line width) := by
  rintro ⟨label, text⟩ ⟨label', text'⟩ h
  obtain rfl : label = label' := Label.eq_of_line_eq h
  simpa [line] using h

def SingleLine (s : Summary) : Prop :=
  ∀ label text, s.text? label = some text → '\n' ∉ text.toList

theorem newline_not_mem_line {width : Nat} {row : Label × String} (h : '\n' ∉ row.2.toList) :
    '\n' ∉ (line width row).toList := by
  have hlabel : '\n' ∉ row.1.text.toList := by
    cases row.1 <;> decide
  simp [line, padded, hlabel, h]

theorem flatMap_ended {α : Type} (x : α) (lines : List (List α)) :
    lines.flatMap (· ++ [x]) = [x].intercalate (lines ++ [[]]) := by
  induction lines with
  | nil => simp
  | cons line lines ih =>
    rw [List.flatMap_cons, ih, List.cons_append, List.intercalate_cons_of_ne_nil (by simp)]

theorem splitOn_join {lines : List String} (h : ∀ l ∈ lines, '\n' ∉ l.toList) :
    (String.join (lines.map (· ++ "\n"))).toList.splitOn '\n' = lines.map String.toList ++ [[]] := by
  have hended : (String.join (lines.map (· ++ "\n"))).toList =
      ['\n'].intercalate (lines.map String.toList ++ [[]]) := by
    rw [← flatMap_ended]
    simp [List.flatMap_map]
  have hfree : ∀ text ∈ lines.map String.toList ++ [[]], '\n' ∉ text := by
    rw [List.forall_mem_append, List.forall_mem_map]
    exact ⟨h, by simp⟩
  rw [hended, List.splitOn_intercalate '\n' hfree (by simp)]

theorem lines_eq_of_join_eq {lines lines' : List String} (h : ∀ l ∈ lines, '\n' ∉ l.toList)
    (h' : ∀ l ∈ lines', '\n' ∉ l.toList)
    (hjoin : String.join (lines.map (· ++ "\n")) = String.join (lines'.map (· ++ "\n"))) :
    lines = lines' := by
  have hsplit := splitOn_join h
  rw [hjoin, splitOn_join h'] at hsplit
  have htexts := List.append_cancel_right hsplit
  exact (List.map_injective_iff.2 (fun _ _ => String.toList_inj.1) htexts).symm

theorem SingleLine.newline_not_mem {s : Summary} (h : s.SingleLine) (width : Nat) :
    ∀ l ∈ s.rows.map (line width), '\n' ∉ l.toList := by
  intro l hl
  obtain ⟨row, hrow, rfl⟩ := List.mem_map.1 hl
  exact newline_not_mem_line (h row.1 row.2 (mem_rows_iff.1 hrow))

theorem eq_of_render_eq {s₁ s₂ : Summary} (h₁ : s₁.SingleLine) (h₂ : s₂.SingleLine)
    (h : s₁.render = s₂.render) : s₁ = s₂ := by
  have hlines : s₁.rows.map (line (labelWidth s₁.rows)) = s₂.rows.map (line (labelWidth s₂.rows)) := by
    rw [render_eq, render_eq] at h
    exact lines_eq_of_join_eq (h₁.newline_not_mem _) (h₂.newline_not_mem _) h
  -- The widths may still differ here, but a label is read off its line at any width.
  have hlabels : s₁.rows.map (·.1) = s₂.rows.map (·.1) := by
    rw [← List.forall₂_eq_eq_eq, List.forall₂_map_left_iff, List.forall₂_map_right_iff] at hlines ⊢
    exact hlines.imp fun _ _ => Label.eq_of_line_eq
  have hwidth : labelWidth s₁.rows = labelWidth s₂.rows := by
    rw [labelWidth_eq, labelWidth_eq, hlabels]
  rw [hwidth] at hlines
  exact eq_of_rows_eq (List.map_injective_iff.2 (line_injective _) hlines)

/-- The rows lose nothing of a summary, and neither does their text unless one of its texts has a line
break in it; so it determines the JSON too. Every label is there exactly if its field is, in a fixed
order and but once, and all values begin in one column, two blanks behind the longest of the labels that
are there. -/
theorem text_determines_summary :
    (∀ s₁ s₂ : Summary, s₁.shownRows = s₂.shownRows → s₁ = s₂) ∧
    (∀ s : Summary,
      (s.shownRows.map (·.1)).Sublist
        [ "Element Instance Key", "Execution Duration", "Called Process Instance",
          "Called Decision Instance", "Incident", "Root Cause Decision Instance" ] ∧
      (s.shownRows.map (·.1)).Nodup ∧
      ∀ label text, (label.text, text) ∈ s.shownRows ↔ s.text? label = some text) ∧
    (∀ s : Summary, ∃ width,
      IsGreatest {n | ∃ row ∈ s.rows, row.1.text.length = n} width ∧
      s.render = String.join ((s.rows.map (line width)).map (· ++ "\n")) ∧
      ∀ row ∈ s.rows, ∃ blanks, row.1.text.length + blanks = width + 2 ∧
        line width row = row.1.text ++ String.ofList (List.replicate blanks ' ') ++ row.2) ∧
    (∀ s₁ s₂ : Summary, s₁.SingleLine → s₂.SingleLine → s₁.render = s₂.render →
      s₁ = s₂ ∧ s₁.toJson = s₂.toJson) := by
  refine ⟨fun s₁ s₂ => eq_of_shownRows_eq, fun s => ⟨?order, ?nodup, fun label text => ?present⟩,
    fun s => ?layout, fun s₁ s₂ h₁ h₂ htext => ?text⟩
  case order => exact map_fst_shownRows_sublist s
  case nodup => exact (map_fst_shownRows_sublist s).nodup (by decide)
  case present => exact mem_shownRows_iff
  case layout =>
    refine ⟨_, isGreatest_labelWidth s, render_eq s, ?_⟩
    intro row hrow
    exact exists_line_eq ((isGreatest_labelWidth s).2 ⟨row, hrow, rfl⟩)
  case text =>
    obtain rfl := eq_of_render_eq h₁ h₂ htext
    exact ⟨rfl, rfl⟩

/-- With a line break in it a text is taken for two rows. -/
example : Summary.render ⟨"7\nIncident              yes", none, none, none, none, false⟩ =
    Summary.render ⟨"7", none, none, none, none, true⟩ := by
  decide +kernel

def callsIncident : Sources where
  element := Sources.review
  calledProcess := some
    { key := some "", definitionName := some "Incident  yes", definitionId := none
      definitionKey := none, parentElementInstanceKey := none, state := none, tenantId := none }

theorem called_incident_is_no_incident :
    let s := (ofMetadata callsIncident.metadata.value ⟨2020, 3, 2, 1, 0, 0, 0, 0⟩ "").value
    let incident : Summary := ⟨"7", none, some "Incident  yes", none, none, false⟩
    s.SingleLine ∧ s.render = incident.render ∧ s = incident := by
  intro s incident
  have hsingle : incident.SingleLine := by
    intro label text htext
    cases label <;> cases htext <;> decide
  exact ⟨hsingle, rfl, (text_determines_summary.2.2.2 s incident hsingle hsingle rfl).1⟩

end ElementMetadata.Summary
