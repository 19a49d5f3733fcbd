import ElementMetadata.Proofs.Summary.Duration

/-!
The links in a summary. A link is there exactly if its record has a key, even an empty one, and is named
by a general name if it has no name of its own; so no row of a link is ever empty, and no other row but
that of the element's key.
-/
namespace ElementMetadata

/-- The name that a link is shown with: its own, or a general one where that is absent or empty. -/
inductive ShownName (general : String) (name : Option String) : String → Prop
  | own {own : String} : name = some own → own ≠ "" → ShownName general name own
  | general : Blank name → ShownName general name general

/-- A link as text: the name, and behind it the key if it is not empty. -/
inductive LinkText (general : String) (name : Option String) : String → String → Prop
  | named {shown : String} : ShownName general name shown → LinkText general name "" shown
  | keyed {shown key : String} : ShownName general name shown → key ≠ "" →
    LinkText general name key (shown ++ " - " ++ key)

/-- The text shown for a linked record: none without a record that has a key, empty keys included. -/
structure ShowsLink {ρ : Type} (general : String) (record : Option ρ)
    (nameOf keyOf : ρ → Option String) (label : Option String) : Prop where
  eq_none_iff : label = none ↔ ∀ r, record = some r → keyOf r = none
  eq_some_iff : ∀ text, label = some text ↔ ∃ r key, record = some r ∧ keyOf r = some key ∧
    LinkText general (nameOf r) key text

variable {general shown key text : String} {name : Option String}

theorem exists_shownName (general : String) (name : Option String) :
    ∃ shown, ShownName general name shown := by
  cases name with
  | none => exact ⟨_, .general (.inl rfl)⟩
  | some own =>
    by_cases hempty : own = ""
    · exact ⟨_, .general (.inr (congrArg some hempty))⟩
    · exact ⟨_, .own rfl hempty⟩

theorem ShownName.getD_eq (h : ShownName general name shown) :
    (name.filter (!·.isEmpty)).getD general = shown := by
  cases h with
  | own hname hempty =>
    have hown : name.filter (!·.isEmpty) = some shown := by simp [hname, hempty]
    rw [hown, Option.getD_some]
  | general hblank => obtain rfl | rfl := hblank <;> rfl

theorem ShownName.ne_empty (h : ShownName general name shown) (hgeneral : general ≠ "") :
    shown ≠ "" := by
  cases h with
  | own _ hempty => exact hempty
  | general _ => exact hgeneral

theorem LinkText.ne_empty (h : LinkText general name key text) (hgeneral : general ≠ "") :
    text ≠ "" := by
  cases h with
  | named hname => exact hname.ne_empty hgeneral
  | keyed hname hkey => simp [hkey]

namespace Summary

theorem linkLabel_of_linkText (h : LinkText general name key text) :
    linkLabel general name (some key) = some text := by
  cases h with
  | named hname => simp [linkLabel, hname.getD_eq]
  | keyed hname hkey => simp [linkLabel, hname.getD_eq, hkey]

theorem linkLabel_some_iff :
    linkLabel general name (some key) = some text ↔ LinkText general name key text := by
  constructor
  · intro h
    obtain ⟨shown, hname⟩ := exists_shownName general name
    by_cases hkey : key = ""
    · subst hkey
      rw [linkLabel_of_linkText (.named hname), Option.some.injEq] at h
      exact h ▸ .named hname
    · rw [linkLabel_of_linkText (.keyed hname hkey), Option.some.injEq] at h
      exact h ▸ .keyed hname hkey
  · exact linkLabel_of_linkText

theorem showsLink_linkLabel {ρ : Type} (general : String) (record : Option ρ)
    (nameOf keyOf : ρ → Option String) :
    ShowsLink general record nameOf keyOf
      (linkLabel general (record.bind nameOf) (record.bind keyOf)) := by
  cases record with
  | none => exact ⟨by simp [linkLabel], by simp [linkLabel]⟩
  | some r =>
    rw [Option.bind_some, Option.bind_some]
    cases hkey : keyOf r with
    | none => exact ⟨by simp [linkLabel, hkey], by simp [linkLabel, hkey]⟩
    | some key => exact ⟨by simp [linkLabel, hkey], by simp [linkLabel_some_iff, hkey]⟩

end Summary

theorem Duration.text_ne_empty (d : Duration) : d.text ≠ "" := by
  by_cases h : d.wholeMilliseconds < 1000
  · rw [text, if_pos h]
    decide
  · rw [text_eq_countText (by omega)]
    simp [countText]

theorem ElementInstance.Timed.text_ne_empty {e : ElementInstance} {now : Timestamp}
    {suffix text : String} (h : e.Timed now suffix (.ok (some text))) : text ≠ "" := by
  cases h with
  | running => simp [Duration.text_ne_empty]
  | ended => exact Duration.text_ne_empty _

theorem ShowsLink.ne_empty {ρ : Type} {record : Option ρ} {nameOf keyOf : ρ → Option String}
    {label : Option String} (h : ShowsLink general record nameOf keyOf label)
    (hgeneral : general ≠ "") (hlabel : label = some text) : text ≠ "" := by
  obtain ⟨r, key, -, -, htext⟩ := (h.eq_some_iff text).1 hlabel
  exact htext.ne_empty hgeneral

/-- The links of any sources in their summary. The root cause is that of the called decision, and is
there exactly for an element with an incident. A row without a text can only be that of the key. -/
theorem links_in_summary (sources : Sources) (now : Timestamp) (suffix : String) :
    let s := (Summary.ofMetadata sources.metadata.value now suffix).value
    ShowsLink "Process" sources.calledProcess (·.definitionName) (·.key) s.calledProcess ∧
    ShowsLink "Decision" sources.decision (·.definitionName) (·.key) s.calledDecision ∧
    (s.rootCauseDecision.isSome ↔ sources.element.hasIncident = true ∧ s.calledDecision.isSome) ∧
    (∀ text, s.rootCauseDecision = some text → s.calledDecision = some text) ∧
    ∀ label text, (label, text) ∈ s.rows → text = "" → label = .elementKey := by
  intro s
  have hprocess : ShowsLink "Process" sources.calledProcess (·.definitionName) (·.key)
      s.calledProcess := Summary.showsLink_linkLabel ..
  have hdecision : ShowsLink "Decision" sources.decision (·.definitionName) (·.key)
      s.calledDecision := Summary.showsLink_linkLabel ..
  have hcause (text : String) : s.rootCauseDecision = some text ↔
      s.calledDecision = some text ∧ sources.element.hasIncident = true :=
    Summary.rootCauseDecision_eq_some_iff
  refine ⟨hprocess, hdecision, ?incident, fun text htext => ((hcause text).1 htext).1, ?rows⟩
  case incident =>
    simp only [Option.isSome_iff_exists, hcause, exists_and_right]
    exact and_comm
  case rows =>
    intro label text hrow hempty
    have htext := Summary.mem_rows_iff.1 hrow
    cases label with
    | elementKey => rfl
    | executionDuration =>
      have hduration : s.executionDuration = some text := htext
      rw [Summary.executionDuration_eq_some_iff] at hduration
      have htimed := ElementInstance.executionText_eq_iff_timed.1 hduration
      exact absurd hempty htimed.text_ne_empty
    | calledProcess => exact absurd hempty (hprocess.ne_empty (by decide) htext)
    | calledDecision => exact absurd hempty (hdecision.ne_empty (by decide) htext)
    | incident =>
      subst hempty
      simp [Summary.text?] at htext
    | rootCauseDecision =>
      have hlabel := ((hcause text).1 htext).1
      exact absurd hempty (hdecision.ne_empty (by decide) hlabel)

def callsUnnamed : Sources where
  element := { endsSoon.element with key := "" }
  calledProcess := some
    { key := some "8", definitionName := some "", definitionId := none, definitionKey := none
      parentElementInstanceKey := none, state := none, tenantId := none }
  decision := some
    { key := some "", evaluationKey := none, definitionName := none, definitionId := none
      elementInstanceKey := none, state := none, evaluationDate := none
      evaluationFailure := none }

theorem unnamed_links_are_shown :
    let s := (Summary.ofMetadata callsUnnamed.metadata.value ⟨2020, 3, 2, 1, 0, 0, 0, 0⟩ "").value
    s.calledProcess = some "Process - 8" ∧ s.calledDecision = some "Decision" ∧
      s.rootCauseDecision = some "Decision" ∧ (.elementKey, "") ∈ s.rows ∧
      ∀ label, (label, "") ∈ s.rows → label = .elementKey := by
  intro s
  obtain ⟨hprocess, hdecision, hincident, hcause, hrows⟩ :=
    links_in_summary callsUnnamed ⟨2020, 3, 2, 1, 0, 0, 0, 0⟩ ""
  have hcalled : s.calledDecision = some "Decision" :=
    (hdecision.eq_some_iff _).2 ⟨_, _, rfl, rfl, .named (.general (.inl rfl))⟩
  obtain ⟨text, htext⟩ := Option.isSome_iff_exists.1
    (hincident.2 ⟨rfl, Option.isSome_iff_exists.2 ⟨_, hcalled⟩⟩)
  have hsame : text = "Decision" := Option.some.inj ((hcause _ htext).symm.trans hcalled)
  refine ⟨?_, hcalled, hsame ▸ htext, ?_, fun label hrow => hrows label "" hrow rfl⟩
  · exact (hprocess.eq_some_iff _).2 ⟨_, _, rfl, rfl, .keyed (.general (.inr rfl)) (by decide)⟩
  · exact Summary.mem_rows_iff.2 rfl

end ElementMetadata
