import ElementMetadata.Command.Arguments
import ElementMetadata.Proofs.Record.Form

/-!
Arguments with one more `--quiet` among them. If both ask for a run, it is the same but for being
quiet.
-/
namespace ElementMetadata

namespace Reading

def withQuiet (r : Reading) (general special : Bool) : Reading :=
  { r with
    general := { r.general with quiet := general }
    special := { r.special with quiet := special } }

/-- If neither is refused, they are the same but for marks of being quiet. -/
def Agree (x y : Except Halt Reading) : Prop :=
  ∀ r r', x = .ok r → y = .ok r' → ∃ general special, r' = r.withQuiet general special

variable {r : Reading} {general special : Bool}

theorem agree_ok : Agree (.ok r) (.ok (r.withQuiet general special)) := by
  intro r₁ r₂ h h'
  obtain rfl := Except.ok.inj h
  obtain rfl := Except.ok.inj h'
  exact ⟨general, special, rfl⟩

theorem agree_error {halt : Halt} {y : Except Halt Reading} : Agree (.error halt) y := by
  intro _ _ h
  cases h

theorem agree_changeOptions {change : Options → Except Halt Options}
    (hchange : ∀ options quiet a b, change options = .ok a →
      change { options with quiet } = .ok b → ∃ quiet, b = { a with quiet }) :
    Agree (r.changeOptions change) ((r.withQuiet general special).changeOptions change) := by
  obtain ⟨_, command, _, _, _, _, _⟩ := r
  intro r₁ r₂ h h'
  cases command with
  | none =>
    obtain ⟨a, ha, rfl⟩ := map_eq_ok_iff.1 h
    obtain ⟨b, hb, rfl⟩ := map_eq_ok_iff.1 h'
    obtain ⟨quiet, rfl⟩ := hchange _ _ _ _ ha hb
    exact ⟨quiet, special, rfl⟩
  | some command =>
    obtain ⟨a, ha, rfl⟩ := map_eq_ok_iff.1 h
    obtain ⟨b, hb, rfl⟩ := map_eq_ok_iff.1 h'
    obtain ⟨quiet, rfl⟩ := hchange _ _ _ _ ha hb
    exact ⟨general, quiet, rfl⟩

theorem agree_give (option : Valued) (raw : String) :
    Agree (r.give option raw) ((r.withQuiet general special).give option raw) := by
  refine agree_changeOptions (r := { r with pending := none }) fun options quiet a b ha hb => ?_
  cases option
  all_goals
    obtain ⟨x, hx, rfl⟩ := map_eq_ok_iff.1 ha
    obtain ⟨y, hy, rfl⟩ := map_eq_ok_iff.1 hb
    obtain rfl := Except.ok.inj (hx.symm.trans hy)
    exact ⟨quiet, rfl⟩

theorem setQuiet_eq_ok {options a : Options} (h : options.setQuiet = .ok a) :
    a = { options with quiet := true } := by
  unfold Options.setQuiet at h
  split at h
  · cases h
  · exact (Except.ok.inj h).symm

theorem agree_setQuiet : Agree (r.changeOptions (·.setQuiet))
    ((r.withQuiet general special).changeOptions (·.setQuiet)) := by
  refine agree_changeOptions fun options quiet a b ha hb => ?_
  obtain rfl := setQuiet_eq_ok ha
  obtain rfl := setQuiet_eq_ok hb
  exact ⟨true, rfl⟩

theorem agree_ite {p : Prop} [Decidable p] {x x' y y' : Except Halt Reading}
    (hx : Agree x x') (hy : Agree y y') : Agree (if p then x else y) (if p then x' else y') := by
  split
  · exact hx
  · exact hy

theorem agree_word (w : String) : Agree (r.word w) ((r.withQuiet general special).word w) := by
  obtain ⟨_, command, _, file, _, _, _⟩ := r
  cases command with
  | none =>
    refine agree_ite agree_error (agree_ite agree_ok ?_)
    dsimp only
    cases Command.ofName? w with
    | none => exact agree_error
    | some command => exact agree_ok
  | some command => exact agree_ite agree_error (agree_ite agree_error agree_ok)

theorem agree_valued (option : Valued) (attached : Option String) :
    Agree (r.valued option attached) ((r.withQuiet general special).valued option attached) := by
  cases attached with
  | some value => exact agree_give option value
  | none => exact agree_ok

theorem agree_longOption (argument name : String) (attached : Option String) :
    Agree (r.longOption argument name attached)
      ((r.withQuiet general special).longOption argument name attached) := by
  unfold longOption
  split
  · exact agree_valued .output attached
  · exact agree_valued .config attached
  · exact agree_ite (agree_valued .now attached) agree_error
  · exact agree_setQuiet
  · exact agree_error
  · exact agree_ite agree_error agree_error
  · exact agree_error

theorem agree_step (argument : String) :
    Agree (r.step argument) ((r.withQuiet general special).step argument) := by
  obtain ⟨_, command, _, file, pending, wordsOnly, topic⟩ := r
  unfold step
  dsimp only [withQuiet]
  cases topic with
  | some topic =>
    cases topic with
    | program => exact agree_ite agree_ok agree_error
    | command => exact agree_error
  | none =>
    cases pending with
    | some option => exact agree_ite agree_error (agree_give option argument)
    | none =>
      refine agree_ite (agree_word argument) ?_
      split
      · exact agree_ok
      · exact agree_longOption _ _ _
      · exact agree_ite agree_error (agree_ite agree_error agree_error)
      · exact agree_word argument

theorem changeOptions_setQuiet {r' : Reading} (h : r.changeOptions (·.setQuiet) = .ok r') :
    ∃ general special, r' = r.withQuiet general special := by
  obtain ⟨_, command, _, _, _, _, _⟩ := r
  cases command
  all_goals
    obtain ⟨options, hset, rfl⟩ := map_eq_ok_iff.1 h
    obtain rfl := setQuiet_eq_ok hset
    exact ⟨_, _, rfl⟩

theorem agree_foldlM (arguments : List String) (r : Reading) (general special : Bool) :
    Agree (arguments.foldlM step r) (arguments.foldlM step (r.withQuiet general special)) := by
  induction arguments generalizing r general special with
  | nil => exact agree_ok
  | cons argument arguments ih =>
    intro r₁ r₂ h h'
    rw [List.foldlM_cons] at h h'
    obtain ⟨next, hnext, h⟩ := bind_eq_ok_iff.1 h
    obtain ⟨next', hnext', h'⟩ := bind_eq_ok_iff.1 h'
    obtain ⟨general, special, rfl⟩ := agree_step argument _ _ hnext hnext'
    exact ih next general special _ _ h h'

theorem finish_withQuiet : (r.withQuiet general special).finish =
    r.finish.map fun inv => { inv with quiet := general || special } := by
  obtain ⟨_, command, _, file, pending, _, topic⟩ := r
  cases topic <;> cases pending <;> cases command <;> cases file <;> rfl

structure Full (r : Reading) : Prop where
  file : r.file.isSome
  command : r.command.isSome
  wordsOnly : r.wordsOnly = true
  pending : r.pending = none
  topic : r.topic = none

/-- A `--quiet` is an option or else, behind two hyphens, the file. -/
theorem step_quiet {r' : Reading} (h : r.step "--quiet" = .ok r') :
    (∃ general special, r' = r.withQuiet general special) ∨ r.file = none ∧ r'.Full := by
  obtain ⟨_, command, _, file, pending, wordsOnly, topic⟩ := r
  cases topic with
  | some topic =>
    cases topic with
    | program =>
      change misuse (.unknownCommand "--quiet") = _ at h
      cases h
    | command => cases h
  | none =>
    cases pending with
    | some option =>
      change misuse _ = _ at h
      cases h
    | none =>
      cases wordsOnly with
      | true =>
        cases command with
        | none => cases h
        | some command =>
          cases file with
          | some file => cases h
          | none =>
            refine .inr ?_
            obtain rfl := Except.ok.inj h
            exact ⟨rfl, rfl, rfl, rfl, rfl, rfl⟩
      | false => exact .inl (changeOptions_setQuiet h)

theorem Full.step_ne_ok (h : r.Full) (argument : String) (r' : Reading) :
    r.step argument ≠ .ok r' := by
  obtain ⟨command, hcommand⟩ := Option.isSome_iff_exists.1 h.command
  simp [step, h.topic, h.pending, h.wordsOnly, word, hcommand, h.file, misuse]

theorem isSome_file_of_finish {inv : Invocation} (h : r.finish = .ok inv) : r.file.isSome := by
  obtain ⟨_, command, _, file, pending, _, topic⟩ := r
  cases topic <;> cases pending <;> cases command <;> cases file <;> first | rfl | cases h

end Reading

namespace Invocation

theorem ofArguments_eq_ok_iff {arguments : List String} {inv : Invocation} :
    ofArguments arguments = .ok inv ↔
      ∃ r, arguments.foldlM Reading.step {} = .ok r ∧ r.finish = .ok inv := bind_eq_ok_iff

theorem ofArguments_insert_quiet {before after : List String} {inv inv' : Invocation}
    (h : ofArguments (before ++ after) = .ok inv)
    (h' : ofArguments (before ++ "--quiet" :: after) = .ok inv') :
    inv' = { inv with quiet := inv'.quiet } := by
  obtain ⟨last, hread, hfinish⟩ := ofArguments_eq_ok_iff.1 h
  obtain ⟨last', hread', hfinish'⟩ := ofArguments_eq_ok_iff.1 h'
  rw [List.foldlM_append] at hread hread'
  obtain ⟨r, hbefore, hafter⟩ := bind_eq_ok_iff.1 hread
  obtain ⟨_, hbefore', hread'⟩ := bind_eq_ok_iff.1 hread'
  obtain rfl := Except.ok.inj (hbefore.symm.trans hbefore')
  rw [List.foldlM_cons] at hread'
  obtain ⟨next, hquiet, hafter'⟩ := bind_eq_ok_iff.1 hread'
  obtain ⟨general, special, rfl⟩ | ⟨hnone, hfull⟩ := Reading.step_quiet hquiet
  · obtain ⟨general, special, rfl⟩ := Reading.agree_foldlM after r _ _ _ _ hafter hafter'
    rw [Reading.finish_withQuiet, hfinish] at hfinish'
    obtain rfl := Except.ok.inj hfinish'
    rfl
  · -- As the only file it is missing without it, and a further word would be a second file.
    cases after with
    | nil =>
      obtain rfl := Except.ok.inj hafter
      have hsome := Reading.isSome_file_of_finish hfinish
      rw [hnone] at hsome
      cases hsome
    | cons argument after =>
      rw [List.foldlM_cons] at hafter'
      obtain ⟨_, hstep, -⟩ := bind_eq_ok_iff.1 hafter'
      exact absurd hstep (hfull.step_ne_ok argument _)

end Invocation
end ElementMetadata
