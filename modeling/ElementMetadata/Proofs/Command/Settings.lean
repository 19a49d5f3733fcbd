import ElementMetadata.Command.Run
import ElementMetadata.Proofs.Json.Members
import ElementMetadata.Proofs.Record.Form
import Mathlib.Data.Option.Defs

/-!
Settings files that differ in nothing but the log filter. What is read of one is read of the other, up
to that filter.
-/
namespace ElementMetadata

theorem rel_bind {α β γ δ : Type} {r : α → β → Prop} {t : γ → δ → Prop} {x : Option α}
    {y : Option β} {f : α → Option γ} {g : β → Option δ} (h : Option.Rel r x y)
    (hfg : ∀ a b, r a b → Option.Rel t (f a) (g b)) : Option.Rel t (x.bind f) (y.bind g) := by
  cases h with
  | none => exact .none
  | some h => exact hfg _ _ h

theorem rel_bind_same {α γ δ : Type} {t : γ → δ → Prop} {x : Option α} {f : α → Option γ}
    {g : α → Option δ} (hfg : ∀ a, Option.Rel t (f a) (g a)) :
    Option.Rel t (x.bind f) (x.bind g) := by
  cases x with
  | none => exact .none
  | some a => exact hfg a

theorem rel_map {α β γ δ : Type} {r : α → β → Prop} {t : γ → δ → Prop} {x : Option α}
    {y : Option β} {f : α → γ} {g : β → δ} (h : Option.Rel r x y)
    (hfg : ∀ a b, r a b → t (f a) (g b)) : Option.Rel t (x.map f) (y.map g) := by
  cases h with
  | none => exact .none
  | some h => exact .some (hfg _ _ h)

theorem rel_of_eq {α : Type} {r : α → α → Prop} {x y : Option α} (h : x = y) (hrefl : ∀ a, r a a) :
    Option.Rel r x y := by
  obtain rfl := h
  cases x with
  | none => exact .none
  | some a => exact .some (hrefl a)

namespace Toml

/-- Entries that are the same but for the nodes of a key, which are related. -/
inductive SameBut (key : String) (related : Node → Node → Prop) : Entries → Entries → Prop
  | nil : SameBut key related [] []
  | keep {entry : String × Node} {entries entries' : Entries} :
      SameBut key related entries entries' →
      SameBut key related (entry :: entries) (entry :: entries')
  | change {node node' : Node} {entries entries' : Entries} : related node node' →
      SameBut key related entries entries' →
      SameBut key related ((key, node) :: entries) ((key, node') :: entries')

namespace SameBut
variable {key : String} {related : Node → Node → Prop} {entries entries' : Entries}

theorem refl (key : String) (related : Node → Node → Prop) (entries : Entries) :
    SameBut key related entries entries := by
  induction entries with
  | nil => exact .nil
  | cons entry entries ih => exact .keep ih

theorem lookup_of_ne (h : SameBut key related entries entries') {other : String}
    (hne : other ≠ key) : entries.lookup other = entries'.lookup other := by
  induction h with
  | nil => rfl
  | @keep entry _ _ _ ih =>
    obtain ⟨k, node⟩ := entry
    rw [Json.lookup_cons_ite, Json.lookup_cons_ite, ih]
  | change _ _ ih => rw [Json.lookup_cons_of_ne _ hne, Json.lookup_cons_of_ne _ hne, ih]

theorem lookup_self (h : SameBut key related entries entries') :
    Option.Rel (fun node node' => node = node' ∨ related node node')
      (entries.lookup key) (entries'.lookup key) := by
  induction h with
  | nil => exact .none
  | @keep entry _ _ _ ih =>
    obtain ⟨k, node⟩ := entry
    rw [Json.lookup_cons_ite, Json.lookup_cons_ite]
    split
    · exact .some (.inl rfl)
    · exact ih
  | change h _ _ =>
    rw [List.lookup_cons_self, List.lookup_cons_self]
    exact .some (.inr h)

end SameBut
end Toml

namespace Settings
open Toml (Node Entries SameBut)

def SameButFilter (settings settings' : Settings) : Prop :=
  settings' = { settings with filter := settings'.filter }

inductive Strings : Node → Node → Prop
  | mk (s s' : String) : Strings (.text s) (.text s')

/-- Sections that differ in nothing but the string at the key of the filter, or at its place. -/
inductive OtherFilter : Node → Node → Prop
  | table {origin : Toml.Origin} {entries entries' : Entries} :
      SameBut "filter" Strings entries entries' →
      OtherFilter (.table origin entries) (.table origin entries')
  | inlineTable {entries entries' : Entries} : SameBut "filter" Strings entries entries' →
      OtherFilter (.inlineTable entries) (.inlineTable entries')
  | array {s s' : String} {items : List Node} :
      OtherFilter (.array (.text s :: items)) (.array (.text s' :: items))

def SameButLogFilter : Entries → Entries → Prop := SameBut "logging" OtherFilter

variable {α : Type} {key : String} {related : Node → Node → Prop} {entries entries' : Entries}

theorem setting?_of_ne (h : SameBut key related entries entries') {other : String}
    (hne : other ≠ key) (read : Node → Option α) :
    setting? read entries other = setting? read entries' other := by
  rw [setting?, setting?, h.lookup_of_ne hne]

theorem setting?_rel (h : SameBut key related entries entries') {read : Node → Option α}
    {r : α → α → Prop} (hrefl : ∀ a, r a a)
    (hread : ∀ node node', related node node' → Option.Rel r (read node) (read node')) :
    Option.Rel (Option.Rel r) (setting? read entries key) (setting? read entries' key) := by
  have hlookup := h.lookup_self
  unfold setting?
  generalize entries.lookup key = held, entries'.lookup key = held' at hlookup ⊢
  cases hlookup with
  | none => exact .some .none
  | @some node node' hnode =>
    have hrel : Option.Rel r (read node) (read node') := by
      obtain rfl | hnode := hnode
      · exact rel_of_eq rfl hrefl
      · exact hread node node' hnode
    exact rel_map (f := some) (g := some) hrel fun _ _ h => .some h

theorem section?_rel {node node' : Node} (h : OtherFilter node node') :
    Option.Rel (SameBut "filter" Strings) (section? ["filter"] node) (section? ["filter"] node') := by
  cases h with
  | table h => exact .some h
  | inlineTable h => exact .some h
  | array => exact .some (.change (.mk _ _) (.refl _ _ _))

theorem getD_rel {x y : Option Entries} (h : Option.Rel (SameBut "filter" Strings) x y) :
    SameBut "filter" Strings (x.getD []) (y.getD []) := by
  cases h with
  | none => exact .nil
  | some h => exact h

theorem text?_rel {node node' : Node} (h : Strings node node') :
    Option.Rel (fun _ _ => True) (text? node) (text? node') := by
  cases h with
  | mk s s' => exact .some trivial

theorem ofEntries?_rel (h : SameButLogFilter entries entries') :
    Option.Rel SameButFilter (ofEntries? entries) (ofEntries? entries') := by
  have hlogging := setting?_rel h (SameBut.refl _ _) fun _ _ => section?_rel
  unfold ofEntries?
  have houtput : "output" ≠ "logging" := by decide
  have hsummary : "summary" ≠ "logging" := by decide
  rw [setting?_of_ne h houtput, setting?_of_ne h hsummary]
  refine rel_bind hlogging fun logging logging' hsection => ?_
  have hfilter := setting?_rel (getD_rel hsection) (fun _ => trivial) fun _ _ => text?_rel
  refine rel_bind_same fun output => rel_bind_same fun summary => ?_
  refine rel_bind hfilter fun filter filter' _ => ?_
  refine rel_bind_same fun format => rel_bind_same fun pretty => rel_bind_same fun suffix => ?_
  exact .some rfl

theorem toOption_parse (refusal : String → SettingsFault) (text : String) :
    (parse refusal text).toOption = (Toml.parse text).bind ofEntries? := by
  unfold parse
  cases (Toml.parse text).bind ofEntries? <;> rfl

end Settings

/-- Contents that are the same, or two documents that differ in nothing but the string of the log
filter. -/
inductive Content.SameButLogFilter : Content → Content → Prop
  | same (content : Content) : SameButLogFilter content content
  | documents {bytes bytes' : ByteArray} {text text' : String} {entries entries' : Toml.Entries} :
      Content.text (.ok bytes) = .ok text → Content.text (.ok bytes') = .ok text' →
      Toml.parse text = some entries → Toml.parse text' = some entries' →
      Settings.SameButLogFilter entries entries' → SameButLogFilter (.ok bytes) (.ok bytes')

theorem Content.SameButLogFilter.eq_or_toml {content content' : Content}
    (h : content.SameButLogFilter content') : content = content' ∨
      ∃ text text' entries entries', content.text = .ok text ∧ Toml.parse text = some entries ∧
        content'.text = .ok text' ∧ Toml.parse text' = some entries' := by
  cases h with
  | same => exact .inl rfl
  | documents htext htext' hparse hparse' _ =>
    exact .inr ⟨_, _, _, _, htext, hparse, htext', hparse'⟩

end ElementMetadata
