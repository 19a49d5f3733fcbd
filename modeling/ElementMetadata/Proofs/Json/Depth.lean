import ElementMetadata.Json.Parser
import ElementMetadata.Proofs.Json.Canonical
import ElementMetadata.Proofs.Json.Numeral
import Mathlib.Logic.Relation

/-!
Parts of values, and how deep these nest. What is read from a text nests no deeper than the reader
goes, and what a value holds somewhere within nests less deep than the value.
-/
namespace ElementMetadata.Json
variable {ε : Type} [FromSyntax ε] {v w x : Json} {depth : Nat}

def parts : Json → List Json
  | .array items => items
  | .object members => members.map Prod.snd
  | _ => []

def Holds : Json → Json → Prop := Relation.TransGen fun v x => x ∈ v.parts

def Fits : Nat → Json → Prop
  | 0, .array _ => False
  | 0, .object _ => False
  | depth + 1, .array items => ∀ x ∈ items, Fits depth x
  | depth + 1, .object members => ∀ m ∈ members, Fits depth m.2
  | _, _ => True

theorem Holds.part (h : x ∈ v.parts) : Holds v x := .single h

theorem Holds.trans (h : Holds v w) (hw : Holds w x) : Holds v x := Relation.TransGen.trans h hw

theorem mem_parts_of_member? {key : String} (h : v.member? key = some x) : x ∈ v.parts := by
  cases v with
  | object ms =>
    obtain ⟨l₁, l₂, rfl, -⟩ := List.lookup_eq_some_iff.1 h
    simp [parts]
  | _ => cases h

theorem Canonical.part (h : v.Canonical) (hx : x ∈ v.parts) : x.Canonical := by
  cases v with
  | array items => exact canonical_array_iff.1 h x hx
  | object ms =>
    obtain ⟨m, hm, rfl⟩ := List.mem_map.1 hx
    exact (canonical_object_iff.1 h).2 m hm
  | _ => cases hx

theorem Canonical.of_holds (h : v.Canonical) (hx : Holds v x) : x.Canonical := by
  induction hx with
  | single hx => exact h.part hx
  | tail _ hx ih => exact ih.part hx

theorem fits_succ_iff : v.Fits (depth + 1) ↔ ∀ x ∈ v.parts, x.Fits depth := by
  cases v with
  | array items => exact Iff.rfl
  | object ms => exact List.forall_mem_map.symm
  | _ => exact iff_of_true trivial (List.forall_mem_nil _)

theorem Fits.succ (h : v.Fits depth) : v.Fits (depth + 1) := by
  induction depth generalizing v with
  | zero =>
    cases v with
    | array _ | object _ => exact h.elim
    | _ => trivial
  | succ depth ih => exact fits_succ_iff.2 fun x hx => ih (fits_succ_iff.1 h x hx)

theorem Fits.of_holds (h : v.Fits (depth + 1)) (hx : Holds v x) : x.Fits depth := by
  induction hx with
  | single hx => exact fits_succ_iff.1 h _ hx
  | tail _ hx ih => exact fits_succ_iff.1 ih.succ _ hx

theorem exists_of_mem_parts_canonical (hx : x ∈ v.canonical.parts) :
    ∃ y ∈ v.parts, y.canonical = x := by
  cases v with
  | array items =>
    rw [canonical, canonicalItems_eq_map] at hx
    exact List.mem_map.1 hx
  | object ms =>
    rw [canonical, canonicalMembers_eq_map] at hx
    obtain ⟨m, hm, rfl⟩ := List.mem_map.1 hx
    obtain ⟨n, hn, rfl⟩ := List.mem_map.1 (mem_of_mem_sortMembers hm)
    exact ⟨n.2, List.mem_map_of_mem hn, rfl⟩
  | _ => cases hx

theorem Fits.canonical (h : v.Fits depth) : v.canonical.Fits depth := by
  induction depth generalizing v with
  | zero =>
    cases v with
    | array _ | object _ => exact h.elim
    | _ => trivial
  | succ depth ih =>
    refine fits_succ_iff.2 fun x hx => ?_
    obtain ⟨y, hy, rfl⟩ := exists_of_mem_parts_canonical hx
    exact ih (fits_succ_iff.1 h y hy)

theorem canonical_of_parts (h : ∀ x ∈ v.canonical.parts, x.Canonical) : v.canonical.Canonical := by
  cases v with
  | array items => exact canonical_array_iff.2 h
  | object ms =>
    exact canonical_object_iff.2 ⟨ascending_sortMembers _, fun m hm => h _ (List.mem_map_of_mem hm)⟩
  | _ => rfl

theorem Fits.canonical_canonical (h : v.Fits depth) : v.canonical.Canonical := by
  induction depth generalizing v with
  | zero =>
    cases v with
    | array _ | object _ => exact h.elim
    | _ => rfl
  | succ depth ih =>
    refine canonical_of_parts fun x hx => ?_
    obtain ⟨y, hy, rfl⟩ := exists_of_mem_parts_canonical hx
    exact ih (fits_succ_iff.1 h y hy)

section Reading
variable {α σ : Type} {text rest : List Char}

/-- What holds of each item that can be read holds of all that are read. -/
theorem forall_mem_of_readMoreItems {item : List Char → Scan ε (α × List Char)} {P : α → Prop}
    (hitem : ∀ text x rest, item text = .ok (x, rest) → P x) {fuel : Nat} {xs : List α}
    (h : readMoreItems item fuel text = .ok (xs, rest)) : ∀ x ∈ xs, P x := by
  induction fuel generalizing text xs with
  | zero => cases h
  | succ fuel ih =>
    rw [readMoreItems] at h
    split at h
    · cases h
    · obtain ⟨rfl, -⟩ := Prod.mk.inj (Except.ok.inj h)
      exact List.forall_mem_nil _
    · split at h
      · cases h
      · cases h
      · obtain ⟨⟨x, behind⟩, hx, h⟩ := bind_eq_ok_iff.1 h
        obtain ⟨⟨ys, end_⟩, hys, h⟩ := bind_eq_ok_iff.1 h
        obtain ⟨rfl, rfl⟩ := Prod.mk.inj (Except.ok.inj h)
        exact List.forall_mem_cons.2 ⟨hitem _ _ _ hx, ih hys⟩
    · cases h

theorem forall_mem_of_readItems {item : List Char → Scan ε (α × List Char)} {P : α → Prop}
    (hitem : ∀ text x rest, item text = .ok (x, rest) → P x) {xs : List α}
    (h : readItems item text = .ok (xs, rest)) : ∀ x ∈ xs, P x := by
  rw [readItems] at h
  split at h
  · cases h
  · obtain ⟨rfl, -⟩ := Prod.mk.inj (Except.ok.inj h)
    exact List.forall_mem_nil _
  · obtain ⟨⟨x, behind⟩, hx, h⟩ := bind_eq_ok_iff.1 h
    obtain ⟨⟨ys, end_⟩, hys, h⟩ := bind_eq_ok_iff.1 h
    obtain ⟨rfl, rfl⟩ := Prod.mk.inj (Except.ok.inj h)
    exact List.forall_mem_cons.2 ⟨hitem _ _ _ hx, forall_mem_of_readMoreItems hitem hys⟩

theorem inv_of_readMoreMembers {member : σ → String → List Char → Scan ε (σ × List Char)}
    {Inv : σ → Prop} (hmember : ∀ s key text t rest, Inv s → member s key text = .ok (t, rest) → Inv t)
    {fuel : Nat} {s t : σ} (hs : Inv s) (h : readMoreMembers member fuel s text = .ok (t, rest)) :
    Inv t := by
  induction fuel generalizing text s with
  | zero => cases h
  | succ fuel ih =>
    rw [readMoreMembers] at h
    split at h
    · cases h
    · obtain ⟨rfl, -⟩ := Prod.mk.inj (Except.ok.inj h)
      exact hs
    · split at h
      · cases h
      · obtain ⟨⟨key, behind⟩, -, h⟩ := bind_eq_ok_iff.1 h
        obtain ⟨⟨s', behind⟩, hs', h⟩ := bind_eq_ok_iff.1 h
        exact ih (hmember _ _ _ _ _ hs hs') h
      · cases h
      · cases h
    · cases h

theorem inv_of_readMembers {member : σ → String → List Char → Scan ε (σ × List Char)}
    {Inv : σ → Prop} (hmember : ∀ s key text t rest, Inv s → member s key text = .ok (t, rest) → Inv t)
    {s t : σ} (hs : Inv s) (h : readMembers member s text = .ok (t, rest)) : Inv t := by
  rw [readMembers] at h
  split at h
  · cases h
  · obtain ⟨rfl, -⟩ := Prod.mk.inj (Except.ok.inj h)
    exact hs
  · obtain ⟨⟨key, behind⟩, -, h⟩ := bind_eq_ok_iff.1 h
    obtain ⟨⟨s', behind⟩, hs', h⟩ := bind_eq_ok_iff.1 h
    exact inv_of_readMoreMembers hmember (hmember _ _ _ _ _ hs hs') h
  · cases h

theorem forall_mem_of_keepMember {value : List Char → Scan ε (α × List Char)} {P : α → Prop}
    (hvalue : ∀ text x rest, value text = .ok (x, rest) → P x) (ms : List (String × α))
    (key : String) (text : List Char) (ns : List (String × α)) (rest : List Char)
    (hms : ∀ m ∈ ms, P m.2) (h : keepMember value ms key text = .ok (ns, rest)) :
    ∀ n ∈ ns, P n.2 := by
  obtain ⟨behind, -, h⟩ := bind_eq_ok_iff.1 h
  obtain ⟨⟨x, end_⟩, hx, h⟩ := bind_eq_ok_iff.1 h
  obtain ⟨rfl, rfl⟩ := Prod.mk.inj (Except.ok.inj h)
  exact List.forall_mem_append.2 ⟨hms, List.forall_mem_singleton.2 (hvalue _ _ _ hx)⟩

theorem forall_mem_of_readMembers {value : List Char → Scan ε (α × List Char)} {P : α → Prop}
    (hvalue : ∀ text x rest, value text = .ok (x, rest) → P x) {ms : List (String × α)}
    (h : readMembers (keepMember value) [] text = .ok (ms, rest)) : ∀ m ∈ ms, P m.2 :=
  inv_of_readMembers (forall_mem_of_keepMember hvalue) (List.forall_mem_nil _) h

theorem IsNumber.fits (h : v.IsNumber) (depth : Nat) : v.Fits depth := by
  cases h <;> cases depth <;> trivial

theorem fits_of_readValue (h : (readValue depth text : Scan ε _) = .ok (v, rest)) : v.Fits depth := by
  induction depth using Nat.strongRecOn generalizing text v rest with
  | ind depth ih =>
    unfold readValue at h
    split at h
    case h_1 => cases h
    case h_8 =>
      split at h
      · exact (isNumber_of_readNumber h).fits depth
      · cases h
    case h_3 =>
      split at h
      · cases h
      · next d =>
        obtain ⟨⟨xs, behind⟩, hxs, heq⟩ := map_eq_ok_iff.1 h
        obtain ⟨rfl, -⟩ := Prod.mk.inj heq
        exact forall_mem_of_readItems (fun _ _ _ hx => ih d (Nat.lt_succ_self d) hx) hxs
    case h_4 =>
      split at h
      · cases h
      · next d =>
        obtain ⟨⟨ms, behind⟩, hms, heq⟩ := map_eq_ok_iff.1 h
        obtain ⟨rfl, -⟩ := Prod.mk.inj heq
        exact forall_mem_of_readMembers (fun _ _ _ hx => ih d (Nat.lt_succ_self d) hx) hms
    all_goals
      obtain ⟨_, -, heq⟩ := map_eq_ok_iff.1 h
      obtain ⟨rfl, -⟩ := Prod.mk.inj heq
      cases depth <;> trivial

end Reading

/-- A text denotes the canonical form of what is read from it, if nothing but blanks is left. -/
theorem parse_eq_ok_iff {text : String} : parse text = .ok v ↔
    ∃ w rest, (readValue maxDepth text.toList : Scan SyntaxFault _) = .ok (w, rest) ∧
      skipBlanks rest = [] ∧ w.canonical = v := by
  simp only [parse, readWholeText, map_eq_ok_iff, mapError_eq_ok_iff, bind_eq_ok_iff]
  constructor
  · intro hex
    obtain ⟨w, ⟨⟨x, rest⟩, hread, hend⟩, hv⟩ := hex
    split at hend
    · next hblank =>
      obtain rfl := Except.ok.inj hend
      exact ⟨_, rest, hread, hblank, hv⟩
    · cases hend
  · intro hex
    obtain ⟨w, rest, hread, hblank, hv⟩ := hex
    exact ⟨w, ⟨(w, rest), hread, by simp [hblank, pure, Except.pure]⟩, hv⟩

theorem canonical_of_parse {text : String} (h : parse text = .ok v) : v.Canonical := by
  obtain ⟨w, rest, hread, -, rfl⟩ := parse_eq_ok_iff.1 h
  exact (fits_of_readValue hread).canonical_canonical

theorem fits_of_parse {text : String} (h : parse text = .ok v) : v.Fits maxDepth := by
  obtain ⟨w, rest, hread, -, rfl⟩ := parse_eq_ok_iff.1 h
  exact (fits_of_readValue hread).canonical

end ElementMetadata.Json
