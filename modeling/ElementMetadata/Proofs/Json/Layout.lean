import ElementMetadata.Proofs.Json.Depth
import ElementMetadata.Proofs.Json.Quoted

/-!
Printed values. The two ways of printing differ in the blanks that they put between the items, and
blanks mean nothing to the reader, so both texts are read back as the value. Floats are left out: they
are rounded when they are read.
-/
namespace ElementMetadata.Json
variable {ε : Type} [FromSyntax ε] {text rest : List Char} {depth level : Nat} {v : Json}

inductive FloatFree : Json → Prop
  | null : FloatFree .null
  | bool (b : Bool) : FloatFree (.bool b)
  | integer (n : WireInt) : FloatFree (.integer n)
  | string (s : String) : FloatFree (.string s)
  | array {items : List Json} : (∀ x ∈ items, FloatFree x) → FloatFree (.array items)
  | object {members : List (String × Json)} :
    (∀ m ∈ members, FloatFree m.2) → FloatFree (.object members)

/-- A way of printing: blanks before each item and each closing bracket, as a level has them, and
blanks behind each colon. -/
structure Layout where
  gap : Nat → List Char
  space : List Char
  value : Nat → Json → List Char
  items : Nat → List Json → List Char
  members : Nat → List (String × Json) → List Char
  isBlank_gap (level : Nat) : ∀ c ∈ gap level, isBlank c = true
  isBlank_space : ∀ c ∈ space, isBlank c = true
  value_leaf (level : Nat) (v : Json) : v.parts = [] → value level v = compactChars v
  value_array (level : Nat) (x : Json) (xs : List Json) : value level (.array (x :: xs)) =
    '[' :: (gap (level + 1) ++ value (level + 1) x ++ items level xs)
  items_nil (level : Nat) : items level [] = gap level ++ [']']
  items_cons (level : Nat) (x : Json) (xs : List Json) : items level (x :: xs) =
    ',' :: (gap (level + 1) ++ value (level + 1) x ++ items level xs)
  value_object (level : Nat) (key : String) (x : Json) (ms : List (String × Json)) :
    value level (.object ((key, x) :: ms)) = '\x7b' :: (gap (level + 1) ++ quoteChars key ++
      ':' :: (space ++ value (level + 1) x ++ members level ms))
  members_nil (level : Nat) : members level [] = gap level ++ ['\x7d']
  members_cons (level : Nat) (key : String) (x : Json) (ms : List (String × Json)) :
    members level ((key, x) :: ms) = ',' :: (gap (level + 1) ++ quoteChars key ++
      ':' :: (space ++ value (level + 1) x ++ members level ms))

def Layout.oneLine : Layout where
  gap _ := []
  space := []
  value _ := compactChars
  items _ := compactItems
  members _ := compactMembers
  isBlank_gap _ := List.forall_mem_nil _
  isBlank_space := List.forall_mem_nil _
  value_leaf _ _ _ := rfl
  value_array _ _ _ := rfl
  items_nil _ := rfl
  items_cons _ _ _ := rfl
  value_object _ _ _ _ := by simp [compactChars]
  members_nil _ := rfl
  members_cons _ _ _ _ := by simp [compactMembers]

theorem isBlank_newLine (level : Nat) : ∀ c ∈ newLine level, isBlank c = true := by
  intro c hc
  obtain rfl | hc := List.mem_cons.1 hc
  · rfl
  · rw [List.eq_of_mem_replicate hc]
    rfl

def Layout.spread : Layout where
  gap := newLine
  space := [' ']
  value := prettyChars
  items := prettyItems
  members := prettyMembers
  isBlank_gap := isBlank_newLine
  isBlank_space := by simp [isBlank]
  value_leaf level v hv := by
    cases v with
    | array items =>
      obtain rfl : items = [] := hv
      rfl
    | object ms =>
      obtain rfl := List.map_eq_nil_iff.1 hv
      rfl
    | _ => rfl
  value_array _ _ _ := rfl
  items_nil _ := rfl
  items_cons _ _ _ := rfl
  value_object _ _ _ _ := by simp [prettyChars]
  members_nil _ := rfl
  members_cons _ _ _ _ := by simp [prettyMembers]

theorem skipBlanks_append {blanks : List Char} (h : ∀ c ∈ blanks, isBlank c = true) :
    skipBlanks (blanks ++ text) = skipBlanks text := List.dropWhile_append_of_pos h

theorem skipBlanks_cons {c : Char} (h : isBlank c = false) : skipBlanks (c :: text) = c :: text :=
  List.dropWhile_cons_of_neg (by simp [h])

theorem readValue_congr {more : List Char} (h : skipBlanks text = skipBlanks more) :
    (readValue depth text : Scan ε _) = readValue depth more := by
  unfold readValue
  rw [h]

theorem isBlank_of_beginsNumber {c : Char} (h : beginsNumber c = true) : isBlank c = false := by
  by_contra hblank
  simp only [isBlank, Bool.or_eq_true, beq_iff_eq, Bool.not_eq_false] at hblank
  obtain ((rfl | rfl) | rfl) | rfl := hblank <;> cases h

theorem readValue_of_beginsNumber {c : Char} (h : beginsNumber c = true) :
    (readValue depth (c :: text) : Scan ε _) = readNumber (c :: text) := by
  unfold readValue
  rw [skipBlanks_cons (isBlank_of_beginsNumber h)]
  split
  case h_8 heq =>
    obtain ⟨rfl, rfl⟩ := List.cons.inj heq
    rw [if_pos h]
  case h_1 heq => cases heq
  -- The other marks that a value may begin with begin no number.
  all_goals
    next heq =>
      obtain ⟨rfl, rfl⟩ := List.cons.inj heq
      cases h

section Brackets
variable {α σ : Type} {item : List Char → Scan ε (α × List Char)}
  {member : σ → String → List Char → Scan ε (σ × List Char)} {x : α} {xs : List α} {s t : σ}
  {key : String} {more behind : List Char} {fuel : Nat} {c : Char}

theorem readItems_item (h : skipBlanks text = c :: rest) (hc : c ≠ ']')
    (hx : item (c :: rest) = .ok (x, more))
    (hxs : readMoreItems item more.length more = .ok (xs, behind)) :
    readItems item text = .ok (x :: xs, behind) := by
  rw [readItems, h]
  split
  · next heq => cases heq
  · next heq => exact absurd (List.cons.inj heq).1 hc
  · exact bind_eq_ok_iff.2 ⟨_, hx, bind_eq_ok_iff.2 ⟨_, hxs, rfl⟩⟩

theorem readMoreItems_bracket (h : skipBlanks text = ']' :: rest) :
    readMoreItems item (fuel + 1) text = .ok ([], rest) := by
  rw [readMoreItems, h]
  rfl

theorem readMoreItems_item (h : skipBlanks text = c :: rest) (hc : c ≠ ']')
    (hx : item (c :: rest) = .ok (x, more)) (hxs : readMoreItems item fuel more = .ok (xs, behind)) :
    readMoreItems item (fuel + 1) (',' :: text) = .ok (x :: xs, behind) := by
  rw [readMoreItems, skipBlanks_cons rfl]
  simp only [h]
  split
  · next heq => cases heq
  · next heq => exact absurd (List.cons.inj heq).1 hc
  · exact bind_eq_ok_iff.2 ⟨_, hx, bind_eq_ok_iff.2 ⟨_, hxs, rfl⟩⟩

theorem readMembers_member (h : skipBlanks text = '\"' :: rest)
    (hkey : (readString rest : Scan ε _) = .ok (key, more)) (ht : member s key more = .ok (t, behind)) :
    readMembers member s text = readMoreMembers member behind.length t behind := by
  rw [readMembers, h]
  change (readString rest >>= _) = _
  rw [hkey]
  change (member s key more >>= _) = _
  rw [ht]
  rfl

theorem readMoreMembers_brace (h : skipBlanks text = '\x7d' :: rest) :
    readMoreMembers member (fuel + 1) s text = .ok (s, rest) := by
  rw [readMoreMembers, h]
  rfl

theorem readMoreMembers_member (h : skipBlanks text = '\"' :: rest)
    (hkey : (readString rest : Scan ε _) = .ok (key, more)) (ht : member s key more = .ok (t, behind)) :
    readMoreMembers member (fuel + 1) s (',' :: text) = readMoreMembers member fuel t behind := by
  rw [readMoreMembers, skipBlanks_cons rfl]
  simp only [h]
  rw [hkey]
  change (member s key more >>= _) = _
  rw [ht]
  rfl

theorem keepMember_colon {value : List Char → Scan ε (α × List Char)} {ms : List (String × α)}
    (hx : value text = .ok (x, rest)) :
    keepMember value ms key (':' :: text) = .ok (ms ++ [(key, x)], rest) := by
  change (value text >>= _) = _
  rw [hx]
  rfl

end Brackets

theorem readString_quoteChars (s : String) (rest : List Char) : ∃ quoted, quoteChars s ++ rest = '\"' :: quoted ∧
    (readString quoted : Scan ε _) = .ok (s, rest) := by
  refine ⟨s.toList.flatMap escapeChar ++ '\"' :: rest, ?_, readString_escaped s rest⟩
  simp [quoteChars]

theorem endsNumber_append {blanks : List Char} (h : ∀ c ∈ blanks, isBlank c = true)
    (hrest : EndsNumber rest) : EndsNumber (blanks ++ rest) := by
  cases blanks with
  | nil => exact hrest
  | cons c blanks =>
    rintro d ⟨⟩
    have hblank := h c List.mem_cons_self
    simp only [isBlank, Bool.or_eq_true, beq_iff_eq] at hblank
    obtain ((rfl | rfl) | rfl) | rfl := hblank <;> decide

namespace Layout
variable (L : Layout)

theorem endsNumber_items (level : Nat) (xs : List Json) (rest : List Char) :
    EndsNumber (L.items level xs ++ rest) := by
  cases xs with
  | nil =>
    rw [L.items_nil, List.append_assoc]
    refine endsNumber_append (L.isBlank_gap level) ?_
    rintro c ⟨⟩
    decide
  | cons x xs =>
    rw [L.items_cons]
    rintro c ⟨⟩
    decide

theorem endsNumber_members (level : Nat) (ms : List (String × Json)) (rest : List Char) :
    EndsNumber (L.members level ms ++ rest) := by
  cases ms with
  | nil =>
    rw [L.members_nil, List.append_assoc]
    refine endsNumber_append (L.isBlank_gap level) ?_
    rintro c ⟨⟩
    decide
  | cons m ms =>
    obtain ⟨key, x⟩ := m
    rw [L.members_cons]
    rintro c ⟨⟩
    decide

theorem exists_value (hv : v.FloatFree) (level : Nat) :
    ∃ c cs, L.value level v = c :: cs ∧ isBlank c = false ∧ c ≠ ']' := by
  cases hv with
  | null => exact ⟨_, _, L.value_leaf level _ rfl, rfl, by decide⟩
  | bool b => cases b <;> exact ⟨_, _, L.value_leaf level _ rfl, rfl, by decide⟩
  | integer n =>
    obtain ⟨c, cs, htext, hc⟩ := exists_toString n.val
    refine ⟨c, cs, (L.value_leaf level _ rfl).trans htext, isBlank_of_beginsNumber hc, ?_⟩
    rintro rfl
    cases hc
  | string s => exact ⟨_, _, L.value_leaf level _ rfl, rfl, by decide⟩
  | @array items _ =>
    cases items with
    | nil => exact ⟨_, _, L.value_leaf level _ rfl, rfl, by decide⟩
    | cons x xs => exact ⟨_, _, L.value_array level x xs, rfl, by decide⟩
  | @object ms _ =>
    cases ms with
    | nil => exact ⟨_, _, L.value_leaf level _ rfl, rfl, by decide⟩
    | cons m ms => exact ⟨_, _, L.value_object level m.1 m.2 ms, rfl, by decide⟩

theorem exists_skipBlanks_value (hv : v.FloatFree) (level : Nat) (tail : List Char) :
    ∃ c cs, skipBlanks (L.gap level ++ L.value level v ++ tail) = c :: cs ∧ c ≠ ']' ∧
      c :: cs = L.value level v ++ tail := by
  obtain ⟨c, cs, hvalue, hblank, hc⟩ := L.exists_value hv level
  refine ⟨c, cs ++ tail, ?_, hc, by rw [hvalue, List.cons_append]⟩
  rw [List.append_assoc, skipBlanks_append (L.isBlank_gap level), hvalue, List.cons_append,
    skipBlanks_cons hblank]

theorem skipBlanks_closing (level : Nat) (bracket : Char) (h : isBlank bracket = false) :
    skipBlanks (L.gap level ++ [bracket] ++ rest) = bracket :: rest := by
  rw [List.append_assoc, skipBlanks_append (L.isBlank_gap level), List.singleton_append,
    skipBlanks_cons h]

theorem readMoreItems_items (level : Nat) (rest : List Char) {xs : List Json} (hv : ∀ x ∈ xs, x.FloatFree)
    (hx : ∀ x ∈ xs, ∀ rest, EndsNumber rest →
      (readValue depth (L.value (level + 1) x ++ rest) : Scan ε _) = .ok (x, rest))
    {fuel : Nat} (hfuel : (L.items level xs ++ rest).length ≤ fuel) :
    (readMoreItems (readValue depth) fuel (L.items level xs ++ rest) : Scan ε _) =
      .ok (xs, rest) := by
  induction xs generalizing fuel with
  | nil =>
    rw [L.items_nil] at hfuel ⊢
    cases fuel with
    | zero => simp at hfuel
    | succ fuel => exact readMoreItems_bracket (L.skipBlanks_closing level ']' rfl)
  | cons x xs ih =>
    obtain ⟨hvx, hvxs⟩ := List.forall_mem_cons.1 hv
    obtain ⟨hxx, hxxs⟩ := List.forall_mem_cons.1 hx
    rw [L.items_cons] at hfuel ⊢
    cases fuel with
    | zero => simp at hfuel
    | succ fuel =>
      obtain ⟨c, cs, hskip, hc, htext⟩ :=
        L.exists_skipBlanks_value hvx (level + 1) (L.items level xs ++ rest)
      rw [List.cons_append, List.append_assoc]
      refine readMoreItems_item hskip hc ?_ (ih hvxs hxxs ?_)
      · rw [htext]
        exact hxx _ (L.endsNumber_items level xs rest)
      · -- The comma is read with the fuel of this step, so the rest needs less.
        simp at hfuel ⊢
        omega

theorem exists_skipBlanks_key (level : Nat) (key : String) (tail : List Char) :
    ∃ quoted, skipBlanks (L.gap level ++ quoteChars key ++ tail) = '\"' :: quoted ∧
      (readString quoted : Scan ε _) = .ok (key, tail) := by
  obtain ⟨quoted, hquoted, hkey⟩ := readString_quoteChars (ε := ε) key tail
  refine ⟨quoted, ?_, hkey⟩
  rw [List.append_assoc, skipBlanks_append (L.isBlank_gap level), hquoted, skipBlanks_cons rfl]

theorem member_append (level : Nat) (key : String) (x : Json) (tail rest : List Char) :
    L.gap level ++ quoteChars key ++ ':' :: (L.space ++ L.value level x ++ tail) ++ rest =
      L.gap level ++ quoteChars key ++ ':' :: (L.space ++ L.value level x ++ (tail ++ rest)) := by
  simp

theorem keepMember_value {key : String} {x : Json} {ms : List (String × Json)} {tail : List Char}
    (hx : (readValue depth (L.value level x ++ tail) : Scan ε _) = .ok (x, tail)) :
    (keepMember (readValue depth) ms key (':' :: (L.space ++ L.value level x ++ tail)) : Scan ε _) =
      .ok (ms ++ [(key, x)], tail) := by
  refine keepMember_colon ?_
  rw [← hx, List.append_assoc]
  exact readValue_congr (skipBlanks_append L.isBlank_space)

theorem readMoreMembers_members (level : Nat) (rest : List Char) {ms : List (String × Json)}
    (hx : ∀ m ∈ ms, ∀ rest, EndsNumber rest →
      (readValue depth (L.value (level + 1) m.2 ++ rest) : Scan ε _) = .ok (m.2, rest))
    {fuel : Nat} (hfuel : (L.members level ms ++ rest).length ≤ fuel)
    (before : List (String × Json)) :
    (readMoreMembers (keepMember (readValue depth)) fuel before (L.members level ms ++ rest) :
      Scan ε _) = .ok (before ++ ms, rest) := by
  induction ms generalizing fuel before with
  | nil =>
    rw [L.members_nil] at hfuel ⊢
    cases fuel with
    | zero => simp at hfuel
    | succ fuel =>
      rw [List.append_nil]
      exact readMoreMembers_brace (L.skipBlanks_closing level '\x7d' rfl)
  | cons m ms ih =>
    obtain ⟨key, x⟩ := m
    obtain ⟨hxx, hxxs⟩ := List.forall_mem_cons.1 hx
    rw [L.members_cons] at hfuel ⊢
    cases fuel with
    | zero => simp at hfuel
    | succ fuel =>
      obtain ⟨quoted, hskip, hkey⟩ := L.exists_skipBlanks_key (ε := ε) (level + 1) key
        (':' :: (L.space ++ L.value (level + 1) x ++ (L.members level ms ++ rest)))
      have hread := hxx _ (L.endsNumber_members level ms rest)
      rw [List.cons_append, L.member_append,
        readMoreMembers_member hskip hkey (L.keepMember_value hread), ih hxxs, List.append_assoc]
      · rfl
      · simp at hfuel ⊢
        omega

theorem readValue_value (hv : v.FloatFree) (hd : v.Fits depth) (level : Nat)
    (hrest : EndsNumber rest) :
    (readValue depth (L.value level v ++ rest) : Scan ε _) = .ok (v, rest) := by
  -- Each list or object is one level deeper in the layout and spends one of the depth.
  induction hv generalizing depth level rest with
  | null =>
    rw [L.value_leaf level _ rfl]
    unfold readValue
    rfl
  | bool b =>
    rw [L.value_leaf level _ rfl]
    unfold readValue
    cases b <;> rfl
  | integer n =>
    obtain ⟨c, cs, htext, hc⟩ := exists_toString n.val
    rw [L.value_leaf level _ rfl, compactChars, ← readNumber_toString n hrest, htext,
      List.cons_append, readValue_of_beginsNumber hc]
  | string s =>
    rw [L.value_leaf level _ rfl, compactChars, quoteChars, List.cons_append, List.append_assoc]
    exact readValue_string s rest depth
  | @array items hitems ih =>
    cases depth with
    | zero => exact hd.elim
    | succ depth =>
      cases items with
      | nil =>
        rw [L.value_leaf level _ rfl]
        unfold readValue
        rfl
      | cons x xs =>
        obtain ⟨hvx, hvxs⟩ := List.forall_mem_cons.1 hitems
        obtain ⟨hxx, hxxs⟩ := List.forall_mem_cons.1 ih
        obtain ⟨hdx, hdxs⟩ := List.forall_mem_cons.1 hd
        obtain ⟨c, cs, hskip, hc, htext⟩ :=
          L.exists_skipBlanks_value hvx (level + 1) (L.items level xs ++ rest)
        have hfirst := hxx hdx (level + 1) (L.endsNumber_items level xs rest)
        have hmore := L.readMoreItems_items (ε := ε) level rest hvxs
          (fun x hx rest hrest => hxxs x hx (hdxs x hx) (level + 1) hrest) (Nat.le_refl _)
        rw [← htext] at hfirst
        rw [L.value_array, List.cons_append, List.append_assoc]
        unfold readValue
        exact map_eq_ok_iff.2 ⟨_, readItems_item hskip hc hfirst hmore, rfl⟩
  | @object ms hms ih =>
    cases depth with
    | zero => exact hd.elim
    | succ depth =>
      cases ms with
      | nil =>
        rw [L.value_leaf level _ rfl]
        unfold readValue
        rfl
      | cons m ms =>
        obtain ⟨key, x⟩ := m
        obtain ⟨hxx, hxxs⟩ := List.forall_mem_cons.1 ih
        obtain ⟨hdx, hdxs⟩ := List.forall_mem_cons.1 hd
        obtain ⟨quoted, hskip, hkey⟩ := L.exists_skipBlanks_key (ε := ε) (level + 1) key
          (':' :: (L.space ++ L.value (level + 1) x ++ (L.members level ms ++ rest)))
        have hfirst := hxx hdx (level + 1) (L.endsNumber_members level ms rest)
        have hmore := L.readMoreMembers_members (ε := ε) level rest
          (fun m hm rest hrest => hxxs m hm (hdxs m hm) (level + 1) hrest) (Nat.le_refl _) [(key, x)]
        rw [L.value_object, List.cons_append, L.member_append]
        unfold readValue
        refine map_eq_ok_iff.2 ⟨((key, x) :: ms, rest), ?_, rfl⟩
        rw [readMembers_member hskip hkey (L.keepMember_value hfirst)]
        exact hmore

/-- What is printed in any layout denotes the value in canonical form, with blanks behind it or not. -/
theorem parse_value (hv : v.FloatFree) (hd : v.Fits maxDepth) {blanks : List Char}
    (hblanks : ∀ c ∈ blanks, isBlank c = true) :
    parse (String.ofList (L.value 0 v ++ blanks)) = .ok v.canonical := by
  have hend : EndsNumber (blanks ++ []) := endsNumber_append hblanks nofun
  have hskip : skipBlanks (blanks ++ []) = [] := skipBlanks_append hblanks
  rw [List.append_nil] at hend hskip
  refine parse_eq_ok_iff.2 ⟨v, blanks, ?_, hskip, rfl⟩
  rw [String.toList_ofList]
  exact L.readValue_value hv hd 0 hend

end Layout

theorem isControl_of_mem_quoteChars {s : String} {c : Char} (h : c ∈ quoteChars s) :
    isControl c = false := by
  simp only [quoteChars, List.mem_cons, List.mem_append, List.mem_flatMap, List.not_mem_nil,
    or_false] at h
  obtain rfl | hesc | rfl := h
  · rfl
  · obtain ⟨d, -, hd⟩ := hesc
    exact isControl_of_mem_escapeChar d c hd
  · rfl

theorem isControl_of_isDigit {c : Char} (h : isDigit c = true) : isControl c = false := by
  rw [isDigit, Bool.and_eq_true, decide_eq_true_iff] at h
  have hzero : '0'.toNat ≤ c.toNat := h.1
  have hcontrol : ¬c.toNat < 0x20 := Nat.not_lt.2 (Nat.le_trans (by decide) hzero)
  rw [isControl, decide_eq_false hcontrol]

theorem isControl_of_mem_toString {n : Int} {c : Char} (h : c ∈ (toString n).toList) :
    isControl c = false := by
  rw [toList_toString, List.mem_append] at h
  obtain hsign | hc := h
  · split at hsign
    · rw [List.mem_singleton.1 hsign]
      rfl
    · cases hsign
  · exact isControl_of_isDigit (isDigit_of_mem_toDigits hc)

theorem isControl_of_mem_compactItems {xs : List Json}
    (h : ∀ x ∈ xs, ∀ c ∈ compactChars x, isControl c = false) :
    ∀ c ∈ compactItems xs, isControl c = false := by
  induction xs with
  | nil => exact List.forall_mem_singleton.2 rfl
  | cons x xs ih =>
    obtain ⟨hx, hxs⟩ := List.forall_mem_cons.1 h
    exact List.forall_mem_cons.2 ⟨rfl, List.forall_mem_append.2 ⟨hx, ih hxs⟩⟩

theorem isControl_of_mem_member (key : String) {tail : List Char}
    (hv : ∀ c ∈ compactChars v, isControl c = false) (htail : ∀ c ∈ tail, isControl c = false) :
    ∀ c ∈ quoteChars key ++ ':' :: (compactChars v ++ tail), isControl c = false := by
  refine List.forall_mem_append.2 ⟨fun _ => isControl_of_mem_quoteChars, ?_⟩
  exact List.forall_mem_cons.2 ⟨rfl, List.forall_mem_append.2 ⟨hv, htail⟩⟩

theorem isControl_of_mem_compactMembers {ms : List (String × Json)}
    (h : ∀ m ∈ ms, ∀ c ∈ compactChars m.2, isControl c = false) :
    ∀ c ∈ compactMembers ms, isControl c = false := by
  induction ms with
  | nil => exact List.forall_mem_singleton.2 rfl
  | cons m ms ih =>
    obtain ⟨hm, hms⟩ := List.forall_mem_cons.1 h
    exact List.forall_mem_cons.2 ⟨rfl, isControl_of_mem_member m.1 hm (ih hms)⟩

theorem isControl_of_mem_compactChars (hv : v.FloatFree) :
    ∀ c ∈ compactChars v, isControl c = false := by
  induction hv with
  | null => simp [compactChars, isControl]
  | bool b => cases b <;> simp [compactChars, isControl]
  | integer n => exact fun _ => isControl_of_mem_toString
  | string s => exact fun _ => isControl_of_mem_quoteChars
  | @array items _ ih =>
    cases items with
    | nil => simp [compactChars, isControl]
    | cons x xs =>
      obtain ⟨hx, hxs⟩ := List.forall_mem_cons.1 ih
      exact List.forall_mem_cons.2 ⟨rfl, List.forall_mem_append.2
        ⟨hx, isControl_of_mem_compactItems hxs⟩⟩
  | @object ms _ ih =>
    cases ms with
    | nil => simp [compactChars, isControl]
    | cons m ms =>
      obtain ⟨hm, hms⟩ := List.forall_mem_cons.1 ih
      exact List.forall_mem_cons.2
        ⟨rfl, isControl_of_mem_member m.1 hm (isControl_of_mem_compactMembers hms)⟩

theorem isControl_of_mem_compact (hv : v.FloatFree) : ∀ c ∈ v.compact.toList, isControl c = false := by
  rw [compact, String.toList_ofList]
  exact isControl_of_mem_compactChars hv

section Single
variable (key value : String)

theorem floatFree_single : (Json.object [(key, .string value)]).FloatFree :=
  .object (List.forall_mem_singleton.2 (.string value))

theorem newline_not_mem_compact_single :
    '\n' ∉ (Json.object [(key, .string value)]).compact.toList := by
  intro h
  cases isControl_of_mem_compact (floatFree_single key value) '\n' h

theorem parse_compact_single : parse (Json.object [(key, .string value)]).compact =
    .ok (.object [(key, .string value)]) := by
  have hfits : (Json.object [(key, .string value)]).Fits maxDepth :=
    fun m hm => by rw [List.mem_singleton.1 hm]; trivial
  have h := Layout.oneLine.parse_value (floatFree_single key value) hfits (List.forall_mem_nil _)
  rwa [List.append_nil] at h

end Single

end ElementMetadata.Json
