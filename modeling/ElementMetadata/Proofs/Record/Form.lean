import ElementMetadata.Record.Form
import Mathlib.Data.List.Forall2

/-!
Which values the forms accept, and as what. A form keeps its values if it takes them as they are.
-/
namespace ElementMetadata

theorem bind_eq_ok_iff {ε α β : Type} {x : Except ε α} {f : α → Except ε β} {b : β} :
    (x >>= f) = .ok b ↔ ∃ a, x = .ok a ∧ f a = .ok b := by
  cases x <;> simp [bind, Except.bind]

theorem bind_eq_error_iff {ε α β : Type} {x : Except ε α} {f : α → Except ε β} {e : ε} :
    (x >>= f) = .error e ↔ x = .error e ∨ ∃ a, x = .ok a ∧ f a = .error e := by
  cases x <;> simp [bind, Except.bind]

theorem mapM_eq_ok_iff {ε α β : Type} {f : α → Except ε β} {xs : List α} {ys : List β} :
    xs.mapM f = .ok ys ↔ List.Forall₂ (fun x y => f x = .ok y) xs ys := by
  induction xs generalizing ys with
  | nil => cases ys <;> simp [pure, Except.pure]
  | cons x xs ih =>
    simp only [List.mapM_cons, bind_eq_ok_iff, ih]
    constructor
    · intro hex
      obtain ⟨y, hy, zs, hzs, h⟩ := hex
      obtain rfl := Except.ok.inj h
      exact .cons hy hzs
    · intro h
      cases h with
      | cons hy hzs => exact ⟨_, hy, _, hzs, rfl⟩

theorem map_eq_ok_iff {ε α β : Type} {f : α → β} {x : Except ε α} {b : β} :
    x.map f = .ok b ↔ ∃ a, x = .ok a ∧ f a = b := by
  cases x <;> simp [Except.map]

theorem mapError_eq_ok_iff {ε δ α : Type} {f : ε → δ} {x : Except ε α} {a : α} :
    x.mapError f = .ok a ↔ x = .ok a := by
  cases x <;> simp [Except.mapError]

theorem mapError_eq_error_iff {ε δ α : Type} {f : ε → δ} {x : Except ε α} {d : δ} :
    x.mapError f = .error d ↔ ∃ e, x = .error e ∧ f e = d := by
  cases x <;> simp [Except.mapError]

namespace Form

def Keeps (form : Form) : Prop := ∀ v w, form.ofValue v = .ok w → w = v

theorem ofValue_text {v w : Json} :
    text.ofValue v = .ok w ↔ ∃ s, .string s = v ∧ .string s = w := by
  cases v <;> simp [text]

theorem ofValue_boolean {v w : Json} :
    boolean.ofValue v = .ok w ↔ ∃ b, .bool b = v ∧ .bool b = w := by
  cases v <;> simp [boolean]

theorem ofValue_integer {width : Width} {v w : Json} :
    (integer width).ofValue v = .ok w ↔
      ∃ n : WireInt, width.Holds n.val ∧ .integer n = v ∧ .integer n = w := by
  cases v with
  | integer n => by_cases h : width.Holds n.val <;> simp [integer, integer.check, h]
  | _ => simp [integer, integer.check]

theorem ofValue_optional {form : Form} {v w : Json} :
    form.optional.ofValue v = .ok w ↔
      v = .null ∧ .null = w ∨ v ≠ .null ∧ form.ofValue v = .ok w := by
  cases v <;> simp [optional]

theorem exists_ofValue_optional_text {v : Json} :
    (∃ w, text.optional.ofValue v = .ok w) ↔ v = .null ∨ ∃ s, v = .string s := by
  cases v <;> simp [optional, text]

theorem ofValue_list {form : Form} {v w : Json} :
    form.list.ofValue v = .ok w ↔ ∃ xs ys, .array xs = v ∧
      List.Forall₂ (fun x y => form.ofValue x = .ok y) xs ys ∧ .array ys = w := by
  cases v <;> simp [list, map_eq_ok_iff, mapM_eq_ok_iff]

theorem ofValue_map {form : Form} {v w : Json} :
    form.map.ofValue v = .ok w ↔ ∃ ms ns, .object ms = v ∧
      List.Forall₂ (fun m n => form.ofValue m.2 = .ok n.2 ∧ m.1 = n.1) ms ns ∧ .object ns = w := by
  have hmem (m n : String × Json) :
      (form.ofValue m.2).map (m.1, ·) = .ok n ↔ form.ofValue m.2 = .ok n.2 ∧ m.1 = n.1 := by
    obtain ⟨k, x⟩ := n
    simp only [map_eq_ok_iff, Prod.mk.injEq]
    grind
  cases v <;> simp [map, members, map_eq_ok_iff, mapM_eq_ok_iff, hmem]

theorem Keeps.optional {form : Form} (h : form.Keeps) : form.optional.Keeps := by
  intro v w hv
  obtain ⟨rfl, rfl⟩ | ⟨_, hv⟩ := ofValue_optional.1 hv
  · rfl
  · exact h v w hv

end Form
end ElementMetadata
