import ElementMetadata.Proofs.Record.Tabular

/-!
Kinds of values, and keys with the kind of value that stands there. A form describes a kind if it refuses
what is not of the kind, and for the fault that the kind names.
-/
namespace ElementMetadata

def faultIn? {ε α : Type} : Except ε α → Option ε
  | .ok _ => none
  | .error fault => some fault

section Faults
variable {ε ζ α β : Type} {x : Except ε α} {fault : ε} {o : Option ε}

theorem faultIn?_eq_none_iff : faultIn? x = none ↔ ∃ a, x = .ok a := by
  cases x <;> simp [faultIn?]

theorem faultIn?_eq_some_iff : faultIn? x = some fault ↔ x = .error fault := by
  cases x <;> simp [faultIn?]

@[simp] theorem faultIn?_map (f : α → β) : faultIn? (x.map f) = faultIn? x := by
  cases x <;> rfl

@[simp] theorem faultIn?_mapError (f : ε → ζ) : faultIn? (x.mapError f) = (faultIn? x).map f := by
  cases x <;> rfl

theorem faultIn?_bind {f : α → Except ε β} (h : ∀ a, x = .ok a → faultIn? (f a) = o) :
    faultIn? (x >>= f) = (faultIn? x).or o := by
  cases x with
  | error fault => rfl
  | ok a => exact h a rfl

theorem faultIn?_mapM (f : α → Except ε β) (xs : List α) :
    faultIn? (xs.mapM f) = xs.findSome? fun x => faultIn? (f x) := by
  induction xs with
  | nil => rfl
  | cons x xs ih =>
    have hrest (y : β) :
        faultIn? (do return y :: (← xs.mapM f)) = xs.findSome? fun x => faultIn? (f x) := by
      rw [faultIn?_bind (o := none) fun _ _ => rfl, Option.or_none, ih]
    rw [List.mapM_cons, faultIn?_bind fun y _ => hrest y, List.findSome?_cons]
    cases faultIn? (f x) <;> rfl

end Faults

inductive Kind : Type 1 where
  | text
  | boolean
  | integer (width : Width)
  | any
  | list (kind : Kind)
  | map (kind : Kind)
  | readable (α : Type) [Codec α]

namespace Kind

def Holds : Kind → Json → Prop
  | text, v => ∃ s, v = .string s
  | boolean, v => ∃ b, v = .bool b
  | integer width, v => ∃ n, v = .integer n ∧ width.Holds n.val
  | any, _ => True
  | list kind, v => ∃ vs, v = .array vs ∧ ∀ x ∈ vs, kind.Holds x
  | map kind, v => ∃ ms, v = .object ms ∧ ∀ m ∈ ms, kind.Holds m.2
  | readable α, v => ∃ r : α, Codec.read v = .ok r

/-- What is said of a value that is not of the kind: of a list or a map, what is said of the first
item that is not. -/
def fault? : Kind → Json → Option Fault
  | text, .string _ => none
  | text, v => some (.wrongType (Found.ofJson v) .text)
  | boolean, .bool _ => none
  | boolean, v => some (.wrongType (Found.ofJson v) .boolean)
  | integer width, .integer n =>
    if width.Holds n.val then none else some (.outOfRange n.val width)
  | integer width, v => some (.wrongType (Found.ofJson v) (.integer width))
  | any, _ => none
  | list kind, .array vs => vs.findSome? kind.fault?
  | list _, v => some (.wrongType (Found.ofJson v) .sequence)
  | map kind, .object ms => ms.findSome? fun m => kind.fault? m.2
  | map _, v => some (.wrongType (Found.ofJson v) .map)
  | readable α, v => faultIn? (Codec.read v : Except Fault α)

theorem fault?_eq_none_iff {kind : Kind} {v : Json} : kind.fault? v = none ↔ kind.Holds v := by
  induction kind generalizing v with
  | text => cases v <;> simp [fault?, Holds]
  | boolean => cases v <;> simp [fault?, Holds]
  | integer width => cases v <;> simp [fault?, Holds]
  | any => simp [fault?, Holds]
  | list kind ih => cases v <;> simp [fault?, Holds, ih]
  | map kind ih => cases v <;> simp [fault?, Holds, ih]
  | readable α => rw [fault?, faultIn?_eq_none_iff, Holds]

/-- The form refuses what is not of the kind, for that fault, and nothing else. -/
def Describes (kind : Kind) (form : Form) : Prop := ∀ v, faultIn? (form.ofValue v) = kind.fault? v

theorem Describes.text : Kind.text.Describes .text := by
  intro v
  cases v <;> rfl

theorem Describes.boolean : Kind.boolean.Describes .boolean := by
  intro v
  cases v <;> rfl

theorem Describes.integer (width : Width) : (Kind.integer width).Describes (.integer width) := by
  intro v
  cases v with
  | integer n =>
    by_cases h : width.Holds n.val <;> simp [Form.integer, Form.integer.check, fault?, faultIn?, h]
  | _ => rfl

theorem Describes.any : Kind.any.Describes .any := fun _ => rfl

theorem Describes.list {kind : Kind} {form : Form} (h : kind.Describes form) :
    kind.list.Describes form.list := by
  intro v
  cases v with
  | array vs =>
    have hitem : (fun x => faultIn? (form.ofValue x)) = kind.fault? := funext h
    simp only [Form.list, fault?, faultIn?_map, faultIn?_mapM, hitem]
  | _ => rfl

theorem Describes.map {kind : Kind} {form : Form} (h : kind.Describes form) :
    kind.map.Describes form.map := by
  intro v
  cases v with
  | object ms => simp only [Form.map, Form.members, fault?, faultIn?_map, faultIn?_mapM, h _]
  | _ => rfl

theorem Describes.readable (α : Type) [Codec α] : (Kind.readable α).Describes (Codec.form α) := by
  intro v
  rw [fault?, Codec.read, faultIn?_map]

end Kind

/-- Whether a key has to be there. Null may stand at an optional key only. -/
inductive Presence where
  | required
  | optional
  | defaulted
deriving DecidableEq

structure KnownField : Type 1 where
  key : String
  presence : Presence
  kind : Kind

namespace KnownField

def Holds (f : KnownField) (v : Json) : Prop :=
  f.presence = .optional ∧ v = .null ∨ f.kind.Holds v

def fault? (f : KnownField) (v : Json) : Option Fault :=
  if f.presence = .optional ∧ v.isNull then none else f.kind.fault? v

theorem fault?_eq_none_iff {f : KnownField} {v : Json} : f.fault? v = none ↔ f.Holds v := by
  have hnull : v.isNull = true ↔ v = .null := by cases v <;> simp [Json.isNull]
  rw [fault?, Holds, ← hnull, ite_eq_left_iff, Kind.fault?_eq_none_iff]
  exact or_iff_not_imp_left.symm

/-- The slot is that of the key, and refuses what may not stand there, for that fault. -/
structure Describes (f : KnownField) (slot : Slot) : Prop where
  key_eq : slot.key = f.key
  needed_iff : slot.needed = true ↔ f.presence = .required
  faultIn?_eq (v : Json) : faultIn? (slot.form.ofValue v) = f.fault? v

section Fields
variable {ρ : Type} {kind : Kind} {form : Form} (h : kind.Describes form) (key : String)
include h

theorem Describes.required (write : ρ → Json) :
    Describes ⟨key, .required, kind⟩ (Field.required key form write).slot :=
  ⟨rfl, by simp [Field.slot, Field.required], fun v => (h v).trans (by simp [fault?])⟩

theorem Describes.defaulted (write : ρ → Json) :
    Describes ⟨key, .defaulted, kind⟩ (Field.defaulted key form write).slot :=
  ⟨rfl, by simp [Field.slot, Field.defaulted], fun v => (h v).trans (by simp [fault?])⟩

theorem faultIn?_optional (v : Json) :
    faultIn? (form.optional.ofValue v) = fault? ⟨key, .optional, kind⟩ v := by
  cases v with
  | null => rfl
  | _ => exact h _

theorem Describes.optional (write : ρ → Option Json) :
    Describes ⟨key, .optional, kind⟩ (Field.optional key form write).slot :=
  ⟨rfl, by simp [Field.slot, Field.optional], faultIn?_optional h key⟩

theorem Describes.nullable (write : ρ → Option Json) :
    Describes ⟨key, .optional, kind⟩ (Field.nullable key form write).slot :=
  ⟨rfl, by simp [Field.slot, Field.nullable], faultIn?_optional h key⟩

end Fields

end KnownField
end ElementMetadata
