import GraphConsole.Proofs.Json.RoundTrip

/-! How much room the printer needs. It stops at a value that nests deeper, and at no other whose
whole numbers are short enough. -/

namespace GraphConsole.Json

open GraphConsole.Text

mutual

/-- The levels of a value: each array and object is one, and so is any value that stands in none. -/
def levels : Json → Nat
  | .array items => levelsOfItems items + 1
  | .object fields => levelsOfFields fields + 1
  | _ => 1

def levelsOfItems : List Json → Nat
  | [] => 0
  | item :: rest => max item.levels (levelsOfItems rest)

def levelsOfFields : List (String × Json) → Nat
  | [] => 0
  | (_, value) :: rest => max value.levels (levelsOfFields rest)

end

mutual

/-- The printer needs no less room than the reader: what goes innermost needs a level as well, if
it is no empty array or object. -/
theorem nesting_le_levels : ∀ value : Json, value.nesting ≤ value.levels
  | .array items => Nat.succ_le_succ (nestingOfItems_le_levels items)
  | .object fields => Nat.succ_le_succ (nestingOfFields_le_levels fields)
  | .null | .bool _ | .integer _ | .decimal _ | .string _ => Nat.zero_le _

theorem nestingOfItems_le_levels : ∀ items : List Json,
    nestingOfItems items ≤ levelsOfItems items
  | [] => Nat.le_refl 0
  | item :: rest => by
      have first := nesting_le_levels item
      have others := nestingOfItems_le_levels rest
      simp only [nestingOfItems, levelsOfItems]
      omega

theorem nestingOfFields_le_levels : ∀ fields : List (String × Json),
    nestingOfFields fields ≤ levelsOfFields fields
  | [] => Nat.le_refl 0
  | (_, value) :: rest => by
      have first := nesting_le_levels value
      have others := nestingOfFields_le_levels rest
      simp only [nestingOfFields, levelsOfFields]
      omega

end

variable {room : Nat}

/-- The printer stops for want of room and for nothing else. -/
def Roomy (room levels : Nat) (stopped : Option Overrun) : Prop :=
  stopped = if levels ≤ room then none else some .depth

theorem roomy_or {levels more : Nat} {first later : Option Overrun}
    (one : Roomy room levels first) (others : Roomy room more later) :
    Roomy room (max levels more) (first.or later) := by
  unfold Roomy at one others ⊢
  subst one others
  by_cases fits : levels ≤ room
  · simp only [Nat.max_le, fits, true_and, if_true, Option.none_or]
  · simp only [Nat.max_le, fits, false_and, if_false, Option.some_or]

theorem roomy_items {items : List Json}
    (each : ∀ item ∈ items, Roomy room item.levels (overrun? room item)) :
    Roomy room (levelsOfItems items) (overrunOfItems? room items) := by
  induction items with
  | nil => exact (if_pos (Nat.zero_le room)).symm
  | cons item rest induction =>
      obtain ⟨first, others⟩ := List.forall_mem_cons.mp each
      exact roomy_or first (induction others)

theorem roomy_fields {fields : List (String × Json)}
    (each : ∀ field ∈ fields, Roomy room field.2.levels (overrun? room field.2)) :
    Roomy room (levelsOfFields fields) (overrunOfFields? room fields) := by
  induction fields with
  | nil => exact (if_pos (Nat.zero_le room)).symm
  | cons field rest induction =>
      obtain ⟨first, others⟩ := List.forall_mem_cons.mp each
      exact roomy_or first (induction others)

/-- What stands in an array or an object has one level less. -/
theorem Roomy.succ {levels : Nat} {stopped : Option Overrun} (roomy : Roomy room levels stopped) :
    Roomy (room + 1) (levels + 1) stopped := by
  unfold Roomy at roomy ⊢
  rw [roomy]
  simp only [Nat.add_le_add_iff_right]

theorem roomy_of_shaped {value : Json} (shaped : value.Shaped digitLimit) (room : Nat) :
    Roomy room value.levels (overrun? room value) := by
  induction shaped generalizing room with
  | array _ induction =>
      cases room with
      | zero => rfl
      | succ room => exact (roomy_items fun item member => induction item member room).succ
  | object _ _ induction =>
      cases room with
      | zero => rfl
      | succ room => exact (roomy_fields fun field member => induction field member room).succ
  | @integer value short =>
      have fits : isConvertible value = true := decide_eq_true short
      cases room with
      | zero => rfl
      | succ room => exact if_pos fits
  | null => cases room <;> rfl
  | bool value => cases room <;> rfl
  | string value => cases room <;> rfl

theorem print_of_shaped {value : Json} (shaped : value.Shaped digitLimit) (room : Nat) :
    value.print room =
      if value.levels ≤ room then .ok value.toIndented else .error .depth := by
  rw [print, roomy_of_shaped shaped room]
  by_cases fits : value.levels ≤ room
  · simp [fits]
  · simp [fits]

end GraphConsole.Json
