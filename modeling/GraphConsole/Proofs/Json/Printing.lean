import GraphConsole.Json.Printer

/-! The characters of printed JSON: line feeds and the printing characters of ASCII. -/

namespace GraphConsole.Json

open GraphConsole.Text

/-- No number in the value has a fraction or an exponent. -/
inductive Whole : Json → Prop
  | null : Whole .null
  | bool (value : Bool) : Whole (.bool value)
  | integer (value : Int) : Whole (.integer value)
  | string (value : String) : Whole (.string value)
  | array {items : List Json} (whole : ∀ item ∈ items, Whole item) : Whole (.array items)
  | object {fields : List (String × Json)} (whole : ∀ field ∈ fields, Whole field.2) :
      Whole (.object fields)

attribute [simp] Whole.null Whole.bool Whole.integer Whole.string

@[simp] theorem whole_array (items : List Json) :
    Whole (.array items) ↔ ∀ item ∈ items, Whole item := by
  constructor
  · intro whole
    cases whole with
    | array whole => exact whole
  · exact .array

@[simp] theorem whole_object (fields : List (String × Json)) :
    Whole (.object fields) ↔ ∀ field ∈ fields, Whole field.2 := by
  constructor
  · intro whole
    cases whole with
    | object whole => exact whole
  · exact .object

@[simp] theorem whole_optionalString (value : Option String) : Whole (optionalString value) := by
  cases value with
  | none => exact .null
  | some value => exact .string value

theorem whole_ofOption {render : α → Json} (whole : ∀ value, Whole (render value))
    (value : Option α) : Whole (ofOption render value) := by
  cases value with
  | none => exact .null
  | some value => exact whole value

def isTextChar (c : Char) : Bool :=
  c == '\n' || (0x20 ≤ c.toNat && c.toNat ≤ 0x7E)

theorem all_natDigits (n : Nat) : (natDigits n).all isTextChar = true := by
  rw [List.all_eq_true]
  intro c member
  have digit := isDigit_of_mem_natDigits n member
  simp only [isDigit, isTextChar, Bool.and_eq_true, Bool.or_eq_true, decide_eq_true_eq] at digit ⊢
  omega

theorem all_intDigits (value : Int) : (intDigits value).all isTextChar = true := by
  cases value with
  | ofNat n => exact all_natDigits n
  | negSucc n =>
      rw [intDigits, List.all_cons, all_natDigits]
      decide

theorem all_hexDigits (width n : Nat) : (hexDigits width n).all isTextChar = true := by
  have digit : ∀ value < 16, isTextChar (hexDigit value) = true := by decide
  induction width generalizing n with
  | zero => rfl
  | succ width induction =>
      rw [hexDigits, List.all_append, induction, List.all_cons, digit _ (Nat.mod_lt _ (by omega))]
      rfl

theorem all_escapeUnit (n : Nat) : (escapeUnit n).all isTextChar = true := by
  rw [escapeUnit, List.all_append, all_hexDigits]
  decide

theorem all_escapeChar (c : Char) : (escapeChar c).all isTextChar = true := by
  unfold escapeChar
  repeat' split
  all_goals first
    | decide
    | exact all_escapeUnit _
    | skip
  · next printing => simp [isTextChar, printing]
  · simp [all_escapeUnit]

theorem all_printString (s : String) : (printString s).all isTextChar = true := by
  have escaped : (s.toList.flatMap escapeChar).all isTextChar = true := by
    rw [List.all_eq_true]
    intro c member
    obtain ⟨origin, _, spelled⟩ := List.mem_flatMap.mp member
    exact List.all_eq_true.mp (all_escapeChar origin) c spelled
  rw [printString, List.cons_append, List.all_cons, List.all_append, escaped]
  decide

theorem all_newLine (depth : Nat) : (newLine depth).all isTextChar = true := by
  simp [newLine, isTextChar]

theorem all_printIndentedItems (depth : Nat) (items : List Json)
    (printed : ∀ item ∈ items, (printIndented depth item).all isTextChar = true) :
    (printIndentedItems depth items).all isTextChar = true := by
  induction items with
  | nil => rfl
  | cons item rest induction =>
      have first := printed item (by simp)
      have others := induction fun other member => printed other (by simp [member])
      cases rest with
      | nil => simp [printIndentedItems, all_newLine, first]
      | cons second rest =>
          rw [printIndentedItems]
          · simp only [List.all_append, all_newLine, first, others]
            decide
          · exact nofun

theorem all_printIndentedFields (depth : Nat) (fields : List (String × Json))
    (printed : ∀ field ∈ fields, (printIndented depth field.2).all isTextChar = true) :
    (printIndentedFields depth fields).all isTextChar = true := by
  induction fields with
  | nil => rfl
  | cons field rest induction =>
      have first := printed field (by simp)
      have others := induction fun other member => printed other (by simp [member])
      cases rest with
      | nil =>
          simp only [printIndentedFields, List.all_append, all_newLine, all_printString, first]
          decide
      | cons second rest =>
          rw [printIndentedFields]
          · simp only [List.all_append, all_newLine, all_printString, first, others]
            decide
          · exact nofun

theorem all_printIndented {value : Json} (whole : value.Whole) (depth : Nat) :
    (printIndented depth value).all isTextChar = true := by
  induction whole generalizing depth with
  | null => rfl
  | bool value =>
      cases value with
      | false => rfl
      | true => rfl
  | integer value => exact all_intDigits value
  | string value => exact all_printString value
  | @array items _ induction =>
      have printed := all_printIndentedItems (depth + 1) items fun item member =>
        induction item member (depth + 1)
      cases items with
      | nil => rfl
      | cons item rest =>
          rw [printIndented]
          · simp only [List.all_append, List.all_cons, printed, all_newLine]
            decide
          · exact nofun
  | @object fields _ induction =>
      have printed := all_printIndentedFields (depth + 1) fields fun field member =>
        induction field member (depth + 1)
      cases fields with
      | nil => rfl
      | cons field rest =>
          rw [printIndented]
          · simp only [List.all_append, List.all_cons, printed, all_newLine]
            decide
          · exact nofun

end GraphConsole.Json
