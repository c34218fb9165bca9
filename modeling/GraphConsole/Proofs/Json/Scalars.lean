import GraphConsole.Json.Printer
import GraphConsole.Json.Reader
import Mathlib.Tactic.SplitIfs

/-! Printed strings and numbers read back, whatever text follows them. -/

namespace GraphConsole.Json

open GraphConsole.Text

/-! Strings. -/

theorem hexValue_hexDigit (n : Nat) (small : n < 16) : hexValue? (hexDigit n) = some n := by
  revert n
  decide

theorem toNat_valid (c : Char) :
    c.toNat < 0xD800 ∨ 0xDFFF < c.toNat ∧ c.toNat < 0x110000 :=
  c.valid

theorem readUnit_hexDigits (n : Nat) (small : n < 0x10000) (rest : List Char) :
    readUnit (hexDigits 4 n ++ rest) = some (n, rest) := by
  have digit : ∀ m, hexValue? (hexDigit (m % 16)) = some (m % 16) := fun m =>
    hexValue_hexDigit (m % 16) (Nat.mod_lt m (by omega))
  simp only [hexDigits, List.nil_append, List.cons_append, readUnit, digit]
  have value : ((n / 16 / 16 / 16 % 16 * 16 + n / 16 / 16 % 16) * 16 + n / 16 % 16) * 16 + n % 16
      = n := by omega
  simp [value]

theorem readEscapedUnit_of_char (c : Char) (single : c.toNat < 0x10000) (rest : List Char) :
    readEscapedUnit (hexDigits 4 c.toNat ++ rest) = some (c, rest) := by
  have noHalf : isHighHalf c.toNat = false ∧ isLowHalf c.toNat = false := by
    simp only [isHighHalf, isLowHalf, Bool.and_eq_false_iff, decide_eq_false_iff_not]
    have valid := toNat_valid c
    omega
  rw [readEscapedUnit, readUnit_hexDigits c.toNat single]
  simp [noHalf]

theorem readLowHalf_escapeUnit (low : Nat) (isLow : isLowHalf low = true) (rest : List Char) :
    readLowHalf (escapeUnit low ++ rest) = some (low, rest) := by
  have small : low < 0x10000 := by
    simp only [isLowHalf, Bool.and_eq_true, decide_eq_true_eq] at isLow
    omega
  simp [escapeUnit, readLowHalf, readUnit_hexDigits low small, isLow]

theorem readEscapedUnit_of_pair (c : Char) (double : 0x10000 ≤ c.toNat) (rest : List Char) :
    readEscapedUnit (hexDigits 4 (0xD800 + (c.toNat - 0x10000) / 1024)
        ++ (escapeUnit (0xDC00 + (c.toNat - 0x10000) % 1024) ++ rest)) = some (c, rest) := by
  have valid := toNat_valid c
  have high : isHighHalf (0xD800 + (c.toNat - 0x10000) / 1024) = true := by
    simp only [isHighHalf, Bool.and_eq_true, decide_eq_true_eq]
    omega
  have low : isLowHalf (0xDC00 + (c.toNat - 0x10000) % 1024) = true := by
    simp only [isLowHalf, Bool.and_eq_true, decide_eq_true_eq]
    omega
  have number : 0x10000 + (0xD800 + (c.toNat - 0x10000) / 1024 - 0xD800) * 1024
      + (0xDC00 + (c.toNat - 0x10000) % 1024 - 0xDC00) = c.toNat := by
    omega
  rw [readEscapedUnit, readUnit_hexDigits _ (by omega)]
  simp only [high, if_true, readLowHalf_escapeUnit _ low, number, Char.ofNat_toNat]

theorem readString_plain (fuel : Nat) {c : Char} (noQuote : c ≠ '"') (noEscape : c ≠ '\\')
    (printing : 0x20 ≤ c.toNat) (rest : List Char) :
    readString (fuel + 1) (c :: rest) =
      (readString fuel rest).map fun (text, rest) => (c :: text, rest) := by
  rw [readString]
  · exact if_neg (by omega)
  · exact noQuote
  · exact noEscape

theorem readString_escape (fuel : Nat) {c : Char} {text rest : List Char}
    (read : readEscape text = some (c, rest)) :
    readString (fuel + 1) ('\\' :: text) =
      (readString fuel rest).map fun (text, rest) => (c :: text, rest) := by
  rw [readString, read]

theorem escapeUnit_append (n : Nat) (rest : List Char) :
    escapeUnit n ++ rest = '\\' :: 'u' :: (hexDigits 4 n ++ rest) := rfl

theorem readEscape_unit (s : List Char) : readEscape ('u' :: s) = readEscapedUnit s := rfl

/-- A character is read from its own escape in one step. -/
theorem readString_escapeChar (fuel : Nat) (c : Char) (rest : List Char) :
    readString (fuel + 1) (escapeChar c ++ rest) =
      (readString fuel rest).map fun (text, rest) => (c :: text, rest) := by
  unfold escapeChar
  split_ifs with quote backslash lineFeed carriageReturn tab formFeed backspace printing single
  · subst quote; exact readString_escape fuel rfl
  · subst backslash; exact readString_escape fuel rfl
  · subst lineFeed; exact readString_escape fuel rfl
  · subst carriageReturn; exact readString_escape fuel rfl
  · subst tab; exact readString_escape fuel rfl
  · subst formFeed; exact readString_escape fuel rfl
  · subst backspace; exact readString_escape fuel rfl
  · simp only [Bool.and_eq_true, decide_eq_true_eq] at printing
    exact readString_plain fuel quote backslash printing.1 rest
  · rw [escapeUnit_append]
    apply readString_escape fuel
    rw [readEscape_unit, readEscapedUnit_of_char c single]
  · rw [List.append_assoc, escapeUnit_append]
    apply readString_escape fuel
    rw [readEscape_unit, readEscapedUnit_of_pair c (by omega)]

theorem escapeChar_ne_nil (c : Char) : escapeChar c ≠ [] := by
  unfold escapeChar
  split_ifs <;> simp [escapeUnit]

theorem readString_escaped (s rest : List Char) (fuel : Nat)
    (enough : (s.flatMap escapeChar).length < fuel) :
    readString fuel (s.flatMap escapeChar ++ '"' :: rest) = some (s, rest) := by
  induction s generalizing fuel with
  | nil =>
      cases fuel with
      | zero => simp at enough
      | succ fuel => rfl
  | cons c s induction =>
      rw [List.flatMap_cons, List.length_append] at enough
      have spelled := List.length_pos_iff.mpr (escapeChar_ne_nil c)
      cases fuel with
      | zero => simp at enough
      | succ fuel =>
          rw [List.flatMap_cons, List.append_assoc, readString_escapeChar,
            induction fuel (by omega)]
          rfl

theorem readText_printString (s : String) (rest : List Char) :
    readText (s.toList.flatMap escapeChar ++ '"' :: rest) = .ok (s, rest) := by
  rw [readText, readString_escaped s.toList rest _ (by simp only [List.length_append]; omega)]
  simp

/-! Numbers. -/

/-- Whether a number ends where this text begins. -/
def endsNumber : List Char → Bool
  | [] => true
  | c :: _ => !(isDigit c || c == '.' || c == 'e' || c == 'E')

/-- A number other than zero is not written with a leading zero. -/
theorem natDigits_ne_cons_zero (n : Nat) (positive : 0 < n) (rest : List Char) :
    natDigits n ≠ '0' :: rest := by
  induction n using Nat.strongRecOn generalizing rest with
  | _ n induction =>
      unfold natDigits
      split
      · next small =>
          intro same
          have value := digitValue_digitChar n small
          rw [(List.cons.inj same).1] at value
          simp only [digitValue] at value
          exact absurd value (by have : '0'.toNat = 48 := rfl; omega)
      · next large =>
          intro same
          obtain ⟨c, more, digits⟩ := List.exists_cons_of_ne_nil (natDigits_ne_nil (n / 10))
          rw [digits, List.cons_append] at same
          rw [(List.cons.inj same).1] at digits
          exact induction (n / 10) (by omega) (by omega) more digits

theorem takeWhile_natDigits (n : Nat) {rest : List Char} (ends : endsNumber rest = true) :
    (natDigits n ++ rest).takeWhile isDigit = natDigits n := by
  rw [List.takeWhile_append_of_pos fun c member => isDigit_of_mem_natDigits n member]
  cases rest with
  | nil => simp
  | cons c rest =>
      simp only [endsNumber, Bool.not_eq_true', Bool.or_eq_false_iff] at ends
      simp [ends]

theorem dropWhile_natDigits (n : Nat) {rest : List Char} (ends : endsNumber rest = true) :
    (natDigits n ++ rest).dropWhile isDigit = rest := by
  rw [List.dropWhile_append_of_pos fun c member => isDigit_of_mem_natDigits n member]
  cases rest with
  | nil => rfl
  | cons c rest =>
      simp only [endsNumber, Bool.not_eq_true', Bool.or_eq_false_iff] at ends
      simp [ends]

theorem readWhole_natDigits (n : Nat) {rest : List Char} (ends : endsNumber rest = true) :
    readWhole (natDigits n ++ rest) = some (natDigits n, rest) := by
  by_cases zero : n = 0
  · subst zero
    have digits : natDigits 0 = ['0'] := by
      unfold natDigits
      rfl
    rw [digits]
    rfl
  · rw [readWhole]
    · rw [takeWhile_natDigits n ends, dropWhile_natDigits n ends]
      split
      · next empty => exact absurd empty (natDigits_ne_nil n)
      · rfl
    · intro more same
      obtain ⟨c, others, digits⟩ := List.exists_cons_of_ne_nil (natDigits_ne_nil n)
      rw [digits, List.cons_append] at same
      rw [(List.cons.inj same).1] at digits
      exact natDigits_ne_cons_zero n (by omega) others digits

theorem readUnsigned_natDigits (limits : Limits) (negative : Bool) (n : Nat) {rest : List Char}
    (short : (natDigits n).length ≤ limits.digits) (ends : endsNumber rest = true) :
    readUnsigned limits negative (natDigits n ++ rest) =
      .ok (.integer (if negative then -(n : Int) else n), rest) := by
  have noFraction : readFraction rest = ([], rest) := by
    cases rest with
    | nil => rfl
    | cons c rest =>
        simp only [endsNumber, Bool.not_eq_true', Bool.or_eq_false_iff, beq_eq_false_iff_ne] at ends
        rw [readFraction]
        exact fun _ same => ends.1.1.2 (List.cons.inj same).1
  have noExponent : readExponent rest = ([], rest) := by
    cases rest with
    | nil => rfl
    | cons c rest =>
        simp only [endsNumber, Bool.not_eq_true', Bool.or_eq_false_iff, beq_eq_false_iff_ne] at ends
        simp [readExponent, ends]
  rw [readUnsigned, readWhole_natDigits n ends]
  simp only [noFraction, noExponent, ofDigits_natDigits]
  simp [Nat.not_lt.mpr short]

/-- The first character of a written number tells it from all other values. -/
def startsNumber (c : Char) : Bool :=
  c == '-' || isDigit c

theorem ne_of_startsNumber {c mark : Char} (starts : startsNumber c = true)
    (noStart : startsNumber mark = false) : c ≠ mark := by
  rintro rfl
  rw [starts] at noStart
  cases noStart

theorem intDigits_eq_cons (value : Int) :
    ∃ c more, intDigits value = c :: more ∧ startsNumber c = true := by
  cases value with
  | ofNat n =>
      obtain ⟨c, more, digits⟩ := List.exists_cons_of_ne_nil (natDigits_ne_nil n)
      have digit := isDigit_of_mem_natDigits n (c := c) (by simp [digits])
      exact ⟨c, more, digits, by simp [startsNumber, digit]⟩
  | negSucc n => exact ⟨'-', natDigits (n + 1), rfl, rfl⟩

theorem readNumber_intDigits (limits : Limits) (value : Int) {rest : List Char}
    (short : (natDigits value.natAbs).length ≤ limits.digits) (ends : endsNumber rest = true) :
    readNumber limits (intDigits value ++ rest) = .ok (.integer value, rest) := by
  cases value with
  | ofNat n =>
      have read := readUnsigned_natDigits limits false n short ends
      obtain ⟨c, more, digits⟩ := List.exists_cons_of_ne_nil (natDigits_ne_nil n)
      have digit := isDigit_of_mem_natDigits n (c := c) (by simp [digits])
      have noSign : c ≠ '-' := by
        rintro rfl
        exact absurd digit (by decide)
      rw [digits, List.cons_append] at read
      rw [intDigits, digits, List.cons_append, readNumber]
      · exact read
      · exact fun _ same => absurd (List.cons.inj same).1 noSign
      · exact fun _ same => absurd (List.cons.inj same).1 noSign
  | negSucc n =>
      have read := readUnsigned_natDigits limits true (n + 1) short ends
      obtain ⟨c, more, digits⟩ := List.exists_cons_of_ne_nil (natDigits_ne_nil (n + 1))
      have digit := isDigit_of_mem_natDigits (n + 1) (c := c) (by simp [digits])
      have noInfinity : c ≠ 'I' := by
        rintro rfl
        exact absurd digit (by decide)
      rw [intDigits, List.cons_append, readNumber]
      · exact read
      · intro rest same
        rw [digits, List.cons_append] at same
        exact absurd (List.cons.inj same).1 noInfinity

theorem readValue_intDigits (limits : Limits) (fuel room : Nat) (value : Int) {rest : List Char}
    (short : (natDigits value.natAbs).length ≤ limits.digits) (ends : endsNumber rest = true) :
    readValue limits (fuel + 1) room (intDigits value ++ rest) = .ok (.integer value, rest) := by
  rw [← readNumber_intDigits limits value short ends]
  obtain ⟨c, more, digits, starts⟩ := intDigits_eq_cons value
  rw [digits, List.cons_append]
  rw [readValue]
  -- No other form of value begins with such a character.
  all_goals
    intros
    exact absurd (List.cons.inj (by assumption)).1 (ne_of_startsNumber starts (by decide))

end GraphConsole.Json
