/-! Whole numbers in decimal digits. -/

namespace GraphConsole.Text

def digitChar (n : Nat) : Char :=
  Char.ofNat (48 + n)

def isDigit (c : Char) : Bool :=
  48 ≤ c.toNat && c.toNat ≤ 57

def digitValue (c : Char) : Nat :=
  c.toNat - 48

def natDigits (n : Nat) : List Char :=
  if n < 10 then [digitChar n] else natDigits (n / 10) ++ [digitChar (n % 10)]

def intDigits : Int → List Char
  | .ofNat n => natDigits n
  | .negSucc n => '-' :: natDigits (n + 1)

/-- Numbers that a machine word of 64 bits holds, one of them for the sign. -/
def fitsWord (n : Int) : Bool :=
  -9223372036854775808 ≤ n && n < 9223372036854775808

/-- How many digits a number may have that is turned into text, or read from it. -/
def digitLimit : Nat := 4300

def isConvertible (n : Int) : Bool :=
  (natDigits n.natAbs).length ≤ digitLimit

def ofDigits (s : List Char) : Nat :=
  s.foldl (fun n c => 10 * n + digitValue c) 0

def paddedDigits (width n : Nat) : List Char :=
  let digits := natDigits n
  List.replicate (width - digits.length) '0' ++ digits

def natText (n : Nat) : String :=
  String.ofList (natDigits n)

def intText (n : Int) : String :=
  String.ofList (intDigits n)

theorem digitValue_digitChar (n : Nat) (h : n < 10) : digitValue (digitChar n) = n := by
  revert n
  decide

theorem isDigit_digitChar (n : Nat) (small : n < 10) : isDigit (digitChar n) = true := by
  revert n
  decide

theorem natDigits_ne_nil (n : Nat) : natDigits n ≠ [] := by
  unfold natDigits
  split <;> simp

theorem isDigit_of_mem_natDigits (n : Nat) {c : Char} (member : c ∈ natDigits n) :
    isDigit c = true := by
  induction n using Nat.strongRecOn with
  | _ n induction =>
      unfold natDigits at member
      split at member
      · next small =>
          rw [List.mem_singleton] at member
          rw [member]
          exact isDigit_digitChar n small
      · next large =>
          rcases List.mem_append.mp member with early | last
          · exact induction (n / 10) (by omega) early
          · rw [List.mem_singleton] at last
            rw [last]
            exact isDigit_digitChar _ (by omega)

theorem length_natDigits_le_iff (n : Nat) {count : Nat} (positive : 0 < count) :
    (natDigits n).length ≤ count ↔ n < Nat.pow 10 count := by
  induction n using Nat.strongRecOn generalizing count with
  | _ n induction =>
      unfold natDigits
      split
      · next small =>
          have power : 10 ≤ Nat.pow 10 count := Nat.le_pow positive
          simp only [List.length_singleton]
          omega
      · next large =>
          rw [List.length_append, List.length_singleton]
          match count with
          | 1 =>
              have digits : 0 < (natDigits (n / 10)).length :=
                List.length_pos_iff.mpr (natDigits_ne_nil _)
              have power : Nat.pow 10 1 = 10 := rfl
              omega
          | count + 2 =>
              have front := induction (n / 10) (by omega) (Nat.succ_pos count)
              have power : Nat.pow 10 (count + 2) = Nat.pow 10 (count + 1) * 10 := rfl
              rw [Nat.add_le_add_iff_right, front, power]
              exact Nat.div_lt_iff_lt_mul (by decide)

theorem isConvertible_iff (n : Int) :
    isConvertible n = true ↔ n.natAbs < Nat.pow 10 digitLimit := by
  rw [isConvertible, decide_eq_true_eq, length_natDigits_le_iff _ (by decide)]

theorem ofDigits_append_singleton (s : List Char) (c : Char) :
    ofDigits (s ++ [c]) = 10 * ofDigits s + digitValue c := by
  simp [ofDigits]

theorem ofDigits_natDigits (n : Nat) : ofDigits (natDigits n) = n := by
  induction n using Nat.strongRecOn with
  | _ n induction =>
      unfold natDigits
      split
      · next small => simp [ofDigits, digitValue_digitChar n small]
      · next large =>
          rw [ofDigits_append_singleton, induction (n / 10) (by omega),
            digitValue_digitChar _ (by omega)]
          omega

end GraphConsole.Text
