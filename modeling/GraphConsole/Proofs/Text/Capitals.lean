import GraphConsole.Proofs.Sequence
import GraphConsole.Proofs.Text.Cuts
import GraphConsole.Text.Capital

/-! Capitals of digits and of the letter E. Only these characters and the small letter have nothing
else for capitals, so that a text of them is known from its capitals but for the letter's case. -/

namespace GraphConsole.Text

/-- Only from the small ASCII letters on do characters have capitals other than themselves. These
come behind E, those of the small ASCII letters apart. -/
theorem capitalRuns_bounds : ∀ run ∈ capitalRuns, 0x61 ≤ run.1 ∧ (run = (0x61, 0x7A, 1, 0x41) ∨
    0x45 < run.2.2.2 ∧ (run.2.2.2 + (run.2.1 - run.1) < 0xD800 ∨
      0xDFFF < run.2.2.2 ∧ run.2.2.2 + (run.2.1 - run.1) < 0x110000)) := by
  decide +kernel

theorem capitalSequences_bounds : ∀ entry ∈ capitalSequences, 0x61 ≤ entry.1 ∧
    ∃ n ∈ entry.2, 0x45 < (Char.ofNat n).toNat := by
  decide +kernel

theorem capital_of_small {c : Char} (small : c.toNat < 0x61) : capital c = [c] := by
  unfold capital
  dsimp only
  split
  · next first last step image found =>
      have within := List.find?_some found
      simp only [Bool.and_eq_true, decide_eq_true_eq] at within
      have bound := (capitalRuns_bounds _ (List.mem_of_find?_eq_some found)).1
      dsimp only at bound
      omega
  · split
    · next sequence found =>
        have bound := (capitalSequences_bounds _ (Sequence.mem_of_lookup found)).1
        dsimp only at bound
        omega
    · rfl

/-- What has no capital behind E is its own capital, or a small ASCII letter. -/
theorem capital_low {c : Char} (low : ∀ d ∈ capital c, d.toNat ≤ 0x45) :
    capital c = [c] ∨ 0x61 ≤ c.toNat ∧ c.toNat ≤ 0x65 ∧
      capital c = [Char.ofNat (c.toNat - 0x20)] := by
  unfold capital at low ⊢
  dsimp only at low ⊢
  split at low
  · next first last step image found =>
      have within := List.find?_some found
      simp only [Bool.and_eq_true, decide_eq_true_eq] at within
      rw [List.forall_mem_singleton] at low
      rcases (capitalRuns_bounds _ (List.mem_of_find?_eq_some found)).2 with ascii | ⟨high, valid⟩
      · cases ascii
        rw [toNat_ofNat (.inl (by omega))] at low
        exact .inr ⟨by omega, by omega, congrArg (fun n => [Char.ofNat n]) (by omega)⟩
      · dsimp only at high valid
        have scalar : (image + (c.toNat - first)).isValidChar := by
          rcases valid with below | ⟨above, below⟩
          · exact .inl (by omega)
          · exact .inr ⟨by omega, by omega⟩
        rw [toNat_ofNat scalar] at low
        omega
  · split at low
    · next sequence found =>
        obtain ⟨n, member, high⟩ := (capitalSequences_bounds _ (Sequence.mem_of_lookup found)).2
        exact absurd (low _ (List.mem_map.mpr ⟨n, member, rfl⟩)) (Nat.not_le.mpr high)
    · exact .inl rfl

/-- A character whose capitals are digits and the letter E is one of these, or the small letter. -/
theorem capital_plain {c : Char} (plain : ∀ d ∈ capital c, isDigit d = true ∨ d = 'E') :
    ∃ d, capital c = [d] ∧ (c = d ∨ c = 'e' ∧ d = 'E') := by
  have low : ∀ d ∈ capital c, d.toNat ≤ 0x45 := by
    intro d member
    rcases plain d member with digit | rfl
    · simp only [isDigit, Bool.and_eq_true, decide_eq_true_eq] at digit
      omega
    · decide
  have others : ∀ n < 0x66, 0x61 ≤ n →
      isDigit (Char.ofNat (n - 0x20)) = true ∨ Char.ofNat (n - 0x20) = 'E' → n = 0x65 := by
    decide
  rcases capital_low low with itself | ⟨least, most, small⟩
  · exact ⟨c, itself, .inl rfl⟩
  · have number : c.toNat = 0x65 :=
      others c.toNat (by omega) least (plain _ (by rw [small]; exact List.mem_singleton_self _))
    have letter : c = 'e' := by
      rw [← Char.ofNat_toNat c, number]
    subst letter
    exact ⟨'E', rfl, .inr ⟨rfl, rfl⟩⟩

theorem capital_of_isDigit {c : Char} (digit : isDigit c = true) : capital c = [c] := by
  simp only [isDigit, Bool.and_eq_true, decide_eq_true_eq] at digit
  exact capital_of_small (by omega)

theorem capitals_eq_digits_iff {s digits : List Char} (digital : ∀ c ∈ digits, isDigit c = true) :
    capitals s = digits ↔ s = digits := by
  constructor
  · rintro rfl
    induction s with
    | nil => rfl
    | cons c rest induction =>
        rw [capitals_cons, List.forall_mem_append] at digital
        obtain ⟨d, single, same⟩ := capital_plain fun d member => .inl (digital.1 d member)
        rw [capitals_cons, single, ← induction digital.2]
        rcases same with rfl | ⟨_, rfl⟩
        · rfl
        · have digit := digital.1 'E' (by rw [single]; exact List.mem_singleton_self _)
          exact absurd digit (by decide)
  · rintro rfl
    induction s with
    | nil => rfl
    | cons c rest induction =>
        rw [List.forall_mem_cons] at digital
        rw [capitals_cons, capital_of_isDigit digital.1, induction digital.2]
        rfl

/-- A text has the letter and some digits for its capitals if it is made of them itself, or with the
small letter. -/
theorem capitals_eq_letter_digits_iff {s digits : List Char}
    (digital : ∀ c ∈ digits, isDigit c = true) :
    capitals s = 'E' :: digits ↔
      ∃ letter, (letter = 'E' ∨ letter = 'e') ∧ s = letter :: digits := by
  constructor
  · intro same
    cases s with
    | nil => cases same
    | cons c rest =>
        rw [capitals_cons] at same
        have plain : ∀ d ∈ capital c, isDigit d = true ∨ d = 'E' := by
          intro d member
          have among : d ∈ 'E' :: digits := same ▸ List.mem_append_left _ member
          exact (List.mem_cons.mp among).symm.imp_left (digital d)
        obtain ⟨d, single, origin⟩ := capital_plain plain
        rw [single, List.singleton_append] at same
        obtain ⟨rfl, later⟩ := List.cons.inj same
        rw [capitals_eq_digits_iff digital] at later
        exact ⟨c, origin.imp_right And.left, by rw [later]⟩
  · rintro ⟨letter, cased, rfl⟩
    have capital : capital letter = ['E'] := by
      rcases cased with rfl | rfl
      · exact capital_of_small (by decide)
      · rfl
    rw [capitals_cons, capital, (capitals_eq_digits_iff digital).mpr rfl]
    rfl

end GraphConsole.Text
