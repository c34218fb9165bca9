import GraphConsole.Proofs.CommandLine.Steps
import GraphConsole.Proofs.Text.Cuts

/-! The question for a key: what is written and read does not depend on the line that answers it. -/

namespace GraphConsole.CommandLine

open GraphConsole.Service
open GraphConsole.Text

theorem inputLines_line {line : List Char} (whole : '\n' ∉ line) (rest : List Char) :
    inputLines (line ++ '\n' :: rest) = line :: inputLines rest := by
  rw [inputLines, inputLines, splitAt_mark whole, List.reverse_cons]
  cases backward : (splitAt '\n' rest).reverse with
  | nil => exact absurd (List.reverse_eq_nil_iff.mp backward) (splitAt_ne_nil '\n' rest)
  | cons last before =>
      cases last with
      | nil => simp
      | cons c others => simp

theorem inputLines_whole {line : List Char} (whole : '\n' ∉ line) (inhabited : line ≠ []) :
    inputLines line = [line] := by
  rw [inputLines, splitAt_whole whole]
  cases line with
  | nil => exact absurd rfl inhabited
  | cons c others => rfl

theorem dropWhile_line {line : List Char} (whole : '\n' ∉ line) (rest : List Char) :
    (line ++ rest).dropWhile (· != '\n') = rest.dropWhile (· != '\n') := by
  apply List.dropWhile_append_of_pos
  intro c member
  have other : c ≠ '\n' := by
    rintro rfl
    exact whole member
  simpa using other

/-- What may follow a line: nothing, or a line feed and more. -/
def EndsLine (rest : List Char) : Prop :=
  rest = [] ∨ ∃ more, rest = '\n' :: more

theorem dropLines_line {line rest : List Char} (whole : '\n' ∉ line) (ended : EndsLine rest)
    (count : Nat) : dropLines (count + 1) (line ++ rest) = dropLines count (rest.drop 1) := by
  rw [dropLines, dropWhile_line whole]
  rcases ended with rfl | ⟨more, rfl⟩
  · rfl
  · rfl

theorem askKey_line {line rest : List Char} (whole : '\n' ∉ line) (inhabited : line ≠ [])
    (ended : EndsLine rest) :
    askKey (inputLines (line ++ rest)) = ⟨some line, keyQuestion, 1⟩ := by
  have nonempty : line.isEmpty = false := by simpa using inhabited
  rcases ended with rfl | ⟨more, rfl⟩
  · rw [List.append_nil, inputLines_whole whole inhabited, askKey, if_neg (by simp [nonempty])]
  · rw [inputLines_line whole, askKey, if_neg (by simp [nonempty])]

/-- Behind empty lines, the first other one is the answer. -/
theorem askKey_behind (emptyLines : Nat) {line rest : List Char} (whole : '\n' ∉ line)
    (inhabited : line ≠ []) (ended : EndsLine rest) :
    askKey (inputLines (List.replicate emptyLines '\n' ++ (line ++ rest))) =
        ⟨some line, (List.replicate (emptyLines + 1) keyQuestion).flatten, emptyLines + 1⟩ ∧
      dropLines (emptyLines + 1) (List.replicate emptyLines '\n' ++ (line ++ rest)) =
        rest.drop 1 := by
  induction emptyLines with
  | zero =>
      refine ⟨?_, dropLines_line whole ended 0⟩
      rw [List.replicate_zero, List.nil_append, askKey_line whole inhabited ended]
      simp
  | succ count induction =>
      have lines := inputLines_line List.not_mem_nil
        (List.replicate count '\n' ++ (line ++ rest))
      obtain ⟨asked, left⟩ := induction
      rw [List.replicate_succ, List.cons_append]
      refine ⟨?_, left⟩
      rw [List.nil_append] at lines
      rw [lines, askKey, if_pos List.isEmpty_nil, asked]
      rfl

/-- Which key is typed shows in the answer alone. -/
theorem runIn_askKey (emptyLines : Nat) {rest : List Char} (ended : EndsLine rest)
    (world : World) : ∃ written, ∀ key : List Char, '\n' ∉ key → key ≠ [] →
      runIn (Step.ask askKey)
          { world with input := List.replicate emptyLines '\n' ++ (key ++ rest) } =
        (.ok (some key), wrote { errors := written } { world with input := rest.drop 1 }) := by
  refine ⟨(List.replicate (emptyLines + 1) keyQuestion).flatten, fun key whole inhabited => ?_⟩
  obtain ⟨asked, left⟩ := askKey_behind emptyLines whole inhabited ended
  have run (input : List Char) : runIn (Step.ask askKey) { world with input := input } =
      (.ok (askKey (inputLines input)).answer,
        wrote { errors := (askKey (inputLines input)).written }
          { world with input := dropLines (askKey (inputLines input)).read input }) := rfl
  rw [run, asked, left]

end GraphConsole.CommandLine
