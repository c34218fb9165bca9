import GraphConsole.Text.Lines
import GraphConsole.Text.Quoted

/-! How much two words resemble each other, the words that resemble one most, and how they are
suggested. -/

namespace GraphConsole.CommandLine

def commonStart : List Char → List Char → Nat
  | a :: s, b :: t => if a = b then commonStart s t + 1 else 0
  | _, _ => 0

/-- The longest run that two words share, the earliest in the first word and then in the second:
where it starts in each, and its length. -/
def longestRun (s t : List Char) : Nat × Nat × Nat :=
  (List.range s.length).foldl (fun best i =>
    (List.range t.length).foldl (fun best j =>
      let length := commonStart (s.drop i) (t.drop j)
      if best.2.2 < length then (i, j, length) else best) best) (0, 0, 0)

def sharedChars : (fuel : Nat) → List Char → List Char → Nat
  | 0, _, _ => 0
  | fuel + 1, s, t =>
      let (i, j, length) := longestRun s t
      if length = 0 then 0
      else length + sharedChars fuel (s.take i) (t.take j)
        + sharedChars fuel (s.drop (i + length)) (t.drop (j + length))

def resemblance (s t : String) : Nat × Nat :=
  (2 * sharedChars (s.length + 1) s.toList t.toList, s.length + t.length)

def precedes (a b : (Nat × Nat) × String) : Bool :=
  let left := a.1.1 * b.1.2
  let right := b.1.1 * a.1.2
  right < left || (left == right && decide (b.2 ≤ a.2))

/-- At most three words that resemble the given one by three fifths or more, in increasing
order. -/
def resembling (word : String) (words : List String) : List String :=
  let scored := words.map fun candidate => (resemblance candidate word, candidate)
  let close := scored.filter fun (score, _) => 3 * score.2 ≤ 5 * score.1
  let best := (close.mergeSort precedes).take 3
  (best.map Prod.snd).mergeSort fun a b => decide (a ≤ b)

def withSuggestions (complaint : String) : List String → String
  | [] => complaint
  | [one] => complaint ++ " Did you mean " ++ Text.quoted one ++ "?"
  | several => complaint ++ " (Did you mean one of: "
      ++ Text.joined ", " (several.map Text.quoted) ++ "?)"

end GraphConsole.CommandLine
