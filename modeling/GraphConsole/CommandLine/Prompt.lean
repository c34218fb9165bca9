import GraphConsole.Text.Blank
import GraphConsole.Text.Lines

/-! Questions on standard error, answered by lines on standard input. -/

namespace GraphConsole.CommandLine

open GraphConsole.Text

/-- The lines that can be read one by one; a line feed at the end opens no further line. -/
def inputLines (input : List Char) : List (List Char) :=
  match (splitAt '\n' input).reverse with
  | [] :: before => before.reverse
  | all => all.reverse

def dropLines : Nat → List Char → List Char
  | 0, input => input
  | count + 1, input => dropLines count ((input.dropWhile (· != '\n')).drop 1)

/-- What a question came to: the answer, unless the input ended, all that was written, and how many
lines were read. -/
structure Asked (α : Type) where
  answer : Option α
  written : List Char
  read : Nat
deriving DecidableEq, Repr

def keyQuestion : List Char :=
  "Paste your API key: \n".toList

/-- Asks until a line is not empty; the line is not echoed. -/
def askKey : List (List Char) → Asked (List Char)
  | [] => ⟨none, keyQuestion, 0⟩
  | line :: rest =>
      if line.isEmpty then
        let asked := askKey rest
        ⟨asked.answer, keyQuestion ++ asked.written, asked.read + 1⟩
      else ⟨some line, keyQuestion, 1⟩

/-- Yes or no in any case, with blanks around it; an empty line is a no. -/
def decisive? (line : List Char) : Option Bool :=
  let word := String.ofList (trim (line.map Char.toLower))
  if word = "y" || word = "yes" then some true
  else if word = "n" || word = "no" || word = "" then some false
  else none

def confirmQuestion : List Char :=
  "Would you like to continue? [y/N]: ".toList

def invalidAnswer : List Char :=
  "Error: invalid input\n".toList

def askConfirmation : List (List Char) → Asked Bool
  | [] => ⟨none, confirmQuestion, 0⟩
  | line :: rest =>
      let echoed := confirmQuestion ++ line ++ ['\n']
      match decisive? line with
      | some answer => ⟨some answer, echoed, 1⟩
      | none =>
          let asked := askConfirmation rest
          ⟨asked.answer, echoed ++ invalidAnswer ++ asked.written, asked.read + 1⟩

end GraphConsole.CommandLine
