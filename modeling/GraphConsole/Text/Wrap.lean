import GraphConsole.Text.Blank
import GraphConsole.Text.CellWidth

/-! Breaking a text into lines of bounded width, at blanks where it can. -/

namespace GraphConsole.Text

theorem length_dropWhile_le (p : Char → Bool) (s : List Char) :
    (s.dropWhile p).length ≤ s.length := by
  induction s with
  | nil => simp
  | cons c rest induction =>
      rw [List.dropWhile_cons]
      split
      · simp; omega
      · simp

/-- The words of a text, each with the blanks behind it, the first also with those before it. -/
def words (s : List Char) : List (List Char) :=
  match _start : s.dropWhile isBlank with
  | [] => []
  | c :: rest =>
      let behind := rest.dropWhile (!isBlank ·)
      (s.takeWhile isBlank ++ c :: rest.takeWhile (!isBlank ·) ++ behind.takeWhile isBlank)
        :: words (behind.dropWhile isBlank)
termination_by s.length
decreasing_by
  have outer := length_dropWhile_le isBlank (rest.dropWhile (!isBlank ·))
  have inner := length_dropWhile_le (!isBlank ·) rest
  have whole := length_dropWhile_le isBlank s
  rw [_start] at whole
  simp at whole
  omega

/-- Cuts clusters into pieces of at most `width` cells; `piece` has been gathered so far. -/
def chop (width : Nat) (piece : List Char) (size : Nat) : List Cluster → List (List Char)
  | [] => if size = 0 then [] else [piece]
  | cluster :: rest =>
      if width < size + cluster.width then piece :: chop width cluster.text cluster.width rest
      else chop width (piece ++ cluster.text) (size + cluster.width) rest

inductive LongWord
  | cut
  | whole
deriving DecidableEq, Repr

/-- Lines under construction: those finished, latest first, and the open one with its width. -/
structure Wrapping where
  finished : List (List Char)
  line : List Char
  size : Nat

namespace Wrapping

def empty : Wrapping := ⟨[], [], 0⟩

def startLine (w : Wrapping) (text : List Char) : Wrapping :=
  if w.finished.isEmpty && w.line.isEmpty then ⟨[], text, cells text⟩
  else ⟨w.line :: w.finished, text, cells text⟩

/-- Puts a word on the open line if it fits there without its trailing blanks, else on a line of
its own; a word wider than any line is cut into pieces or left whole. -/
def place (width : Nat) (long : LongWord) (w : Wrapping) (word : List Char) : Wrapping :=
  let size := cells (dropTrailingBlanks word)
  if w.size + size ≤ width then ⟨w.finished, w.line ++ word, w.size + cells word⟩
  else if width < size then match long with
    | .cut => (chop width [] 0 (clusters word)).foldl Wrapping.startLine w
    | .whole => w.startLine word
  else w.startLine word

def toLines (w : Wrapping) : List (List Char) :=
  (w.line :: w.finished).reverse

end Wrapping

def dropBlanksBeyond (count : Nat) (s : List Char) : List Char :=
  s.take (max count (dropTrailingBlanks s).length)

/-- A line as it fits into `width` cells; where long words are left whole, an ellipsis tells that
something is missing. -/
def LongWord.bound (width : Nat) (long : LongWord) (line : List Char) : List Char :=
  match long with
  | .cut => if cells line ≤ width then line else fitCells width line
  | .whole => abridge width line

def broken (width : Nat) (long : LongWord) (s : List Char) : List (List Char) :=
  match words s with
  | [] => [s]
  | list => (list.foldl (Wrapping.place width long) .empty).toLines

def wrap (width : Nat) (long : LongWord) (s : List Char) : List (List Char) :=
  (broken width long s).map fun line => long.bound width (dropBlanksBeyond width line)

theorem wrap_ne_nil (width : Nat) (long : LongWord) (s : List Char) : wrap width long s ≠ [] := by
  rw [wrap, ne_eq, List.map_eq_nil_iff, broken]
  split
  · exact List.cons_ne_nil s []
  · simp [Wrapping.toLines]

end GraphConsole.Text
