/-! Texts as sequences of lines, under three different ideas of where a line ends. -/

namespace GraphConsole.Text

/-- Every character that ends a line: line feed, vertical tab, form feed, carriage return, the
file, group and record separators, next line, line separator and paragraph separator. -/
def isLineEnd (c : Char) : Bool :=
  let n := c.toNat
  (10 ≤ n && n ≤ 13) || (28 ≤ n && n ≤ 30) || n == 0x85 || n == 0x2028 || n == 0x2029

/-- The lines of a text without their ends; carriage return and line feed together end one line,
and an end at the very end opens no further line. -/
def lines : List Char → List (List Char)
  | [] => []
  | '\r' :: '\n' :: rest => [] :: lines rest
  | c :: rest =>
      if isLineEnd c then [] :: lines rest
      else match lines rest with
        | [] => [[c]]
        | first :: more => (c :: first) :: more

/-- The pieces between the occurrences of `mark`: one more than there are occurrences. -/
def splitAt (mark : Char) : List Char → List (List Char)
  | [] => [[]]
  | c :: rest =>
      if c = mark then [] :: splitAt mark rest
      else match splitAt mark rest with
        | [] => [[c]]
        | first :: more => (c :: first) :: more

def cutAt (mark : Char) : List Char → Option (List Char × List Char)
  | [] => none
  | c :: rest =>
      if c = mark then some ([], rest)
      else (cutAt mark rest).map fun (before, after) => (c :: before, after)

/-- Carriage return and line feed, and a carriage return alone, become a line feed. -/
def unifyNewlines : List Char → List Char
  | [] => []
  | '\r' :: '\n' :: rest => '\n' :: unifyNewlines rest
  | '\r' :: rest => '\n' :: unifyNewlines rest
  | c :: rest => c :: unifyNewlines rest

def join (mark : List Char) : List (List Char) → List Char
  | [] => []
  | [piece] => piece
  | piece :: rest => piece ++ mark ++ join mark rest

def joined (mark : String) (pieces : List String) : String :=
  String.ofList (join mark.toList (pieces.map String.toList))

@[simp] theorem lines_nil : lines [] = [] := rfl

@[simp] theorem join_nil (mark : List Char) : join mark [] = [] := rfl

@[simp] theorem join_singleton (mark piece : List Char) : join mark [piece] = piece := rfl

theorem splitAt_ne_nil (mark : Char) (s : List Char) : splitAt mark s ≠ [] := by
  induction s with
  | nil => simp [splitAt]
  | cons c rest induction =>
      unfold splitAt
      split
      · simp
      · split <;> simp

/-- What holds no mark goes with the first piece behind it. -/
theorem splitAt_append {mark : Char} {early : List Char} (whole : mark ∉ early)
    {late first : List Char} {more : List (List Char)}
    (split : splitAt mark late = first :: more) :
    splitAt mark (early ++ late) = (early ++ first) :: more := by
  induction early with
  | nil => exact split
  | cons c rest induction =>
      rw [List.mem_cons, not_or] at whole
      rw [List.cons_append, splitAt, if_neg (Ne.symm whole.1), induction whole.2]
      rfl

theorem join_append_cons (mark early piece : List Char) (more : List (List Char)) :
    join mark ((early ++ piece) :: more) = early ++ join mark (piece :: more) := by
  cases more with
  | nil => rfl
  | cons second others => simp [join]

end GraphConsole.Text
