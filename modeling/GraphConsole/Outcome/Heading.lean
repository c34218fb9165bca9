import GraphConsole.Failure.Incident
import GraphConsole.Text.Blank
import GraphConsole.Text.CellWidth
import GraphConsole.Text.Decimal

/-! Headings of tables. The library that draws reads them as console markup: tags in brackets, and
names of symbols between colons. -/

namespace GraphConsole

/-- A style that a heading is drawn with from some place on. -/
structure Heading.Mark where
  place : Nat
  style : List Char
deriving DecidableEq, Repr

/-- A heading as it has been read. -/
structure Heading where
  text : String
  marks : List Heading.Mark
deriving DecidableEq, Repr

namespace Heading

open GraphConsole.Text

/-- What the library knows: a symbol by its name, a style by one spelling of its name, and what is
wrong with the parameters of a handler and with a style that is drawn. A style that it does not know
is not wrong; some are known and cannot be made out. -/
structure Library where
  symbol? : List Char → Option (List Char)
  style : List Char → Except Incident (List Char)
  handlerFlaw? : List Char → Option Incident
  styleFlaw? : List Char → Option Incident

structure Tag where
  name : List Char
  parameters : Option (List Char) := none
deriving DecidableEq, Repr

namespace Tag

/-- A name, and parameters behind the first equals sign. -/
def ofText (s : List Char) : Tag :=
  match s.dropWhile (· != '=') with
  | _ :: parameters => ⟨s.takeWhile (· != '='), some parameters⟩
  | [] => ⟨s, none⟩

def toText (tag : Tag) : List Char :=
  '[' :: tag.name ++ (match tag.parameters with
    | some parameters => '=' :: parameters
    | none => []) ++ [']']

/-- The style that a tag asks for. -/
def style (tag : Tag) : List Char :=
  tag.name ++ match tag.parameters with
    | some parameters => ' ' :: parameters
    | none => []

end Tag

def startsTag (c : Char) : Bool :=
  ('a' ≤ c && c ≤ 'z') || c == '#' || c == '/' || c == '@'

/-- The text of the tag that an opening bracket in front begins. -/
def tagText? : List Char → Option (List Char)
  | c :: rest =>
      let inside := fun c => c != '[' && c != ']'
      match rest.dropWhile inside with
      | ']' :: _ => if startsTag c then some (c :: rest.takeWhile inside) else none
      | _ => none
  | [] => none

inductive Piece
  | literal (s : List Char)
  | tag (place : Nat) (tag : Tag)
deriving DecidableEq, Repr

def literals (s : List Char) : List Piece :=
  if s.isEmpty then [] else [.literal s]

/-- The pieces of a text, of which `before` and so many backslashes have been seen and the next
`skipped` characters belong to a tag. Two backslashes in front of a tag stand for one, and a single
one makes the tag literal. -/
def pieces (place : Nat) (before : List Char) (slashes skipped : Nat) : List Char → List Piece
  | [] => literals (before ++ List.replicate slashes '\\')
  | c :: rest =>
      if skipped ≠ 0 then pieces (place + 1) before slashes (skipped - 1) rest
      else if c = '\\' then pieces (place + 1) before (slashes + 1) 0 rest
      else
        match if c = '[' then tagText? rest else none with
        | some inner =>
            let tag := if slashes % 2 = 1 then .literal ('[' :: inner ++ [']'])
              else .tag place (.ofText inner)
            literals before ++ literals (List.replicate (slashes / 2) '\\')
              ++ tag :: pieces (place + 1) [] 0 (inner.length + 1) rest
        | none => pieces (place + 1) (before ++ List.replicate slashes '\\' ++ [c]) 0 0 rest

/-- A backslash in front of any other bracket does not show. -/
def unescape : List Char → List Char
  | '\\' :: '[' :: rest => '[' :: unescape rest
  | c :: rest => c :: unescape rest
  | [] => []

/-- The symbol of a name, which may ask for one of two ways to show it. -/
def symbol (library : Library) (name : List Char) : List Char :=
  let (base, variant) :=
    if "-emoji".toList.isSuffixOf name then (name.take (name.length - 6), ['\uFE0F'])
    else if "-text".toList.isSuffixOf name then (name.take (name.length - 5), ['\uFE0E'])
    else (name, [])
  match library.symbol? base with
  | some symbol => symbol ++ variant
  | none => ':' :: name ++ [':']

/-- The text with symbols for their names; so many characters belong to a name. -/
def withSymbols (library : Library) (skipped : Nat) : List Char → List Char
  | [] => []
  | c :: rest =>
      if skipped ≠ 0 then withSymbols library (skipped - 1) rest
      else
        let inside := fun c => c != ':' && !isBlank c
        match if c = ':' then rest.dropWhile inside else [] with
        | ':' :: _ =>
            let name := rest.takeWhile inside
            symbol library name ++ withSymbols library (name.length + 1) rest
        | _ => c :: withSymbols library 0 rest

/-- What has been read of a heading: its text, the tags that are open with their places in it, and
the styles of those that have been closed, the last one first. -/
structure Reading where
  text : List Char := []
  opened : List (Nat × Tag) := []
  marks : List Mark := []

def broken (complaint : String) : Incident :=
  ⟨"MarkupError", [.string complaint], []⟩

/-- A handler is left if nothing is wrong with its parameters, and any other tag becomes a style. -/
def leave (library : Library) (reading : Reading) (place : Nat) (tag : Tag)
    (opened : List (Nat × Tag)) : Except Incident Reading :=
  match tag.name, tag.parameters with
  | '@' :: _, some (c :: parameters) =>
      match library.handlerFlaw? (c :: parameters) with
      | some flaw => .error flaw
      | none => .ok { reading with opened := opened }
  | '@' :: _, _ => .ok { reading with opened := opened }
  | _, _ => .ok { reading with opened := opened, marks := ⟨place, tag.style⟩ :: reading.marks }

/-- A closing tag with a name closes the last one of that name, and one without the last of all. -/
def close (library : Library) (reading : Reading) (place : Nat) (tag : Tag) (name : List Char) :
    Except Incident Reading :=
  if name.isEmpty then
    match reading.opened with
    | [] => .error (broken ("closing tag '[/]' at position " ++ natText place
        ++ " has nothing to close"))
    | (start, last) :: others => leave library reading start last others
  else
    match library.style name with
    | .error incident => .error incident
    | .ok name =>
        let named := fun other : Nat × Tag => other.2.name == name
        match reading.opened.find? named with
        | none => .error (broken ("closing tag '" ++ String.ofList tag.toText ++ "' at position "
            ++ natText place ++ " doesn't match any open tag"))
        | some (start, last) => leave library reading start last (reading.opened.eraseP named)

def step (library : Library) (reading : Reading) : Piece → Except Incident Reading
  | .literal s =>
      .ok { reading with text := reading.text ++ withSymbols library 0 (unescape s) }
  | .tag place tag =>
      match tag.name with
      | '/' :: name => close library reading place tag (trim name)
      | name => (library.style name).map fun name =>
          { reading with opened := (reading.text.length, { tag with name := name })
              :: reading.opened }

/-- Tags that have been left open hold on to the end. The styles are drawn in the order of their
places, and of those with one place the later come first. -/
def Reading.finish (reading : Reading) : Heading :=
  let left := reading.opened.reverse.map fun (place, tag) => (⟨place, tag.style⟩ : Mark)
  ⟨String.ofList reading.text, (left ++ reading.marks).mergeSort fun first second =>
    first.place ≤ second.place⟩

def read (library : Library) (name : String) : Except Incident Heading :=
  ((pieces 0 [] 0 0 name.toList).foldlM (step library) {}).map Reading.finish

/-- The styles of a heading without line ends that are drawn where it has some room. Those of places
that have been cut off go with the text. -/
def marksWithin (room : Nat) (heading : Heading) : List Mark :=
  let shown := abridge room heading.text.toList
  if room = 0 then []
  else if shown.length < heading.text.length then
    heading.marks.filter fun mark => mark.place < shown.length
  else heading.marks

theorem marksWithin_subset (room : Nat) (heading : Heading) :
    heading.marksWithin room ⊆ heading.marks := by
  rw [marksWithin]
  split
  · exact List.nil_subset _
  · split
    · exact List.filter_sublist.subset
    · exact List.Subset.refl _

/-! A text without opening brackets and colons shows as it is. -/

variable {s : List Char}

theorem pieces_of_notMem (literal : '[' ∉ s) (place : Nat) (before : List Char) (slashes : Nat) :
    pieces place before slashes 0 s =
      literals (before ++ List.replicate slashes '\\' ++ s) := by
  induction s generalizing place before slashes with
  | nil => rw [pieces, List.append_nil]
  | cons c rest induction =>
      rw [List.mem_cons, not_or] at literal
      rw [pieces, if_neg (Decidable.not_not.mpr rfl)]
      split
      · next slash =>
          rw [induction literal.2, slash, List.replicate_succ']
          simp
      · rw [if_neg (Ne.symm literal.1)]
        dsimp only
        rw [induction literal.2]
        simp

theorem unescape_of_notMem (literal : '[' ∉ s) : unescape s = s := by
  induction s with
  | nil => rfl
  | cons c rest induction =>
      rw [List.mem_cons, not_or] at literal
      rw [unescape]
      · rw [induction literal.2]
      · rintro bracket _ same
        exact literal.2 (by simp [same])

theorem withSymbols_of_notMem (library : Library) (nameless : ':' ∉ s) :
    withSymbols library 0 s = s := by
  induction s with
  | nil => rfl
  | cons c rest induction =>
      rw [List.mem_cons, not_or] at nameless
      rw [withSymbols, if_neg (Decidable.not_not.mpr rfl)]
      dsimp only
      rw [if_neg (Ne.symm nameless.1), induction nameless.2]

theorem read_of_notMem (library : Library) {name : String} (literal : '[' ∉ name.toList)
    (nameless : ':' ∉ name.toList) : read library name = .ok ⟨name, []⟩ := by
  have finished : (⟨name.toList, [], []⟩ : Reading).finish = ⟨name, []⟩ := by
    simp [Reading.finish, String.ofList_toList]
  rw [read, pieces_of_notMem literal, List.replicate_zero, List.append_nil, List.nil_append,
    literals]
  split
  · next empty =>
      rw [List.isEmpty_iff.mp empty] at finished
      exact congrArg Except.ok finished
  · rw [List.foldlM_cons, step, unescape_of_notMem literal, withSymbols_of_notMem library nameless,
      List.nil_append]
    exact congrArg Except.ok finished

end Heading

end GraphConsole
