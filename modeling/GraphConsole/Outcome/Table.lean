import GraphConsole.Outcome.Heading
import GraphConsole.Text.Blank
import GraphConsole.Text.CellWidth
import GraphConsole.Text.Fraction
import GraphConsole.Text.Lines
import GraphConsole.Text.Wrap

/-! Tables drawn with box characters. Columns are as wide as their widest line; only where wide
characters make a table wider than the room that its character count asks for do columns shrink. -/

namespace GraphConsole.Table

open GraphConsole.Text

def pageWidth : Nat := 160

/-- Bell, backspace, vertical tab, form feed and carriage return never reach a page. -/
def isDropped (c : Char) : Bool :=
  let n := c.toNat
  n == 7 || n == 8 || (11 ≤ n && n ≤ 13)

def onPage (s : List Char) : List Char :=
  s.filter fun c => !isDropped c

def naturalCells (s : List Char) : Nat :=
  ((lines s).map cells).foldl max 0

/-- A column has a name, which is counted, and a heading, which shows. One that has no name of its
own breaks its lines; all others abridge them. -/
structure Column where
  name : List Char
  heading : List Char
  cells : List (List Char)
  wraps : Bool

namespace Column

def width (column : Column) : Nat :=
  ((column.heading :: column.cells).map fun s => naturalCells (onPage s)).foldl max 0 + 2

def length (column : Column) : Nat :=
  ((column.name :: column.cells).map List.length).foldl max 0

end Column

structure Span where
  width : Nat
  wraps : Bool
deriving DecidableEq, Repr

def total : List Span → Nat
  | [] => 0
  | span :: rest => span.width + total rest

/-- Takes `excess` from the columns in turn, each an even share of what is left to take, but no
more than `limit` allows; columns that may not give anything do not count. -/
def reduce (limit : Span → Nat) (excess : Nat) : List Span → List Span
  | [] => []
  | span :: rest =>
      if limit span = 0 then span :: reduce limit excess rest
      else
        let givers := rest.countP fun other => limit other != 0
        let share := min (limit span) (roundedQuotient excess (givers + 1))
        ⟨span.width - share, span.wraps⟩ :: reduce limit (excess - share) rest

def widest (spans : List Span) : Nat :=
  ((spans.filter Span.wraps).map Span.width).foldl max 0

/-- One step towards a page of `room` cells: the widest columns that break their lines come down to
the next narrower ones. -/
def lower (room : Nat) (spans : List Span) : List Span :=
  let top := widest spans
  let next := widest (spans.filter fun span => span.width != top)
  let excess := total spans - room
  reduce (fun span => if span.wraps && span.width = top then min excess (top - next) else 0)
    excess spans

def collapse (room : Nat) (spans : List Span) : List Span :=
  if total spans ≤ room then spans
  else
    let lowered := lower room spans
    if total lowered < total spans then collapse room lowered else spans
termination_by total spans

/-- The widths of the columns on a page of `page` cells. No column is wider than the page without
the borders; columns that break their lines give way first, and then all do. -/
def fitWidths (page : Nat) (columns : List Column) : List Span :=
  let room := page - (columns.length + 1)
  let spans := columns.map fun column => ⟨min room column.width, column.wraps⟩
  let spans := collapse room spans
  reduce Span.width (total spans - room) spans

def cellLines (wraps : Bool) (room : Nat) (s : List Char) : List (List Char) :=
  if room = 0 then []
  else (splitAt '\n' (onPage s)).flatMap fun line =>
    let line := expandTabs 0 line
    (if wraps then wrap room .whole line else [abridge room line]).map (fitCells room)

def padded (line : List Char) : List (List Char) :=
  [[' '], line, [' ']]

def emptyLine (width : Nat) : List (List Char) :=
  [List.replicate width ' ']

def fillBelow (height width : Nat) (drawn : List (List (List Char))) : List (List (List Char)) :=
  drawn ++ List.replicate (height - drawn.length) (emptyLine width)

def fillAbove (height width : Nat) (drawn : List (List (List Char))) : List (List (List Char)) :=
  List.replicate (height - drawn.length) (emptyLine width) ++ drawn

/-- The pieces of a line as far as the page is wide; the last one may be cut. -/
def onPageWide : (page : Nat) → List (List Char) → List Char
  | _, [] => []
  | page, piece :: rest =>
      if cells piece < page then piece ++ onPageWide (page - cells piece) rest
      else fitCells page piece

def rowLine (page : Nat) (border : Char) (row : List (List (List (List Char)))) (index : Nat) :
    List Char :=
  onPageWide page ([border] :: row.flatMap fun drawn => drawn.getD index [] ++ [[border]])

/-- One row of a table; `fill` brings all cells to the height of the tallest. -/
def drawRow (page : Nat) (border : Char)
    (fill : Nat → Nat → List (List (List Char)) → List (List (List Char)))
    (spans : List Span) (row : List (List Char)) : List (List Char) :=
  let drawn := (spans.zip row).map fun (span, s) =>
    (span.width, (cellLines span.wraps (span.width - 2) s).map padded)
  let height := max 1 ((drawn.map fun (_, drawn) => drawn.length).foldl max 0)
  let filled := drawn.map fun (width, drawn) => fill height width drawn
  (List.range height).map (rowLine page border filled)

def rule (page : Nat) (left bar middle right : Char) (spans : List Span) : List Char :=
  onPageWide page
    [left :: join [middle] (spans.map fun span => List.replicate span.width bar) ++ [right]]

/-- Right-strips the lines of a drawing, whatever ends them, and drops empty ones at both ends. -/
def tidy (drawing : List (List Char)) : List Char :=
  let page := join ['\n'] ((lines (join ['\n'] drawing)).map dropTrailingBlanks)
  dropTrailing (· == '\n') (page.dropWhile (· == '\n'))

/-- The width of a page that holds all columns with a heading, if width is counted in
characters. -/
def pageOf (columns : List Column) : Nat :=
  (columns.filter fun column => !column.wraps).foldl
    (fun page column => page + column.length + 3) 1

/-- The width of the page that a table is drawn on. -/
def pageFor (columns : List Column) : Nat :=
  max pageWidth (pageOf columns)

def draw (columns : List Column) (rows : List (List (List Char))) : List Char :=
  if columns.isEmpty then []
  else
    let page := pageFor columns
    let spans := fitWidths page columns
    tidy <|
      [rule page '┏' '━' '┳' '┓' spans]
        ++ drawRow page '┃' fillAbove spans (columns.map Column.heading)
        ++ [rule page '┡' '━' '╇' '┩' spans]
        ++ rows.flatMap (drawRow page '│' fillBelow spans)
        ++ [rule page '└' '─' '┴' '┘' spans]

def fillUp (count : Nat) (texts : List String) : List (List Char) :=
  texts.map String.toList ++ List.replicate (count - texts.length) []

def columnsOf (names headings : List String) (rows : List (List (List Char))) (count : Nat) :
    List Column :=
  (fillUp count names).zipIdx.map fun (name, index) =>
    ⟨name, (headings.getD index "").toList, rows.map fun row => row.getD index [],
      names.length ≤ index⟩

def columnCount (names : List String) (rows : List (List String)) : Nat :=
  rows.foldl (fun count row => max count row.length) names.length

/-- The columns of a table. Cells beyond the headings stand in columns without one, and cells that
a row lacks are empty. -/
def columnsFor (names headings : List String) (rows : List (List String)) : List Column :=
  let count := columnCount names rows
  columnsOf names headings (rows.map (fillUp count)) count

/-- The table that is drawn under some headings where columns have other names. -/
def renderAs (names headings : List String) (rows : List (List String)) : String :=
  String.ofList
    (draw (columnsFor names headings rows) (rows.map (fillUp (columnCount names rows))))

/-- The table under headings that show as they are. -/
def render (headings : List String) (rows : List (List String)) : String :=
  renderAs headings headings rows

def render? (headings : List String) (rows : List (List String)) : Option String :=
  if rows.any fun row => row.length < headings.length then none else some (render headings rows)

/-- The styles that the headings of a table are drawn with, the columns one after the other. -/
def marksFor (names : List String) (headings : List Heading) (rows : List (List String)) :
    List Heading.Mark :=
  let columns := columnsFor names (headings.map Heading.text) rows
  let spans := fitWidths (pageFor columns) columns
  (headings.zip spans).flatMap fun (heading, span) => heading.marksWithin (span.width - 2)

def flaw? (library : Heading.Library) (names : List String) (headings : List Heading)
    (rows : List (List String)) : Option Incident :=
  (marksFor names headings rows).findSome? fun mark => library.styleFlaw? mark.style

/-- The table of columns with some names, all of which are read as markup before it is drawn. Rows
that are too short are found first. -/
def print (library : Heading.Library) (names : List String) (rows : List (List String)) :
    Except Incident String :=
  if rows.any fun row => row.length < names.length then
    .error ⟨"IndexError", [.string "list index out of range"], []⟩
  else
    match names.mapM (Heading.read library) with
    | .error incident => .error incident
    | .ok headings =>
        match flaw? library names headings rows with
        | some flaw => .error flaw
        | none => .ok (renderAs names (headings.map Heading.text) rows)

theorem reduce_zero (limit : Span → Nat) (spans : List Span) : reduce limit 0 spans = spans := by
  induction spans with
  | nil => rfl
  | cons span rest induction =>
      unfold reduce
      split <;> simp [roundedQuotient, induction]

theorem collapse_of_le {room : Nat} {spans : List Span} (h : total spans ≤ room) :
    collapse room spans = spans := by
  rw [collapse, if_pos h]

end GraphConsole.Table
