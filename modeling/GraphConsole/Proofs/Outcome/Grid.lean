import GraphConsole.Proofs.Outcome.Drawing
import Mathlib.Algebra.GroupWithZero.Nat
import Mathlib.Data.List.Forall2

/-! Tables as grids. Where the page has room for them, every text is whole in its column. -/

namespace GraphConsole.Table

open GraphConsole.Text

/-! Rooms of columns. -/

namespace Column

/-- The cells that the widest text of a column takes. -/
def room (column : Column) : Nat :=
  ((column.heading :: column.cells).map Text.cells).foldl max 0

theorem width_inked {column : Column} (inked : column.Inked) : column.width = column.room + 2 := by
  have natural : ∀ s ∈ column.heading :: column.cells, naturalCells (onPage s) = Text.cells s :=
    fun s member => by rw [onPage_inked (inked s member), naturalCells_inked (inked s member)]
  rw [width, room, List.map_congr_left natural]

theorem cells_le_room {column : Column} {s : List Char}
    (member : s ∈ column.heading :: column.cells) : Text.cells s ≤ column.room :=
  le_foldl_max _ (List.mem_map_of_mem member)

end Column

def rooms (columns : List Column) : List Nat :=
  columns.map Column.room

def spanFor (room : Nat) : Span :=
  ⟨room + 2, false⟩

/-- The cells that columns of some rooms take, with a blank on either side of each and a border
in front and behind each. -/
def gridWidth (rooms : List Nat) : Nat :=
  1 + (rooms.map (· + 3)).sum

section Widths

variable {columns : List Column}

theorem total_spanFor (rooms : List Nat) :
    total (rooms.map spanFor) + (rooms.length + 1) = gridWidth rooms := by
  rw [gridWidth]
  induction rooms with
  | nil => rfl
  | cons room rest induction =>
      simp only [List.map_cons, total, spanFor, List.length_cons, List.sum_cons] at induction ⊢
      omega

theorem width_le_total {span : Span} {spans : List Span} (member : span ∈ spans) :
    span.width ≤ total spans := by
  induction spans with
  | nil => cases member
  | cons first rest induction =>
      rw [total]
      obtain rfl | later := List.mem_cons.mp member
      · exact Nat.le_add_right _ _
      · exact (induction later).trans (Nat.le_add_left _ _)

/-- On a page that is wide enough, no column is narrower than its widest text. -/
theorem fitWidths_of_fits (unwrapped : ∀ column ∈ columns, column.wraps = false)
    (inked : ∀ column ∈ columns, column.Inked) {page : Nat}
    (fits : gridWidth (rooms columns) ≤ page) :
    fitWidths page columns = (rooms columns).map spanFor := by
  have total_le : total ((rooms columns).map spanFor) ≤ page - (columns.length + 1) := by
    have whole := total_spanFor (rooms columns)
    have same : (rooms columns).length = columns.length := List.length_map _
    omega
  have spans : (columns.map fun column =>
      (⟨min (page - (columns.length + 1)) column.width, column.wraps⟩ : Span)) =
      (rooms columns).map spanFor := by
    rw [rooms, List.map_map]
    refine List.map_congr_left fun column member => ?_
    have width := Column.width_inked (inked column member)
    have fitting : column.room + 2 ≤ page - (columns.length + 1) :=
      (width_le_total (List.mem_map_of_mem (List.mem_map_of_mem member))).trans total_le
    rw [width, unwrapped column member, Nat.min_eq_right fitting]
    rfl
  simp only [fitWidths, spans]
  rw [collapse_of_le total_le, Nat.sub_eq_zero_of_le total_le, reduce_zero]

end Widths

/-! Grids. -/

/-- A text as it stands between two borders. -/
def framed (room : Nat) (s : List Char) : List Char :=
  ' ' :: (s ++ List.replicate (room - cells s) ' ' ++ [' '])

def entryLine (border : Char) (rooms : List Nat) (row : List (List Char)) : List Char :=
  border :: (rooms.zip row).flatMap fun (room, s) => framed room s ++ [border]

def ruleLine (left bar middle right : Char) (rooms : List Nat) : List Char :=
  left :: (join [middle] (rooms.map fun room => List.replicate (room + 2) bar) ++ [right])

/-- The lines of a table in which every text has the room that it needs. -/
def grid (rooms : List Nat) (headings : List (List Char)) (rows : List (List (List Char))) :
    List (List Char) :=
  [ruleLine '┏' '━' '┳' '┓' rooms, entryLine '┃' rooms headings, ruleLine '┡' '━' '╇' '┩' rooms]
    ++ rows.map (entryLine '│' rooms) ++ [ruleLine '└' '─' '┴' '┘' rooms]

/-- Texts that fit into the rooms they are given. -/
def Fitting : List Nat → List (List Char) → Prop :=
  List.Forall₂ fun room s => Inked s ∧ cells s ≤ room

theorem cells_framed {room : Nat} {s : List Char} (fits : cells s ≤ room) :
    cells (framed room s) = room + 2 := by
  rw [framed, cells_cons, cells_append, cells_append, cells_replicate, cells_cons, cells_nil,
    cellWidth_blank]
  omega

theorem flatten_cellPieces {room : Nat} {s : List Char} (inked : Inked s) (fits : cells s ≤ room) :
    (cellPieces (spanFor room) s).flatten = framed room s := by
  by_cases empty : room = 0
  · subst empty
    rw [inked.eq_nil_of_cells (Nat.le_zero.mp fits)]
    rfl
  · have some_room : (spanFor room).width - 2 ≠ 0 := empty
    rw [cellPieces, if_neg some_room]
    change (padded (fitCells room (abridge room s))).flatten = _
    rw [abridge_of_le fits, fitCells_of_le empty fits]
    simp [padded, framed]

theorem cellPieces_filled {room : Nat} {s : List Char} (fits : cells s ≤ room) :
    ∀ piece ∈ cellPieces (spanFor room) s, 0 < cells piece := by
  intro piece member
  by_cases empty : room = 0
  · subst empty
    rw [List.mem_singleton.mp member, cells_replicate, cellWidth_blank]
    decide
  · have some_room : (spanFor room).width - 2 ≠ 0 := empty
    rw [cellPieces, if_neg some_room] at member
    change piece ∈ padded (fitCells room (abridge room s)) at member
    rw [abridge_of_le fits, fitCells_of_le empty fits] at member
    simp only [padded, List.mem_cons, List.not_mem_nil, or_false] at member
    obtain rfl | rfl | rfl := member
    · decide
    · rw [cells_append, cells_replicate, cellWidth_blank]
      omega
    · decide

section Fitting

variable {rooms : List Nat} {row : List (List Char)} {border : Char}

theorem flatten_rowPieces (fitting : Fitting rooms row) (border : Char) :
    (rowPieces border (rooms.map spanFor) row).flatten = entryLine border rooms row := by
  rw [rowPieces, entryLine, List.flatten_cons, List.singleton_append]
  congr 1
  induction fitting with
  | nil => rfl
  | cons fits _ induction =>
      simp only [List.map_cons, List.zip_cons_cons, List.flatMap_cons, List.flatten_append,
        induction, flatten_cellPieces fits.1 fits.2]
      simp

theorem rowPieces_filled (fitting : Fitting rooms row) (box : border ∈ boxChars) :
    ∀ piece ∈ rowPieces border (rooms.map spanFor) row, 0 < cells piece := by
  have edge : 0 < cells [border] := by simp [(shown_boxChars border box).1]
  rw [rowPieces, List.forall_mem_cons]
  refine ⟨edge, ?_⟩
  induction fitting with
  | nil => exact List.forall_mem_nil _
  | cons fits _ induction =>
      intro piece member
      rw [List.map_cons, List.zip_cons_cons, List.flatMap_cons, List.mem_append, List.mem_append,
        List.mem_singleton] at member
      obtain (drawn | rfl) | later := member
      · exact cellPieces_filled fits.2 piece drawn
      · exact edge
      · exact induction piece later

theorem cells_entryLine (fitting : Fitting rooms row) (box : border ∈ boxChars) :
    cells (entryLine border rooms row) = gridWidth rooms := by
  have edge := (shown_boxChars border box).1
  rw [entryLine, cells_cons, edge, gridWidth]
  congr 1
  induction fitting with
  | nil => rfl
  | cons fits _ induction =>
      rw [List.zip_cons_cons, List.flatMap_cons, cells_append, cells_append, cells_framed fits.2,
        cells_cons, edge, cells_nil, induction, List.map_cons, List.sum_cons]

end Fitting

theorem cells_join_bars {middle bar : Char} (middleWidth : cellWidth middle = 1)
    (barWidth : cellWidth bar = 1) {rooms : List Nat} (some_rooms : rooms ≠ []) :
    cells (join [middle] (rooms.map fun room => List.replicate (room + 2) bar)) + 1 =
      (rooms.map (· + 3)).sum := by
  induction rooms with
  | nil => exact absurd rfl some_rooms
  | cons room rest induction =>
      cases rest with
      | nil => simp [cells_replicate, barWidth]
      | cons second more =>
          have later := induction (List.cons_ne_nil second more)
          simp only [List.map_cons, join, cells_append, cells_replicate, cells_cons, cells_nil,
            List.sum_cons, middleWidth, barWidth] at later ⊢
          omega

section Rules

variable {rooms : List Nat} (some_rooms : rooms ≠ []) {left bar middle right : Char}
variable (boxes : [left, bar, middle, right] ⊆ boxChars)
include some_rooms boxes

theorem cells_ruleLine : cells (ruleLine left bar middle right rooms) = gridWidth rooms := by
  have bars := cells_join_bars (shown_boxChars middle (boxes (by simp))).1
    (shown_boxChars bar (boxes (by simp))).1 some_rooms
  have leftWidth := (shown_boxChars left (boxes (by simp))).1
  have rightWidth := (shown_boxChars right (boxes (by simp))).1
  rw [ruleLine, cells_cons, cells_append, cells_cons, cells_nil, gridWidth, ← bars, leftWidth,
    rightWidth]

theorem rule_of_fits {page : Nat} (fits : gridWidth rooms ≤ page) :
    rule page left bar middle right (rooms.map spanFor) = ruleLine left bar middle right rooms := by
  have width := cells_ruleLine some_rooms boxes
  have drawn : [left :: join [middle] ((rooms.map spanFor).map fun span =>
      List.replicate span.width bar) ++ [right]] = [ruleLine left bar middle right rooms] := by
    rw [List.map_map]
    rfl
  have filled : 0 < gridWidth rooms := by
    rw [gridWidth]
    omega
  rw [rule, drawn, onPageWide_of_le (by simpa [width] using filled) (by simpa [width] using fits)]
  simp

end Rules

/-- Where the page has room for every text, nothing is abridged. -/
theorem frame_of_fits {rooms : List Nat} (some_rooms : rooms ≠ [])
    {headings : List (List Char)} (fitting : Fitting rooms headings)
    {rows : List (List (List Char))} (fittingRows : ∀ row ∈ rows, Fitting rooms row) {page : Nat}
    (fits : gridWidth rooms ≤ page) :
    frame page (rooms.map spanFor) headings rows = grid rooms headings rows := by
  have entries {border : Char} (box : border ∈ boxChars) {row : List (List Char)}
      (fittingRow : Fitting rooms row) :
      onPageWide page (rowPieces border (rooms.map spanFor) row) = entryLine border rooms row := by
    have flat := flatten_rowPieces fittingRow border
    rw [onPageWide_of_le (rowPieces_filled fittingRow box), flat]
    rw [flat, cells_entryLine fittingRow box]
    exact fits
  have body : rows.map (fun row => onPageWide page (rowPieces '│' (rooms.map spanFor) row)) =
      rows.map (entryLine '│' rooms) :=
    List.map_congr_left fun row member => entries (by simp [boxChars]) (fittingRows row member)
  rw [frame, grid, body, entries (by simp [boxChars]) fitting,
    rule_of_fits some_rooms (by simp [boxChars]) fits,
    rule_of_fits some_rooms (by simp [boxChars]) fits,
    rule_of_fits some_rooms (by simp [boxChars]) fits]

theorem ends_with_border {α : Type} (border : Char) (f : α → List Char) (items : List α) :
    ∃ early, border :: items.flatMap (fun item => f item ++ [border]) = early ++ [border] := by
  induction items with
  | nil => exact ⟨[], rfl⟩
  | cons item rest induction =>
      obtain ⟨early, ends⟩ := induction
      refine ⟨border :: f item ++ early, ?_⟩
      rw [List.append_assoc, ← ends, List.flatMap_cons]
      simp

theorem getLast?_entryLine (border : Char) (rooms : List Nat) (row : List (List Char)) :
    (entryLine border rooms row).getLast? = some border := by
  obtain ⟨early, ends⟩ :=
    ends_with_border border (fun (room, s) => framed room s) (rooms.zip row)
  rw [entryLine, ends, List.getLast?_concat]

theorem getLast?_ruleLine (left bar middle right : Char) (rooms : List Nat) :
    (ruleLine left bar middle right rooms).getLast? = some right := by
  rw [ruleLine, ← List.cons_append, List.getLast?_concat]

/-- No line of a grid ends with a blank. -/
theorem dropTrailingBlanks_grid (rooms : List Nat) (headings : List (List Char))
    (rows : List (List (List Char))) :
    (grid rooms headings rows).map dropTrailingBlanks = grid rooms headings rows := by
  have kept {line : List Char} {last : Char} (ends : line.getLast? = some last)
      (box : last ∈ boxChars) : dropTrailingBlanks line = line := by
    refine dropTrailingBlanks_of_last fun c found => ?_
    rw [ends] at found
    cases found
    exact (shown_boxChars _ box).2
  have entries (row : List (List Char)) :
      dropTrailingBlanks (entryLine '│' rooms row) = entryLine '│' rooms row :=
    kept (getLast?_entryLine _ _ _) (by simp [boxChars])
  have heading : dropTrailingBlanks (entryLine '┃' rooms headings) = entryLine '┃' rooms headings :=
    kept (getLast?_entryLine _ _ _) (by simp [boxChars])
  have body : (rows.map (entryLine '│' rooms)).map dropTrailingBlanks =
      rows.map (entryLine '│' rooms) := by
    simp [entries]
  rw [grid, List.map_append, List.map_append, body, List.map_cons, List.map_cons, List.map_cons,
    List.map_cons, heading, kept (getLast?_ruleLine _ _ _ _ _) (by simp [boxChars]),
    kept (getLast?_ruleLine _ _ _ _ _) (by simp [boxChars]),
    kept (getLast?_ruleLine _ _ _ _ _) (by simp [boxChars])]
  rfl

/-! Drawings as grids. -/

/-- A text that stands in a column. -/
def Column.Has (column : Column) (s : List Char) : Prop :=
  column.Inked ∧ s ∈ column.heading :: column.cells

section Drawings

variable {columns : List Column} {rows : List (List (List Char))}

theorem fitting_of_has {row : List (List Char)} (held : List.Forall₂ Column.Has columns row) :
    Fitting (rooms columns) row := by
  rw [Fitting, rooms, List.forall₂_map_left_iff]
  exact held.imp fun column s has => ⟨has.1 s has.2, Column.cells_le_room has.2⟩

theorem inked_of_has {row : List (List Char)} (held : List.Forall₂ Column.Has columns row) :
    ∀ s ∈ row, Inked s := by
  induction held with
  | nil => exact List.forall_mem_nil _
  | cons has _ induction => exact List.forall_mem_cons.mpr ⟨has.1 _ has.2, induction⟩

theorem held_headings (inked : ∀ column ∈ columns, column.Inked) :
    List.Forall₂ Column.Has columns (columns.map Column.heading) := by
  rw [List.forall₂_map_right_iff, List.forall₂_same]
  exact fun column member => ⟨inked column member, List.mem_cons_self⟩

theorem bordered_frame_draw (inked : ∀ column ∈ columns, column.Inked)
    (held : ∀ row ∈ rows, List.Forall₂ Column.Has columns row) :
    ∀ line ∈ frame (pageFor columns) (fitWidths (pageFor columns) columns)
      (columns.map Column.heading) rows, Bordered (pageFor columns) line := by
  have some_room : 0 < pageFor columns := by
    have wide := pageWidth_le_pageFor columns
    rw [pageWidth] at wide
    omega
  refine bordered_frame some_room _ ?_ fun row member => inked_of_has (held row member)
  rintro _ member
  obtain ⟨column, inColumns, rfl⟩ := List.mem_map.mp member
  exact inked column inColumns _ List.mem_cons_self

variable (some_columns : columns ≠ []) (unwrapped : ∀ column ∈ columns, column.wraps = false)
variable (inked : ∀ column ∈ columns, column.Inked)
variable (held : ∀ row ∈ rows, List.Forall₂ Column.Has columns row)
include some_columns unwrapped inked held

theorem lines_draw : lines (draw columns rows) =
    (frame (pageFor columns) (fitWidths (pageFor columns) columns) (columns.map Column.heading)
      rows).map dropTrailingBlanks := by
  rw [draw_inked some_columns unwrapped inked fun row member => inked_of_has (held row member)]
  exact lines_tidy (bordered_frame_draw inked held)

theorem within_of_draw : ∀ line ∈ lines (draw columns rows), cells line ≤ pageFor columns := by
  rw [lines_draw some_columns unwrapped inked held]
  intro line member
  exact (Bordered.map_withoutBlanks (bordered_frame_draw inked held)
    line member).within

theorem length_lines_draw : (lines (draw columns rows)).length = rows.length + 4 := by
  rw [lines_draw some_columns unwrapped inked held]
  simp [frame]

theorem frame_draw_of_fits (fits : gridWidth (rooms columns) ≤ pageFor columns) :
    frame (pageFor columns) (fitWidths (pageFor columns) columns) (columns.map Column.heading)
      rows = grid (rooms columns) (columns.map Column.heading) rows := by
  have some_rooms : rooms columns ≠ [] := by simpa [rooms] using some_columns
  rw [fitWidths_of_fits unwrapped inked fits]
  exact frame_of_fits some_rooms (fitting_of_has (held_headings inked))
    (fun row member => fitting_of_has (held row member)) fits

/-- A table is a grid with every text in full if and only if the page has room for the grid. -/
theorem lines_draw_eq_grid_iff :
    lines (draw columns rows) = grid (rooms columns) (columns.map Column.heading) rows ↔
      gridWidth (rooms columns) ≤ pageFor columns := by
  constructor
  · intro whole
    have some_rooms : rooms columns ≠ [] := by simpa [rooms] using some_columns
    have top : ruleLine '┏' '━' '┳' '┓' (rooms columns) ∈ lines (draw columns rows) := by
      rw [whole]
      exact List.mem_append_left _ (List.mem_append_left _ List.mem_cons_self)
    have within := within_of_draw some_columns unwrapped inked held _ top
    rwa [cells_ruleLine some_rooms (by simp [boxChars])] at within
  · intro fits
    rw [lines_draw some_columns unwrapped inked held,
      frame_draw_of_fits some_columns unwrapped inked held fits, dropTrailingBlanks_grid]

theorem draw_of_fits (fits : gridWidth (rooms columns) ≤ pageFor columns) :
    draw columns rows =
      join ['\n'] (grid (rooms columns) (columns.map Column.heading) rows) := by
  have bordered := bordered_frame_draw inked held
  rw [draw_inked some_columns unwrapped inked fun row member => inked_of_has (held row member),
    tidy_bordered bordered, frame_draw_of_fits some_columns unwrapped inked held fits,
    dropTrailingBlanks_grid]

end Drawings

end GraphConsole.Table
