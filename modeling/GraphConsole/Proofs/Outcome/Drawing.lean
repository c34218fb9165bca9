import GraphConsole.Outcome.Table
import GraphConsole.Proofs.Text.Ink

/-! Drawings of tables whose texts hold no line ends, tabs and characters without a width. Each row
takes one line, and no line is wider than the page. -/

namespace GraphConsole.Table

open GraphConsole.Text

/-! The largest of some numbers. -/

theorem max?_foldl (first : Nat) (rest : List Nat) :
    (first :: rest).max? = some ((first :: rest).foldl max 0) := by
  rw [List.max?_cons', List.foldl_cons, Nat.zero_max]

theorem le_foldl_max {numbers : List Nat} : ∀ n ∈ numbers, n ≤ numbers.foldl max 0 := by
  intro n member
  cases numbers with
  | nil => cases member
  | cons first rest => exact (List.max?_eq_some_iff.mp (max?_foldl first rest)).2 n member

theorem foldl_max_mem {numbers : List Nat} (filled : numbers ≠ []) :
    numbers.foldl max 0 ∈ numbers := by
  cases numbers with
  | nil => exact absurd rfl filled
  | cons first rest => exact (List.max?_eq_some_iff.mp (max?_foldl first rest)).1

theorem foldl_max_le {numbers : List Nat} {bound : Nat} (bounded : ∀ n ∈ numbers, n ≤ bound) :
    numbers.foldl max 0 ≤ bound := by
  by_cases filled : numbers = []
  · rw [filled]
    exact Nat.zero_le bound
  · exact bounded _ (foldl_max_mem filled)

/-! Texts as a page takes them. -/

theorem cellWidth_of_isDropped {c : Char} (dropped : isDropped c = true) : cellWidth c = 0 := by
  simp only [isDropped, Bool.or_eq_true, Bool.and_eq_true, decide_eq_true_eq, beq_iff_eq]
    at dropped
  exact cellWidth_of_control (by omega)

theorem onPage_inked {s : List Char} (inked : Inked s) : onPage s = s := by
  refine List.filter_eq_self.mpr fun c member => ?_
  by_contra dropped
  exact inked c member (cellWidth_of_isDropped (by simpa using dropped))

theorem naturalCells_inked {s : List Char} (inked : Inked s) : naturalCells s = cells s := by
  by_cases empty : s = []
  · rw [empty]
    rfl
  · simp [naturalCells, lines_unbroken inked.unbroken empty]

theorem cellLines_inked {s : List Char} (inked : Inked s) (room : Nat) :
    cellLines false room s = if room = 0 then [] else [fitCells room (abridge room s)] := by
  have feedless : '\n' ∉ s := inked.notMem_of_control (by decide)
  have tabless : '\t' ∉ s := inked.notMem_of_control (by decide)
  rw [cellLines, onPage_inked inked, splitAt_whole feedless]
  simp [expandTabs_of_notMem 0 s tabless]

/-! Lines on a page. -/

theorem onPageWide_of_le {page : Nat} {pieces : List (List Char)}
    (filled : ∀ piece ∈ pieces, 0 < cells piece) (fits : cells pieces.flatten ≤ page) :
    onPageWide page pieces = pieces.flatten := by
  induction pieces generalizing page with
  | nil => rfl
  | cons piece rest induction =>
      have first := filled piece List.mem_cons_self
      have others := fun other member => filled other (List.mem_cons_of_mem piece member)
      rw [List.flatten_cons, cells_append] at fits
      rw [onPageWide, List.flatten_cons]
      split
      · rw [induction others (by omega)]
      · cases rest with
        | nil =>
            rw [fitCells_of_le (by omega) (by omega), Nat.sub_eq_zero_of_le (by omega)]
            rfl
        | cons second more =>
            have next := others second List.mem_cons_self
            rw [List.flatten_cons, cells_append] at fits
            omega

theorem onPageWide_cons {page : Nat} {c : Char} {piece : List Char}
    (inked : Inked (c :: piece)) (narrow : cellWidth c ≤ page) (pieces : List (List Char)) :
    ∃ later, onPageWide page ((c :: piece) :: pieces) = c :: later := by
  rw [onPageWide]
  split
  · exact ⟨_, rfl⟩
  · exact fitCells_cons inked narrow

section OnPage

variable {pieces : List (List Char)} (inked : ∀ piece ∈ pieces, Inked piece)
include inked

theorem inked_onPageWide (page : Nat) : Inked (onPageWide page pieces) := by
  induction pieces generalizing page with
  | nil => exact .nil
  | cons piece rest induction =>
      have first := inked piece List.mem_cons_self
      rw [onPageWide]
      split
      · exact first.append
          (induction (fun other member => inked other (List.mem_cons_of_mem piece member)) _)
      · exact first.fitCells page

theorem cells_onPageWide_le (page : Nat) : cells (onPageWide page pieces) ≤ page := by
  induction pieces generalizing page with
  | nil => exact Nat.zero_le page
  | cons piece rest induction =>
      rw [onPageWide]
      split
      · have later := induction
          (fun other member => inked other (List.mem_cons_of_mem piece member)) (page - cells piece)
        rw [cells_append]
        omega
      · exact cells_fitCells_le (inked piece List.mem_cons_self)

end OnPage

/-! Rows. -/

/-- What is drawn of one text, which is nothing where its column is too narrow. -/
def cellPieces (span : Span) (s : List Char) : List (List Char) :=
  if span.width - 2 = 0 then emptyLine span.width
  else padded (fitCells (span.width - 2) (abridge (span.width - 2) s))

def rowPieces (border : Char) (spans : List Span) (row : List (List Char)) : List (List Char) :=
  [border] :: (spans.zip row).flatMap fun (span, s) => cellPieces span s ++ [[border]]

section Rows

variable {spans : List Span} {row : List (List Char)}
variable {fill : Nat → Nat → List (List (List Char)) → List (List (List Char))}

/-- A row takes one line, so that it does not matter on which side lines would be filled in. -/
theorem drawRow_inked (filling : fill = fillAbove ∨ fill = fillBelow)
    (unwrapped : ∀ span ∈ spans, span.wraps = false) (inked : ∀ s ∈ row, Inked s) (page : Nat)
    (border : Char) :
    drawRow page border fill spans row = [onPageWide page (rowPieces border spans row)] := by
  have single : ∀ pair ∈ spans.zip row,
      (cellLines pair.1.wraps (pair.1.width - 2) pair.2).length ≤ 1 ∧
        (fill 1 pair.1.width ((cellLines pair.1.wraps (pair.1.width - 2) pair.2).map padded)).getD
          0 [] = cellPieces pair.1 pair.2 := by
    rintro ⟨span, s⟩ member
    have ends := List.of_mem_zip member
    simp only [unwrapped span ends.1, cellLines_inked (inked s ends.2), cellPieces]
    by_cases narrow : span.width - 2 = 0
    · obtain rfl | rfl := filling <;> simp [narrow, fillAbove, fillBelow]
    · obtain rfl | rfl := filling <;> simp [narrow, fillAbove, fillBelow]
  have height : max 1 (((spans.zip row).map fun (span, s) =>
      ((cellLines span.wraps (span.width - 2) s).map padded).length).foldl max 0) = 1 := by
    refine Nat.max_eq_left (foldl_max_le ?_)
    rintro _ member
    obtain ⟨pair, inZip, rfl⟩ := List.mem_map.mp member
    simpa using (single pair inZip).1
  simp only [drawRow, List.map_map, Function.comp_def, height]
  rw [List.range_one, List.map_singleton, rowLine, rowPieces, List.flatMap_map]
  congr 3
  refine List.flatMap_congr fun pair member => ?_
  rw [(single pair member).2]

theorem inked_cellPieces (span : Span) {s : List Char} (inked : Inked s) :
    ∀ piece ∈ cellPieces span s, Inked piece := by
  intro piece member
  unfold cellPieces at member
  split at member
  · rw [List.mem_singleton.mp member]
    exact inked_blanks span.width
  · simp only [padded, List.mem_cons, List.not_mem_nil, or_false] at member
    obtain rfl | rfl | rfl := member
    · exact inked_blanks 1
    · exact (inked.abridge _).fitCells _
    · exact inked_blanks 1

theorem inked_rowPieces {border : Char} (bordered : cellWidth border ≠ 0) (spans : List Span)
    (inked : ∀ s ∈ row, Inked s) : ∀ piece ∈ rowPieces border spans row, Inked piece := by
  have edge : Inked [border] := by simpa [Inked] using bordered
  intro piece member
  rw [rowPieces, List.mem_cons, List.mem_flatMap] at member
  obtain rfl | ⟨⟨span, s⟩, inZip, member⟩ := member
  · exact edge
  · rw [List.mem_append, List.mem_singleton] at member
    obtain drawn | rfl := member
    · exact inked_cellPieces span (inked s (List.of_mem_zip inZip).2) piece drawn
    · exact edge

end Rows

/-! Pages. -/

/-- A line as tables have them: it begins with a border and keeps to the page. -/
structure Bordered (page : Nat) (line : List Char) : Prop where
  inked : Inked line
  within : cells line ≤ page
  begins : ∃ border rest, line = border :: rest ∧ isBlank border = false

theorem bordered_onPageWide {page : Nat} {border : Char} {piece : List Char}
    {pieces : List (List Char)} (inked : ∀ other ∈ (border :: piece) :: pieces, Inked other)
    (narrow : cellWidth border ≤ page) (visible : isBlank border = false) :
    Bordered page (onPageWide page ((border :: piece) :: pieces)) := by
  obtain ⟨later, drawn⟩ := onPageWide_cons (inked _ List.mem_cons_self) narrow pieces
  exact ⟨inked_onPageWide inked page, cells_onPageWide_le inked page, border, later, drawn, visible⟩

namespace Bordered

variable {page : Nat} {line : List Char}

theorem ne_nil (bordered : Bordered page line) : line ≠ [] := by
  obtain ⟨border, rest, rfl, _⟩ := bordered.begins
  exact List.cons_ne_nil border rest

theorem notMem_feed (bordered : Bordered page line) : '\n' ∉ line :=
  bordered.inked.notMem_of_control (by decide)

theorem withoutBlanks (bordered : Bordered page line) :
    Bordered page (dropTrailingBlanks line) := by
  obtain ⟨border, rest, rfl, visible⟩ := bordered.begins
  obtain ⟨blanks, split⟩ := List.rdropWhile_prefix isBlank (border :: rest)
  change dropTrailingBlanks (border :: rest) ++ blanks = border :: rest at split
  have within := bordered.within
  rw [← split, cells_append] at within
  refine ⟨bordered.inked.of_subset fun c member => ?_, by omega, ?_⟩
  · exact split ▸ List.mem_append_left blanks member
  · cases kept : dropTrailingBlanks (border :: rest) with
    | nil =>
        have blank := List.rdropWhile_eq_nil_iff.mp kept border List.mem_cons_self
        rw [visible] at blank
        cases blank
    | cons first later =>
        rw [kept] at split
        cases split
        exact ⟨border, later, rfl, visible⟩

theorem map_withoutBlanks {drawing : List (List Char)}
    (bordered : ∀ line ∈ drawing, Bordered page line) :
    ∀ line ∈ drawing.map dropTrailingBlanks, Bordered page line := by
  rintro _ member
  obtain ⟨line, inDrawing, rfl⟩ := List.mem_map.mp member
  exact (bordered line inDrawing).withoutBlanks

theorem lines_join {drawing : List (List Char)}
    (bordered : ∀ line ∈ drawing, Bordered page line) : lines (join ['\n'] drawing) = drawing :=
  Text.lines_join (fun member => (bordered [] member).ne_nil rfl)
    fun line member => (bordered line member).inked.unbroken

end Bordered

theorem dropTrailingBlanks_of_last {line : List Char}
    (last : ∀ c ∈ line.getLast?, isBlank c = false) : dropTrailingBlanks line = line := by
  refine List.rdropWhile_eq_self_iff.mpr fun filled => ?_
  simp [last _ (List.getLast?_eq_some_getLast filled)]

theorem dropWhile_join {page : Nat} {drawing : List (List Char)}
    (bordered : ∀ line ∈ drawing, Bordered page line) :
    (join ['\n'] drawing).dropWhile (· == '\n') = join ['\n'] drawing := by
  cases drawing with
  | nil => rfl
  | cons first rest =>
      obtain ⟨border, later, rfl, visible⟩ := (bordered first List.mem_cons_self).begins
      have apart : border ≠ '\n' := by
        rintro rfl
        exact absurd visible (by decide)
      have begins : join ['\n'] ((border :: later) :: rest) =
          border :: join ['\n'] (later :: rest) := join_append_cons ['\n'] [border] later rest
      rw [begins]
      exact List.dropWhile_cons_of_neg (by simpa using apart)

theorem dropTrailing_join {page : Nat} {drawing : List (List Char)}
    (bordered : ∀ line ∈ drawing, Bordered page line) :
    dropTrailing (· == '\n') (join ['\n'] drawing) = join ['\n'] drawing := by
  cases ends : drawing.getLast? with
  | none =>
      rw [List.getLast?_eq_none_iff.mp ends]
      rfl
  | some last =>
      have whole := bordered last (List.mem_of_getLast? ends)
      obtain ⟨early, joined⟩ := join_ends ['\n'] ends
      rw [joined]
      refine List.rdropWhile_eq_self_iff.mpr fun filled => ?_
      rw [List.getLast_append_of_ne_nil filled whole.ne_nil]
      have apart := ne_of_mem_of_not_mem (List.getLast_mem whole.ne_nil) whole.notMem_feed
      simpa using apart

/-- All that is tidied of lines with a border is the blanks at their ends. -/
theorem tidy_bordered {page : Nat} {drawing : List (List Char)}
    (bordered : ∀ line ∈ drawing, Bordered page line) :
    tidy drawing = join ['\n'] (drawing.map dropTrailingBlanks) := by
  have tidied := Bordered.map_withoutBlanks bordered
  simp only [tidy, Bordered.lines_join bordered]
  rw [dropWhile_join tidied, dropTrailing_join tidied]

theorem lines_tidy {page : Nat} {drawing : List (List Char)}
    (bordered : ∀ line ∈ drawing, Bordered page line) :
    lines (tidy drawing) = drawing.map dropTrailingBlanks := by
  rw [tidy_bordered bordered]
  exact Bordered.lines_join (Bordered.map_withoutBlanks bordered)

/-! Widths of columns. -/

def Column.Inked (column : Column) : Prop :=
  ∀ s ∈ column.heading :: column.cells, Text.Inked s

theorem reduce_of_limit_zero {limit : Span → Nat} {spans : List Span}
    (firm : ∀ span ∈ spans, limit span = 0) (excess : Nat) : reduce limit excess spans = spans := by
  induction spans with
  | nil => rfl
  | cons span rest induction =>
      rw [reduce, if_pos (firm span List.mem_cons_self),
        induction fun other member => firm other (List.mem_cons_of_mem span member)]

theorem map_wraps_reduce (limit : Span → Nat) (excess : Nat) (spans : List Span) :
    (reduce limit excess spans).map Span.wraps = spans.map Span.wraps := by
  induction spans generalizing excess with
  | nil => rfl
  | cons span rest induction =>
      unfold reduce
      split <;> simp [induction]

section Widths

variable {columns : List Column}

theorem collapse_unwrapped {spans : List Span} (unwrapped : ∀ span ∈ spans, span.wraps = false)
    (room : Nat) : collapse room spans = spans := by
  have lowered : lower room spans = spans :=
    reduce_of_limit_zero (fun span member => by simp [unwrapped span member]) _
  rw [collapse, lowered]
  simp

theorem unwrapped_fitWidths (unwrapped : ∀ column ∈ columns, column.wraps = false) (page : Nat) :
    ∀ span ∈ fitWidths page columns, span.wraps = false := by
  have unwrappedSpans : ∀ span ∈ columns.map fun column : Column =>
      (⟨min (page - (columns.length + 1)) column.width, column.wraps⟩ : Span),
      span.wraps = false := by
    rintro _ member
    obtain ⟨column, inColumns, rfl⟩ := List.mem_map.mp member
    exact unwrapped column inColumns
  intro span member
  have wraps := List.mem_map_of_mem (f := Span.wraps) member
  simp only [fitWidths, collapse_unwrapped unwrappedSpans, map_wraps_reduce, List.map_map] at wraps
  obtain ⟨column, inColumns, same⟩ := List.mem_map.mp wraps
  rw [← same]
  exact unwrapped column inColumns

end Widths

/-! Drawings. -/

/-- The characters that rules and borders are made of. -/
def boxChars : List Char :=
  ['┏', '━', '┳', '┓', '┃', '┡', '╇', '┩', '│', '└', '─', '┴', '┘']

theorem shown_boxChars : ∀ c ∈ boxChars, cellWidth c = 1 ∧ isBlank c = false := by
  have shown : boxChars.all (fun c => cellWidth c == 1 && !isBlank c) = true := by decide +kernel
  intro c member
  simpa using List.all_eq_true.mp shown c member

theorem inked_join {mark : List Char} (marked : Inked mark) {pieces : List (List Char)}
    (inked : ∀ piece ∈ pieces, Inked piece) : Inked (join mark pieces) := by
  intro c member
  obtain inMark | ⟨piece, inPieces, inPiece⟩ := mem_join member
  · exact marked c inMark
  · exact inked piece inPieces c inPiece

theorem inked_boxChars {s : List Char} (boxes : s ⊆ boxChars) : Inked s := by
  intro c member
  rw [(shown_boxChars c (boxes member)).1]
  decide

theorem bordered_rule {page : Nat} (some_room : 0 < page) {left bar middle right : Char}
    (boxes : [left, bar, middle, right] ⊆ boxChars) (spans : List Span) :
    Bordered page (rule page left bar middle right spans) := by
  have edge := shown_boxChars left (boxes List.mem_cons_self)
  have bars : ∀ piece ∈ spans.map fun span => List.replicate span.width bar, Inked piece := by
    rintro _ member
    obtain ⟨span, _, rfl⟩ := List.mem_map.mp member
    refine inked_boxChars fun c drawn => ?_
    rw [List.eq_of_mem_replicate drawn]
    exact boxes (by simp)
  have outline : Inked (left :: (join [middle] (spans.map fun span =>
      List.replicate span.width bar) ++ [right])) := by
    have boxed : ∀ c ∈ [left, bar, middle, right], Inked [c] := fun c member =>
      inked_boxChars (by simpa using boxes member)
    have marks := inked_join (boxed middle (by simp)) bars
    exact (boxed left (by simp)).append (marks.append (boxed right (by simp)))
  refine bordered_onPageWide ?_ (by omega) edge.2
  intro piece member
  rw [List.mem_singleton.mp member]
  exact outline

theorem bordered_row {page : Nat} (some_room : 0 < page) {border : Char}
    (box : border ∈ boxChars) (spans : List Span) {row : List (List Char)}
    (inked : ∀ s ∈ row, Inked s) :
    Bordered page (onPageWide page (rowPieces border spans row)) := by
  have edge := shown_boxChars border box
  exact bordered_onPageWide (inked_rowPieces (by omega) spans inked) (by omega) edge.2

/-- The lines of a table before they are tidied. -/
def frame (page : Nat) (spans : List Span) (headings : List (List Char))
    (rows : List (List (List Char))) : List (List Char) :=
  [rule page '┏' '━' '┳' '┓' spans, onPageWide page (rowPieces '┃' spans headings),
    rule page '┡' '━' '╇' '┩' spans]
    ++ rows.map (fun row => onPageWide page (rowPieces '│' spans row))
    ++ [rule page '└' '─' '┴' '┘' spans]

theorem pageWidth_le_pageFor (columns : List Column) : pageWidth ≤ pageFor columns :=
  Nat.le_max_left _ _

section Drawings

variable {columns : List Column} {rows : List (List (List Char))}

theorem draw_inked (some_columns : columns ≠ [])
    (unwrapped : ∀ column ∈ columns, column.wraps = false)
    (inked : ∀ column ∈ columns, column.Inked) (inkedRows : ∀ row ∈ rows, ∀ s ∈ row, Inked s) :
    draw columns rows = tidy (frame (pageFor columns) (fitWidths (pageFor columns) columns)
      (columns.map Column.heading) rows) := by
  have firm := unwrapped_fitWidths unwrapped (pageFor columns)
  have headings : ∀ s ∈ columns.map Column.heading, Inked s := by
    rintro _ member
    obtain ⟨column, inColumns, rfl⟩ := List.mem_map.mp member
    exact inked column inColumns _ List.mem_cons_self
  have body : rows.flatMap (drawRow (pageFor columns) '│' fillBelow
      (fitWidths (pageFor columns) columns)) = rows.map fun row =>
        onPageWide (pageFor columns) (rowPieces '│' (fitWidths (pageFor columns) columns) row) := by
    rw [List.map_eq_flatMap]
    exact List.flatMap_congr fun row member =>
      drawRow_inked (.inr rfl) firm (inkedRows row member) _ _
  have unempty : columns.isEmpty = false := by simpa using some_columns
  rw [draw, unempty, if_neg (by decide)]
  change tidy (_ ++ drawRow (pageFor columns) '┃' fillAbove (fitWidths (pageFor columns) columns) _
    ++ _ ++ rows.flatMap (drawRow (pageFor columns) '│' fillBelow
      (fitWidths (pageFor columns) columns)) ++ _) = _
  rw [drawRow_inked (.inl rfl) firm headings, body]
  rfl

theorem bordered_frame {page : Nat} (some_room : 0 < page) (spans : List Span)
    {headings : List (List Char)} (inked : ∀ s ∈ headings, Inked s)
    (inkedRows : ∀ row ∈ rows, ∀ s ∈ row, Inked s) :
    ∀ line ∈ frame page spans headings rows, Bordered page line := by
  intro line member
  simp only [frame, List.mem_append, List.mem_cons, List.not_mem_nil, or_false, List.mem_map]
    at member
  obtain ((top | heading | middle) | ⟨row, inRows, drawn⟩) | bottom := member
  case inl.inl.inl => exact top ▸ bordered_rule some_room (by simp [boxChars]) spans
  case inl.inl.inr.inl => exact heading ▸ bordered_row some_room (by simp [boxChars]) spans inked
  case inl.inl.inr.inr => exact middle ▸ bordered_rule some_room (by simp [boxChars]) spans
  case inl.inr =>
    exact drawn ▸ bordered_row some_room (by simp [boxChars]) spans (inkedRows row inRows)
  case inr => exact bottom ▸ bordered_rule some_room (by simp [boxChars]) spans

end Drawings

end GraphConsole.Table
