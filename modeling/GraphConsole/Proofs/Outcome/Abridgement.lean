import GraphConsole.Proofs.Outcome.Grid

/-! Which texts of a table are shown whole. There is a table if the names of its columns can be read
as markup and their styles can be drawn. Each row takes one line; nothing is lost unless wide
characters make the table wider than the page that is measured for it. -/

namespace GraphConsole.Table

open GraphConsole.Text

/-! Names that are read as markup. -/

theorem length_of_mapM {library : Heading.Library} {names : List String} {headings : List Heading}
    (read : names.mapM (Heading.read library) = .ok headings) :
    headings.length = names.length := by
  induction names generalizing headings with
  | nil =>
      obtain rfl := Except.ok.inj read
      rfl
  | cons name names induction =>
      rw [List.mapM_cons] at read
      cases first : Heading.read library name with
      | error incident =>
          rw [first] at read
          cases read
      | ok heading =>
          cases later : names.mapM (Heading.read library) with
          | error incident =>
              rw [first, later] at read
              cases read
          | ok others =>
              rw [first, later] at read
              obtain rfl := Except.ok.inj read
              rw [List.length_cons, List.length_cons, induction later]

/-- The headings of names that show as they are. -/
def plainHeadings (names : List String) : List Heading :=
  names.map fun name => ⟨name, []⟩

theorem map_text_plainHeadings (names : List String) :
    (plainHeadings names).map Heading.text = names := by
  rw [plainHeadings, List.map_map]
  exact List.map_id names

/-- Names without opening brackets and colons show as they are. -/
theorem mapM_read (library : Heading.Library) {names : List String}
    (literal : ∀ name ∈ names, '[' ∉ name.toList ∧ ':' ∉ name.toList) :
    names.mapM (Heading.read library) = .ok (plainHeadings names) := by
  induction names with
  | nil => rfl
  | cons name names induction =>
      obtain ⟨⟨noTag, noSymbol⟩, others⟩ := List.forall_mem_cons.mp literal
      rw [List.mapM_cons, Heading.read_of_notMem library noTag noSymbol, induction others]
      rfl

/-- Nothing goes wrong where all styles can be drawn, wherever headings are cut. -/
theorem flaw?_eq_none {library : Heading.Library} {headings : List Heading}
    (flawless : ∀ heading ∈ headings, ∀ mark ∈ heading.marks, library.styleFlaw? mark.style = none)
    (names : List String) (rows : List (List String)) :
    flaw? library names headings rows = none := by
  refine List.findSome?_eq_none_iff.mpr fun mark member => ?_
  obtain ⟨⟨heading, span⟩, inZip, drawn⟩ := List.mem_flatMap.mp member
  exact flawless heading (List.of_mem_zip inZip).1 mark (heading.marksWithin_subset _ drawn)

theorem flaw?_plainHeadings (library : Heading.Library) (names : List String)
    (rows : List (List String)) : flaw? library names (plainHeadings names) rows = none := by
  refine flaw?_eq_none (fun heading member mark marked => ?_) names rows
  obtain ⟨name, _, rfl⟩ := List.mem_map.mp member
  cases marked

/-! Tables whose rows are as long as their headings. -/

def texts (rows : List (List String)) : List (List (List Char)) :=
  rows.map fun row => row.map String.toList

/-- The columns of a table without cells beyond its headings, where columns have other names. -/
def columnsAs (names headings : List String) (rows : List (List String)) : List Column :=
  columnsOf names headings (texts rows) names.length

/-- Columns whose headings are their names. -/
abbrev columns (headings : List String) (rows : List (List String)) : List Column :=
  columnsAs headings headings rows

/-- What shows in a column, its heading first. -/
def entries (headings : List String) (rows : List (List String)) (index : Nat) : List String :=
  headings[index]?.toList ++ rows.filterMap fun row => row[index]?

/-- The length of the longest text in each column. -/
def widths (headings : List String) (rows : List (List String)) : List Nat :=
  (List.range headings.length).map fun index =>
    ((entries headings rows index).map String.length).foldl max 0

/-- The cells of the widest text in each column. -/
def spreads (headings : List String) (rows : List (List String)) : List Nat :=
  (List.range headings.length).map fun index =>
    ((entries headings rows index).map fun text => cells text.toList).foldl max 0

/-- The page is as wide as a table would be if every character took one cell and the headings were
the names, and not narrower than usual. -/
def pageNeeded (names : List String) (rows : List (List String)) : Nat :=
  max 160 (gridWidth (widths names rows))

theorem fillUp_length (row : List String) : fillUp row.length row = row.map String.toList := by
  simp [fillUp]

theorem pageOf_unwrapped {columns : List Column}
    (unwrapped : ∀ column ∈ columns, column.wraps = false) :
    pageOf columns = gridWidth (columns.map Column.length) := by
  have summed (page : Nat) (columns : List Column) :
      columns.foldl (fun page column => page + column.length + 3) page =
        page + ((columns.map Column.length).map (· + 3)).sum := by
    induction columns generalizing page with
    | nil => rfl
    | cons column rest induction =>
        rw [List.foldl_cons, induction, List.map_cons, List.map_cons, List.sum_cons]
        omega
  have all : columns.filter (fun column => !column.wraps) = columns :=
    List.filter_eq_self.mpr fun column member => by simp [unwrapped column member]
  rw [pageOf, all, summed, gridWidth]

section Paired

variable {names headings : List String} (paired : headings.length = names.length)
include paired

theorem getElem?_columnsAs (rows : List (List String)) (index : Nat) :
    (columnsAs names headings rows)[index]? = headings[index]?.map fun heading =>
      ⟨(names.getD index "").toList, heading.toList, (texts rows).map fun row => row.getD index [],
        false⟩ := by
  rw [columnsAs, columnsOf, fillUp_length, List.getElem?_map, List.getElem?_zipIdx,
    List.getElem?_map]
  by_cases within : index < names.length
  · have shown : index < headings.length := paired ▸ within
    simp [within, shown, Nat.not_le.mpr within]
  · have beyond : headings.length ≤ index := paired ▸ Nat.not_lt.mp within
    simp [Nat.not_lt.mp within, beyond]

theorem length_columnsAs (rows : List (List String)) :
    (columnsAs names headings rows).length = headings.length := by
  simp [columnsAs, columnsOf, fillUp_length, paired]

theorem map_heading_columnsAs (rows : List (List String)) :
    (columnsAs names headings rows).map Column.heading = headings.map String.toList := by
  refine List.ext_getElem? fun index => ?_
  rw [List.getElem?_map, getElem?_columnsAs paired, List.getElem?_map, Option.map_map]
  rfl

theorem map_columnsAs {α : Type} {rows : List (List String)} {measure : Column → α}
    {measureAt : Nat → α} (each : ∀ index column,
      (columnsAs names headings rows)[index]? = some column → measure column = measureAt index) :
    (columnsAs names headings rows).map measure =
      (List.range headings.length).map measureAt := by
  refine List.ext_getElem (by simp [length_columnsAs paired]) fun index within _ => ?_
  rw [List.length_map] at within
  rw [List.getElem_map, List.getElem_map, List.getElem_range]
  exact each index _ (List.getElem?_eq_getElem within)

end Paired

section Even

variable {names headings : List String} {rows : List (List String)}

theorem unwrapped_columnsAs (paired : headings.length = names.length) :
    ∀ column ∈ columnsAs names headings rows, column.wraps = false := by
  intro column member
  obtain ⟨index, found⟩ := List.getElem?_of_mem member
  rw [getElem?_columnsAs paired] at found
  obtain ⟨heading, _, rfl⟩ := Option.map_eq_some_iff.mp found
  rfl

/-- What holds of all headings and of all texts in rows holds of all texts in a column. -/
theorem forall_entries {p : String → Prop} (ofHeadings : ∀ heading ∈ headings, p heading)
    (ofRows : ∀ row ∈ rows, ∀ text ∈ row, p text) (index : Nat) :
    ∀ text ∈ entries headings rows index, p text := by
  intro text member
  rw [entries, List.mem_append, Option.mem_toList, List.mem_filterMap] at member
  obtain heading | ⟨row, inRows, inRow⟩ := member
  · exact ofHeadings text (List.mem_of_getElem? heading)
  · exact ofRows row inRows text (List.mem_of_getElem? inRow)

theorem entries_of_even (even : ∀ row ∈ rows, row.length = headings.length) {index : Nat}
    (within : index < headings.length) :
    entries headings rows index = headings[index] :: rows.map fun row => row.getD index "" := by
  have cells : rows.filterMap (fun row => row[index]?) =
      rows.filterMap (some ∘ fun row => row.getD index "") :=
    List.filterMap_congr fun row member => by
      have inRow : index < row.length := (even row member).symm ▸ within
      simp [inRow]
  rw [entries, cells, List.filterMap_eq_map, List.getElem?_eq_getElem within]
  rfl

variable (paired : headings.length = names.length)
variable (even : ∀ row ∈ rows, row.length = names.length)

section Rendered

include even

theorem columnCount_of_even : columnCount names rows = names.length := by
  unfold columnCount
  induction rows with
  | nil => rfl
  | cons row rest induction =>
      rw [List.forall_mem_cons] at even
      rw [List.foldl_cons, even.1, Nat.max_self, induction even.2]

theorem map_fillUp_of_even : rows.map (fillUp names.length) = texts rows :=
  List.map_congr_left fun row member => by rw [← even row member, fillUp_length]

theorem renderAs_of_even : renderAs names headings rows =
    String.ofList (draw (columnsAs names headings rows) (texts rows)) := by
  rw [renderAs, columnsFor, columnCount_of_even even, map_fillUp_of_even even, columnsAs]

theorem any_shorter : rows.any (fun row => row.length < names.length) = false := by
  rw [List.any_eq_false]
  intro row member
  simp [even row member]

theorem render?_of_even :
    render? names rows = some (String.ofList (draw (columns names rows) (texts rows))) := by
  rw [render?, any_shorter even, render, renderAs_of_even even]
  rfl

section Print

variable {library : Heading.Library}

theorem print_of_unread {incident : Incident}
    (unread : names.mapM (Heading.read library) = .error incident) :
    print library names rows = .error incident := by
  rw [print, any_shorter even, if_neg Bool.false_ne_true, unread]

theorem print_of_flaw {titles : List Heading} {flaw : Incident}
    (read : names.mapM (Heading.read library) = .ok titles)
    (found : flaw? library names titles rows = some flaw) :
    print library names rows = .error flaw := by
  simp only [print, any_shorter even, read, found]
  rfl

theorem print_of_flawless {titles : List Heading}
    (read : names.mapM (Heading.read library) = .ok titles)
    (flawless : flaw? library names titles rows = none) :
    print library names rows = .ok (renderAs names (titles.map Heading.text) rows) := by
  simp only [print, any_shorter even, read, flawless]
  rfl

end Print

/-- Under such names as the reports have, a table is printed as it is rendered. -/
theorem print_eq_render (library : Heading.Library)
    (literal : ∀ name ∈ names, '[' ∉ name.toList ∧ ':' ∉ name.toList) :
    print library names rows = .ok (render names rows) := by
  rw [print_of_flawless even (mapM_read library literal) (flaw?_plainHeadings library names rows),
    map_text_plainHeadings, render]

end Rendered

include paired even

theorem columnsAs_entries {index : Nat} {column : Column}
    (found : (columnsAs names headings rows)[index]? = some column) :
    column.name :: column.cells = (entries names rows index).map String.toList ∧
      column.heading :: column.cells = (entries headings rows index).map String.toList := by
  rw [getElem?_columnsAs paired] at found
  obtain ⟨heading, standing, rfl⟩ := Option.map_eq_some_iff.mp found
  obtain ⟨shown, rfl⟩ := List.getElem?_eq_some_iff.mp standing
  have within : index < names.length := paired ▸ shown
  have evenToo : ∀ row ∈ rows, row.length = headings.length := fun row member =>
    (even row member).trans paired.symm
  have cells : (texts rows).map (fun row => row.getD index []) =
      (rows.map fun row => row.getD index "").map String.toList := by
    rw [texts, List.map_map, List.map_map]
    exact List.map_congr_left fun row _ => by cases found : row[index]? <;> simp [found]
  have name : names.getD index "" = names[index] := by simp [within]
  dsimp only
  rw [cells, entries_of_even even within, entries_of_even evenToo shown, name]
  exact ⟨rfl, rfl⟩

theorem mem_column_iff {index : Nat} {column : Column}
    (found : (columnsAs names headings rows)[index]? = some column) {s : List Char} :
    s ∈ column.heading :: column.cells ↔
      ∃ text ∈ entries headings rows index, text.toList = s := by
  rw [(columnsAs_entries paired even found).2]
  exact List.mem_map

theorem rooms_columnsAs : rooms (columnsAs names headings rows) = spreads headings rows :=
  map_columnsAs paired fun index column found => by
    rw [Column.room, (columnsAs_entries paired even found).2, List.map_map]
    rfl

theorem lengths_columnsAs :
    (columnsAs names headings rows).map Column.length = widths names rows := by
  rw [widths, ← paired]
  refine map_columnsAs paired fun index column found => ?_
  rw [Column.length, (columnsAs_entries paired even found).1, List.map_map]
  exact congrArg (List.foldl max 0) (List.map_congr_left fun text _ => String.length_toList)

/-- The page that is measured for a table goes by the lengths of its texts. -/
theorem pageOf_columnsAs :
    pageOf (columnsAs names headings rows) = gridWidth (widths names rows) := by
  rw [pageOf_unwrapped (unwrapped_columnsAs paired), lengths_columnsAs paired even]

theorem pageFor_columnsAs : pageFor (columnsAs names headings rows) = pageNeeded names rows := by
  rw [pageFor, pageOf_columnsAs paired even]
  rfl

section Inked

variable (inkedHeadings : ∀ heading ∈ headings, Inked heading.toList)
variable (inkedRows : ∀ row ∈ rows, ∀ text ∈ row, Inked text.toList)
include inkedHeadings inkedRows

theorem inked_columns : ∀ column ∈ columnsAs names headings rows, column.Inked := by
  intro column member s inColumn
  obtain ⟨index, found⟩ := List.getElem?_of_mem member
  obtain ⟨text, inEntries, rfl⟩ := (mem_column_iff paired even found).mp inColumn
  exact forall_entries inkedHeadings inkedRows index text inEntries

theorem held_columns :
    ∀ row ∈ texts rows, List.Forall₂ Column.Has (columnsAs names headings rows) row := by
  intro _ member
  obtain ⟨row, inRows, rfl⟩ := List.mem_map.mp member
  rw [List.forall₂_iff_get]
  refine ⟨by rw [length_columnsAs paired, List.length_map, even row inRows, paired], ?_⟩
  intro index within inRow
  have found : (columnsAs names headings rows)[index]? =
      some (columnsAs names headings rows)[index] :=
    List.getElem?_eq_getElem within
  have shorter : index < row.length := by simpa using inRow
  refine ⟨inked_columns paired even inkedHeadings inkedRows _ (List.getElem_mem within), ?_⟩
  refine (mem_column_iff paired even found).mpr ⟨row[index], ?_, by simp⟩
  rw [entries, List.mem_append, List.mem_filterMap]
  exact .inr ⟨row, inRows, List.getElem?_eq_getElem shorter⟩

end Inked

end Even

/-! Rows that are shown whole. -/

/-- A line in which some texts stand, one behind the other. -/
inductive Shows : List Char → List (List Char) → Prop
  | none (line : List Char) : Shows line []
  | next (before : List Char) {text after : List Char} {rest : List (List Char)}
      (shown : Shows after rest) : Shows (before ++ text ++ after) (text :: rest)

namespace Shows

variable {line : List Char} {row : List (List Char)}

theorem behind (shown : Shows line row) (early : List Char) : Shows (early ++ line) row := by
  cases shown with
  | none => exact .none _
  | next before shown =>
      rw [← List.append_assoc, ← List.append_assoc]
      exact .next (early ++ before) shown

/-- No line shows more than it has room for. -/
theorem cells_le (shown : Shows line row) : (row.map cells).sum ≤ cells line := by
  induction shown with
  | none line => exact Nat.zero_le _
  | next before _ induction =>
      rw [List.map_cons, List.sum_cons, cells_append, cells_append]
      omega

end Shows

theorem entryLine_cons (border : Char) (room : Nat) (rooms : List Nat) (s : List Char)
    (row : List (List Char)) : entryLine border (room :: rooms) (s :: row) =
      border :: framed room s ++ entryLine border rooms row := by
  simp [entryLine]

theorem shows_entryLine (border : Char) {rooms : List Nat} {row : List (List Char)}
    (fitting : Fitting rooms row) : Shows (entryLine border rooms row) row := by
  induction fitting with
  | nil => exact .none _
  | @cons room s rooms row _ _ induction =>
      have split : entryLine border (room :: rooms) (s :: row) = [border, ' '] ++ s
          ++ (List.replicate (room - cells s) ' ' ++ [' '] ++ entryLine border rooms row) := by
        rw [entryLine_cons]
        simp [framed]
      rw [split]
      exact .next _ (induction.behind _)

theorem getElem?_grid (rooms : List Nat) (headings : List (List Char))
    (rows : List (List (List Char))) (index : Nat) {row : List (List Char)}
    (found : rows[index]? = some row) :
    (grid rooms headings rows)[index + 3]? = some (entryLine '│' rooms row) := by
  have within : index < rows.length := (List.getElem?_eq_some_iff.mp found).1
  rw [grid, List.getElem?_append_left (by simp; omega)]
  simp [found]

section Whole

variable (names headings : List String) (rows : List (List String))

/-- What shows of a table. Nothing is abridged if and only if the page has room for the widest
texts of all columns next to each other, and then the texts of a row all stand in its line. Texts of
wide characters may be lost, for which the page is not measured. -/
structure Shown (output : String) : Prop where
  count : (lines output.toList).length = rows.length + 4
  whole : lines output.toList =
      grid (spreads headings rows) (headings.map String.toList) (texts rows) ↔
    gridWidth (spreads headings rows) ≤ pageNeeded names rows
  each : gridWidth (spreads headings rows) ≤ pageNeeded names rows →
    ∀ index row, rows[index]? = some row →
      ∃ line, (lines output.toList)[index + 3]? = some line ∧ Shows line (row.map String.toList)
  lost : ∀ row ∈ rows, pageNeeded names rows < (row.map fun text => cells text.toList).sum →
    ∀ line ∈ lines output.toList, ¬ Shows line (row.map String.toList)

variable {names headings rows}
variable (some_names : names ≠ []) (paired : headings.length = names.length)
variable (even : ∀ row ∈ rows, row.length = names.length)
variable (inkedHeadings : ∀ heading ∈ headings, Inked heading.toList)
variable (inkedRows : ∀ row ∈ rows, ∀ text ∈ row, Inked text.toList)
include some_names paired

theorem columnsAs_ne_nil : columnsAs names headings rows ≠ [] := by
  intro empty
  have none := length_columnsAs paired rows
  rw [empty, paired] at none
  exact some_names (List.length_eq_zero_iff.mp none.symm)

include even inkedHeadings inkedRows

theorem within_of_draw_columnsAs :
    ∀ line ∈ lines (draw (columnsAs names headings rows) (texts rows)),
      cells line ≤ pageNeeded names rows := by
  rw [← pageFor_columnsAs paired even]
  exact within_of_draw (columnsAs_ne_nil some_names paired) (unwrapped_columnsAs paired)
    (inked_columns paired even inkedHeadings inkedRows)
    (held_columns paired even inkedHeadings inkedRows)

theorem shown_draw : Shown names headings rows
    (String.ofList (draw (columnsAs names headings rows) (texts rows))) := by
  have some_columns : columnsAs names headings rows ≠ [] := columnsAs_ne_nil some_names paired
  have unwrapped : ∀ column ∈ columnsAs names headings rows, column.wraps = false :=
    unwrapped_columnsAs paired
  have inked := inked_columns paired even inkedHeadings inkedRows
  have held := held_columns paired even inkedHeadings inkedRows
  have whole := lines_draw_eq_grid_iff some_columns unwrapped inked held
  rw [map_heading_columnsAs paired, rooms_columnsAs paired even, pageFor_columnsAs paired even]
    at whole
  constructor
  all_goals rw [String.toList_ofList]
  case count =>
    rw [length_lines_draw some_columns unwrapped inked held]
    simp [texts]
  case whole => exact whole
  case each =>
    intro fits index row found
    have standing : (texts rows)[index]? = some (row.map String.toList) := by simp [texts, found]
    rw [whole.mpr fits]
    refine ⟨_, getElem?_grid _ _ _ index standing, shows_entryLine _ ?_⟩
    rw [← rooms_columnsAs paired even]
    exact fitting_of_has (held _ (List.mem_of_getElem? standing))
  case lost =>
    intro row _ wide line member shown
    have within := within_of_draw_columnsAs some_names paired even inkedHeadings inkedRows
    have needed := shown.cells_le
    rw [List.map_map] at needed
    exact absurd (wide.trans_le needed) (Nat.not_lt.mpr (within line member))

end Whole

/-- A table is printed if its names can be read as markup and the styles in them can be drawn. Then
every row of it takes one line, and rows are whole if the page has the room. -/
theorem rows_whole_of_fits (library : Heading.Library) {names : List String}
    {rows : List (List String)} (some_names : names ≠ [])
    (even : ∀ row ∈ rows, row.length = names.length)
    (inkedRows : ∀ row ∈ rows, ∀ text ∈ row, Inked text.toList) :
    (∀ incident, names.mapM (Heading.read library) = .error incident →
      print library names rows = .error incident) ∧
    ∀ headings, names.mapM (Heading.read library) = .ok headings →
      (∀ flaw, flaw? library names headings rows = some flaw →
        print library names rows = .error flaw) ∧
      (flaw? library names headings rows = none →
        (∀ heading ∈ headings, Inked heading.text.toList) →
        ∃ output, print library names rows = .ok output ∧
          Shown names (headings.map Heading.text) rows output) := by
  refine ⟨fun _ => print_of_unread even, fun headings read =>
    ⟨fun _ => print_of_flaw even read, fun flawless inked => ?_⟩⟩
  have paired : (headings.map Heading.text).length = names.length := by
    rw [List.length_map, length_of_mapM read]
  refine ⟨_, print_of_flawless even read flawless, ?_⟩
  rw [renderAs_of_even even]
  exact shown_draw some_names paired even (List.forall_mem_map.mpr inked) inkedRows

/-- A text of wide characters that is twice as wide as it is long, and wider than a page. -/
def wideText : String :=
  String.ofList (List.replicate 100 '名')

theorem toList_wideText : wideText.toList = List.replicate 100 '名' :=
  String.toList_ofList

theorem cellWidth_wide : cellWidth '名' = 2 := by decide +kernel

theorem cells_wideText : cells wideText.toList = 200 := by
  rw [toList_wideText, cells_replicate, cellWidth_wide]

theorem inked_wideText : Inked wideText.toList := by
  intro c member
  rw [toList_wideText] at member
  rw [List.eq_of_mem_replicate member, cellWidth_wide]
  decide

theorem inked_wideRows : ∀ row ∈ [["a"], [wideText]], ∀ text ∈ row, Inked text.toList := by
  have narrow : Inked ['a'] := by decide
  simp [narrow, inked_wideText]

theorem pageNeeded_wideText : pageNeeded ["Name"] [["a"], [wideText]] = 160 := by
  have long : wideText.length = 100 := by
    rw [← String.length_toList, toList_wideText, List.length_replicate]
  have short : "Name".length = 4 ∧ "a".length = 1 := by decide
  have measured : widths ["Name"] [["a"], [wideText]] = [100] := by
    simp [widths, entries, List.range_succ, long, short]
  rw [pageNeeded, measured]
  decide

/-- A color that cannot be made out. -/
def colorFlaw : Incident :=
  ⟨"ValueError", [.string "invalid literal for int() with base 10: ''"], []⟩

/-- No symbols, one spelling of a style but for blanks around it, and one color that is known and
cannot be made out. -/
def plainLibrary : Heading.Library where
  symbol? _ := none
  style name := .ok (trim name)
  handlerFlaw? _ := none
  styleFlaw? style := if style = "bold rgb(,,1)".toList then some colorFlaw else none

theorem rows_whole_of_fits_mixed :
    (∃ output line, print plainLibrary ["Name", "Url"] [["名前", "x"], ["", "y z"]] = .ok output ∧
      (lines output.toList)[3]? = some line ∧ Shows line ["名前".toList, "x".toList]) ∧
    (∃ output, print plainLibrary ["Name"] [["a"], [wideText]] = .ok output ∧
      (lines output.toList).length = 6 ∧
      ∀ line ∈ lines output.toList, ¬ Shows line [wideText.toList]) ∧
    (∃ incident, print plainLibrary ["[/a]"] [["a"]] = .error incident ∧
      incident.name = "MarkupError") ∧
    print plainLibrary ["[bold=rgb(,,1)]"] [["a"]] = .error colorFlaw := by
  refine ⟨?_, ?_, ?_, ?_⟩
  · have printed := (@rows_whole_of_fits plainLibrary ["Name", "Url"] [["名前", "x"], ["", "y z"]]
      (by decide) (by decide) (by decide +kernel)).2 _ (mapM_read _ (by decide))
    obtain ⟨output, printed, shown⟩ := printed.2 (flaw?_plainHeadings _ _ _) (by decide +kernel)
    obtain ⟨line, found, whole⟩ := shown.each (by decide +kernel) 0 _ rfl
    exact ⟨output, line, printed, found, whole⟩
  · have printed := (@rows_whole_of_fits plainLibrary ["Name"] [["a"], [wideText]]
      (by decide) (by decide) inked_wideRows).2 _ (mapM_read _ (by decide))
    obtain ⟨output, printed, shown⟩ := printed.2 (flaw?_plainHeadings _ _ _) (by decide +kernel)
    refine ⟨output, printed, shown.count, shown.lost [wideText] (by simp) ?_⟩
    rw [pageNeeded_wideText, List.map_singleton, cells_wideText]
    decide
  · exact ⟨_, (rows_whole_of_fits plainLibrary (by decide) (by decide) (by decide +kernel)).1 _
      (by rfl), by rfl⟩
  · let mark : Heading.Mark := ⟨0, "bold rgb(,,1)".toList⟩
    let tag : Heading.Tag := ⟨"bold".toList, some "rgb(,,1)".toList⟩
    have finished : (⟨[], [(0, tag)], []⟩ : Heading.Reading).finish = ⟨"", [mark]⟩ := by
      decide +kernel
    have first : Heading.read plainLibrary "[bold=rgb(,,1)]" = .ok ⟨"", [mark]⟩ :=
      congrArg Except.ok finished
    have read : ["[bold=rgb(,,1)]"].mapM (Heading.read plainLibrary) = .ok [⟨"", [mark]⟩] := by
      rw [List.mapM_cons, first]
      rfl
    have drawn : marksFor ["[bold=rgb(,,1)]"] [⟨"", [mark]⟩] [["a"]] = [mark] := by
      decide +kernel
    refine ((rows_whole_of_fits plainLibrary (by decide) (by decide) (by decide +kernel)).2 _
      read).1 colorFlaw ?_
    rw [flaw?, drawn]
    rfl

/-- Wide characters are lost where a table has more of them than its page has cells to spare. -/
theorem not_rows_whole_wideText :
    ¬ ∀ (names : List String) (rows : List (List String)), names ≠ [] →
      (∀ row ∈ rows, row.length = names.length) →
      (∀ name ∈ names, Inked name.toList) →
      (∀ row ∈ rows, ∀ text ∈ row, Inked text.toList) →
      ∃ output, print plainLibrary names rows = .ok output ∧
        ∀ row ∈ rows, ∃ line ∈ lines output.toList, Shows line (row.map String.toList) := by
  intro always
  have even : ∀ row ∈ [["a"], [wideText]], row.length = ["Name"].length := by decide
  have inkedName : ∀ name ∈ ["Name"], Inked name.toList := by decide +kernel
  obtain ⟨output, printed, whole⟩ := always ["Name"] [["a"], [wideText]] (by decide) even
    inkedName inked_wideRows
  obtain ⟨line, member, shown⟩ := whole [wideText] (by simp)
  rw [print_eq_render even plainLibrary (by decide), render, renderAs_of_even even] at printed
  obtain rfl := Except.ok.inj printed
  rw [String.toList_ofList] at member
  have within := within_of_draw_columnsAs (by decide) rfl even inkedName inked_wideRows line member
  have needed := shown.cells_le
  rw [pageNeeded_wideText] at within
  rw [List.map_singleton, List.map_singleton, cells_wideText] at needed
  exact absurd (needed.trans within) (by decide)

end GraphConsole.Table
