import GraphConsole.Proofs.Outcome.Abridgement

/-! Tables of texts in which every character takes one cell. All lines are equally long, and each
text stands in its column, from where it can be read back. -/

namespace GraphConsole.Table

open GraphConsole.Text

/-- As many cells as characters. -/
def Narrow (s : List Char) : Prop :=
  ∀ c ∈ s, cellWidth c = 1

instance (s : List Char) : Decidable (Narrow s) :=
  List.decidableBAll (fun c => cellWidth c = 1) s

theorem Narrow.inked {s : List Char} (narrow : Narrow s) : Inked s := by
  intro c member
  rw [narrow c member]
  decide

theorem Narrow.cells_eq {s : List Char} (narrow : Narrow s) : cells s = s.length := by
  induction s with
  | nil => rfl
  | cons c rest induction =>
      rw [Narrow, List.forall_mem_cons] at narrow
      rw [cells_cons, narrow.1, induction narrow.2, List.length_cons, Nat.add_comm]

theorem visible_of_isAlphanum {c : Char} (alphanum : c.isAlphanum = true) :
    32 ≤ c.toNat ∧ c.toNat < 127 := by
  rw [isAlphanum_iff, isAlpha_iff, isDigit_iff] at alphanum
  omega

theorem narrow_alphanum {s : List Char} (plain : ∀ c ∈ s, c.isAlphanum = true ∨ c = ' ') :
    Narrow s := by
  intro c member
  obtain alphanum | rfl := plain c member
  · have visible := visible_of_isAlphanum alphanum
    exact cellWidth_ascii c visible.1 visible.2
  · exact cellWidth_blank

theorem narrow_framed {room : Nat} {s : List Char} (narrow : Narrow s) :
    Narrow (framed room s) := by
  intro c member
  simp only [framed, List.mem_cons, List.mem_append, List.mem_replicate, List.not_mem_nil,
    or_false] at member
  obtain rfl | (inText | ⟨_, rfl⟩) | rfl := member
  · exact cellWidth_blank
  · exact narrow c inText
  · exact cellWidth_blank
  · exact cellWidth_blank

theorem length_framed {room : Nat} {s : List Char} (narrow : Narrow s) (fits : cells s ≤ room) :
    (framed room s).length = room + 2 := by
  rw [← (narrow_framed narrow).cells_eq, cells_framed fits]

theorem narrow_entryLine {border : Char} (box : border ∈ boxChars) (rooms : List Nat)
    {row : List (List Char)} (narrow : ∀ s ∈ row, Narrow s) :
    Narrow (entryLine border rooms row) := by
  have edge := (shown_boxChars border box).1
  intro c member
  simp only [entryLine, List.mem_cons, List.mem_flatMap, List.mem_append, List.not_mem_nil,
    or_false] at member
  obtain rfl | ⟨⟨room, s⟩, inZip, inFrame | rfl⟩ := member
  · exact edge
  · exact narrow_framed (narrow s (List.of_mem_zip inZip).2) c inFrame
  · exact edge

theorem narrow_ruleLine {left bar middle right : Char}
    (boxes : [left, bar, middle, right] ⊆ boxChars) (rooms : List Nat) :
    Narrow (ruleLine left bar middle right rooms) := by
  intro c member
  refine (shown_boxChars c (boxes ?_)).1
  rw [ruleLine, List.mem_cons, List.mem_append, List.mem_singleton] at member
  obtain rfl | inner | rfl := member
  · simp
  · obtain inMark | ⟨_, inBars, inBar⟩ := mem_join inner
    · simp [List.mem_singleton.mp inMark]
    · obtain ⟨room, _, rfl⟩ := List.mem_map.mp inBars
      simp [List.eq_of_mem_replicate inBar]
  · simp

/-! Columns of a line. -/

/-- Where the column of an index begins, with its border. -/
def offset (widths : List Nat) (index : Nat) : Nat :=
  ((widths.take index).map (· + 3)).sum

/-- A line in which every text stands in its column, with blanks behind it as far as the column is
wider. -/
structure Aligned (border : Char) (widths : List Nat) (row : List String) (line : List Char) :
    Prop where
  column : ∀ (index width : Nat) (text : String), widths[index]? = some width →
    row[index]? = some text →
    (line.drop (offset widths index)).take (width + 3) =
      [border, ' '] ++ text.toList ++ List.replicate (width - text.length) ' ' ++ [' ']
  reads : ∀ (index width : Nat) (text : String), widths[index]? = some width →
    row[index]? = some text →
    dropTrailing (· == ' ') ((line.drop (offset widths index + 2)).take width) =
      dropTrailing (· == ' ') text.toList
  closed : line.getLast? = some border

theorem slice_entryLine (border : Char) {rooms : List Nat} {row : List (List Char)}
    (fitting : Fitting rooms row) (narrow : ∀ s ∈ row, Narrow s) {index room : Nat}
    {s : List Char} (given : rooms[index]? = some room) (standing : row[index]? = some s) :
    ((entryLine border rooms row).drop (offset rooms index)).take (room + 3) =
      border :: framed room s := by
  induction fitting generalizing index with
  | nil => cases given
  | @cons first text rooms row fits _ induction =>
      rw [List.forall_mem_cons] at narrow
      have whole : (border :: framed first text).length = first + 3 := by
        rw [List.length_cons, length_framed narrow.1 fits.2]
      rw [entryLine_cons]
      cases index with
      | zero =>
          cases given
          cases standing
          exact List.take_left' whole
      | succ index =>
          have begins : offset (first :: rooms) (index + 1) = first + 3 + offset rooms index := by
            simp [offset]
          rw [begins, ← List.drop_drop, List.drop_left' whole]
          exact induction narrow.2 given standing

/-- Blanks behind a text make no difference where trailing blanks are dropped. -/
theorem dropTrailing_padded (s : List Char) (count : Nat) :
    dropTrailing (· == ' ') (s ++ List.replicate count ' ') = dropTrailing (· == ' ') s := by
  induction count with
  | zero => simp
  | succ count induction =>
      rw [List.replicate_succ', ← List.append_assoc]
      exact (List.rdropWhile_concat_pos _ _ _ (by decide)).trans induction

theorem fits_of_getElem? {rooms : List Nat} {row : List (List Char)} (fitting : Fitting rooms row)
    {index room : Nat} {s : List Char} (given : rooms[index]? = some room)
    (standing : row[index]? = some s) : cells s ≤ room := by
  obtain ⟨withinRooms, rfl⟩ := List.getElem?_eq_some_iff.mp given
  obtain ⟨withinRow, rfl⟩ := List.getElem?_eq_some_iff.mp standing
  exact (fitting.get withinRooms withinRow).2

theorem aligned_entryLine (border : Char) {rooms : List Nat} {row : List String}
    (fitting : Fitting rooms (row.map String.toList)) (narrow : ∀ text ∈ row, Narrow text.toList) :
    Aligned border rooms row (entryLine border rooms (row.map String.toList)) := by
  have slices {index room : Nat} {text : String} (given : rooms[index]? = some room)
      (standing : row[index]? = some text) : text.length ≤ room ∧
      ((entryLine border rooms (row.map String.toList)).drop (offset rooms index)).take (room + 3) =
        [border, ' '] ++ text.toList ++ List.replicate (room - text.length) ' ' ++ [' '] := by
    have listed : (row.map String.toList)[index]? = some text.toList := by simp [standing]
    have count : cells text.toList = text.length :=
      (narrow text (List.mem_of_getElem? standing)).cells_eq
    constructor
    · exact count ▸ fits_of_getElem? fitting given listed
    · rw [slice_entryLine border fitting (by simpa using narrow) given listed, framed, count]
      simp
  constructor
  case column => exact fun index room text given standing => (slices given standing).2
  case reads =>
    intro index room text given standing
    obtain ⟨fits, slice⟩ := slices given standing
    have whole : (text.toList ++ List.replicate (room - text.length) ' ').length = room := by
      rw [List.length_append, List.length_replicate, String.length_toList]
      omega
    have inner : ((entryLine border rooms (row.map String.toList)).drop
        (offset rooms index + 2)).take room =
        text.toList ++ List.replicate (room - text.length) ' ' := by
      have cut := congrArg (fun line => (line.drop 2).take room) slice
      simp only [List.drop_take, List.drop_drop, List.take_take] at cut
      rw [Nat.min_eq_left (by omega)] at cut
      rw [cut]
      exact List.take_left' whole
    rw [inner, dropTrailing_padded]
  case closed => exact getLast?_entryLine border rooms _

/-! Whole tables. -/

/-- The lines of a table. Four stand around its rows, all are equally long, and the texts of a
column stand one below the other. -/
structure Laid (widths : List Nat) (headings : List String) (rows : List (List String))
    (drawn : List (List Char)) : Prop where
  count : drawn.length = rows.length + 4
  length : ∀ line ∈ drawn, line.length = gridWidth widths
  top : drawn[0]? = some (ruleLine '┏' '━' '┳' '┓' widths)
  heading : ∃ line, drawn[1]? = some line ∧ Aligned '┃' widths headings line
  middle : drawn[2]? = some (ruleLine '┡' '━' '╇' '┩' widths)
  row : ∀ index row, rows[index]? = some row →
    ∃ line, drawn[index + 3]? = some line ∧ Aligned '│' widths row line
  bottom : drawn[rows.length + 3]? = some (ruleLine '└' '─' '┴' '┘' widths)

theorem laid_grid {rooms : List Nat} (some_rooms : rooms ≠ []) {headings : List String}
    {rows : List (List String)} (fitting : Fitting rooms (headings.map String.toList))
    (fittingRows : ∀ row ∈ rows, Fitting rooms (row.map String.toList))
    (narrow : ∀ heading ∈ headings, Narrow heading.toList)
    (narrowRows : ∀ row ∈ rows, ∀ text ∈ row, Narrow text.toList) :
    Laid rooms headings rows (grid rooms (headings.map String.toList) (texts rows)) := by
  have ruleLength {left bar middle right : Char} (boxes : [left, bar, middle, right] ⊆ boxChars) :
      (ruleLine left bar middle right rooms).length = gridWidth rooms := by
    rw [← (narrow_ruleLine boxes rooms).cells_eq, cells_ruleLine some_rooms boxes]
  have entryLength {border : Char} (box : border ∈ boxChars) {row : List String}
      (fittingRow : Fitting rooms (row.map String.toList))
      (narrowRow : ∀ text ∈ row, Narrow text.toList) :
      (entryLine border rooms (row.map String.toList)).length = gridWidth rooms := by
    have narrowTexts : ∀ s ∈ row.map String.toList, Narrow s := by simpa using narrowRow
    rw [← (narrow_entryLine box rooms narrowTexts).cells_eq, cells_entryLine fittingRow box]
  constructor
  case count => simp [grid, texts]
  case length =>
    intro line member
    simp only [grid, List.mem_append, List.mem_cons, List.not_mem_nil, or_false, List.mem_map,
      texts, exists_exists_and_eq_and] at member
    obtain ((rfl | rfl | rfl) | ⟨row, inRows, rfl⟩) | rfl := member
    · exact ruleLength (by simp [boxChars])
    · exact entryLength (by simp [boxChars]) fitting narrow
    · exact ruleLength (by simp [boxChars])
    · exact entryLength (by simp [boxChars]) (fittingRows row inRows) (narrowRows row inRows)
    · exact ruleLength (by simp [boxChars])
  case top => rfl
  case heading => exact ⟨_, rfl, aligned_entryLine '┃' fitting narrow⟩
  case middle => rfl
  case row =>
    intro index row found
    have standing : (texts rows)[index]? = some (row.map String.toList) := by simp [texts, found]
    have member := List.mem_of_getElem? found
    exact ⟨_, getElem?_grid _ _ _ index standing,
      aligned_entryLine '│' (fittingRows row member) (narrowRows row member)⟩
  case bottom =>
    have before : ([ruleLine '┏' '━' '┳' '┓' rooms,
        entryLine '┃' rooms (headings.map String.toList), ruleLine '┡' '━' '╇' '┩' rooms]
          ++ (texts rows).map (entryLine '│' rooms)).length = rows.length + 3 := by
      simp [texts]
    rw [grid, ← before]
    exact List.getElem?_concat_length

theorem rooms_columns {headings : List String} {rows : List (List String)}
    (even : ∀ row ∈ rows, row.length = headings.length)
    (narrow : ∀ heading ∈ headings, Narrow heading.toList)
    (narrowRows : ∀ row ∈ rows, ∀ text ∈ row, Narrow text.toList) :
    rooms (columns headings rows) = widths headings rows := by
  rw [rooms_columnsAs rfl even]
  refine List.map_congr_left fun index _ => congrArg (List.foldl max 0) ?_
  refine List.map_congr_left fun text inEntries => ?_
  rw [← String.length_toList]
  exact (forall_entries narrow narrowRows index text inEntries : Narrow text.toList).cells_eq

/-- A table of narrow texts is a grid. All lines are as long as the page that is measured for the
table, wider than the usual page or not, and each text can be read back from its column. -/
theorem render_laid {headings : List String} {rows : List (List String)}
    (some_headings : headings ≠ []) (even : ∀ row ∈ rows, row.length = headings.length)
    (plain : ∀ heading ∈ headings, ∀ c ∈ heading.toList, c.isAlphanum = true ∨ c = ' ')
    (narrowRows : ∀ row ∈ rows, ∀ text ∈ row, Narrow text.toList) :
    ∃ output, render? headings rows = some output ∧
      output.toList = join ['\n'] (lines output.toList) ∧
      Laid (widths headings rows) headings rows (lines output.toList) ∧
      gridWidth (widths headings rows) = pageOf (columns headings rows) := by
  have narrow : ∀ heading ∈ headings, Narrow heading.toList := fun heading member =>
    narrow_alphanum (plain heading member)
  have inkedHeadings : ∀ heading ∈ headings, Inked heading.toList := fun heading member =>
    (narrow heading member).inked
  have inkedRows : ∀ row ∈ rows, ∀ text ∈ row, Inked text.toList := fun row inRows text inRow =>
    (narrowRows row inRows text inRow).inked
  have some_columns : columns headings rows ≠ [] := columnsAs_ne_nil some_headings rfl
  have unwrapped : ∀ column ∈ columns headings rows, column.wraps = false :=
    unwrapped_columnsAs rfl
  have inked := inked_columns rfl even inkedHeadings inkedRows
  have held := held_columns rfl even inkedHeadings inkedRows
  have same := rooms_columns even narrow narrowRows
  have measured := pageOf_columnsAs rfl even
  have fits : gridWidth (rooms (columns headings rows)) ≤ pageFor (columns headings rows) := by
    rw [same, ← measured]
    exact Nat.le_max_right _ _
  have drawn := draw_of_fits some_columns unwrapped inked held fits
  have whole := (lines_draw_eq_grid_iff some_columns unwrapped inked held).mpr fits
  rw [← whole] at drawn
  have fitting : Fitting (widths headings rows) (headings.map String.toList) := by
    rw [← same, ← map_heading_columnsAs rfl rows]
    exact fitting_of_has (held_headings inked)
  have fittingRows : ∀ row ∈ rows, Fitting (widths headings rows) (row.map String.toList) := by
    intro row member
    rw [← same]
    exact fitting_of_has (held _ (List.mem_map_of_mem member))
  have some_rooms : widths headings rows ≠ [] := by
    rw [← same]
    simpa [rooms] using some_columns
  refine ⟨_, render?_of_even even, ?_⟩
  rw [String.toList_ofList]
  refine ⟨drawn, ?_, measured.symm⟩
  rw [whole, same, map_heading_columnsAs rfl]
  exact laid_grid some_rooms fitting fittingRows narrow narrowRows

/-- A narrow text that is longer than a page is wide. -/
def longText : String :=
  String.ofList (List.replicate 200 '/')

theorem toList_longText : longText.toList = List.replicate 200 '/' :=
  String.toList_ofList

theorem narrow_longText : Narrow longText.toList := by
  have shown : cellWidth '/' = 1 := by decide
  intro c member
  rw [toList_longText] at member
  rw [List.eq_of_mem_replicate member, shown]

theorem widths_longText : widths ["Name", "Url"] [["a b", longText], ["", "c"]] = [4, 200] := by
  have long : longText.length = 200 := by
    rw [← String.length_toList, toList_longText, List.length_replicate]
  have names : "Name".length = 4 ∧ "Url".length = 3 := by decide
  have cells : "a b".length = 3 ∧ "c".length = 1 := by decide
  simp [widths, entries, List.range_succ, long, names, cells]

theorem render_laid_long :
    ∃ output, render? ["Name", "Url"] [["a b", longText], ["", "c"]] = some output ∧
      (lines output.toList).length = 6 ∧
      (∀ line ∈ lines output.toList, line.length = 211) ∧
      ∃ line, (lines output.toList)[3]? = some line ∧
        dropTrailing (· == ' ') ((line.drop 9).take 200) =
          dropTrailing (· == ' ') longText.toList := by
  have narrowRows : ∀ row ∈ [["a b", longText], ["", "c"]], ∀ text ∈ row, Narrow text.toList := by
    have first : Narrow "a b".toList := by decide
    have second : Narrow "".toList ∧ Narrow "c".toList := by decide
    simp only [List.forall_mem_cons]
    exact ⟨⟨first, narrow_longText, nofun⟩, ⟨second.1, second.2, nofun⟩, nofun⟩
  have plain : ∀ heading ∈ ["Name", "Url"], ∀ c ∈ heading.toList,
      c.isAlphanum = true ∨ c = ' ' := by
    have checked : ["Name", "Url"].all (fun heading =>
        heading.toList.all fun c => c.isAlphanum || c == ' ') = true := by decide
    simpa only [List.all_eq_true, Bool.or_eq_true, beq_iff_eq] using checked
  obtain ⟨output, rendered, _, laid, _⟩ := render_laid (by decide) (by simp) plain narrowRows
  rw [widths_longText] at laid
  obtain ⟨line, found, aligned⟩ := laid.row 0 _ rfl
  exact ⟨output, rendered, laid.count, laid.length, line, found,
    aligned.reads 1 200 longText rfl rfl⟩

end GraphConsole.Table
