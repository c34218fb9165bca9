import GraphConsole.Text.Blank
import GraphConsole.Text.Decimal
import GraphConsole.Text.Lines
import Mathlib.Data.List.DropRight

/-! Where texts are cut: at the blanks around them, at a mark within them, and at the ends of their
lines. -/

namespace GraphConsole.Text

/-! Characters by their numbers. -/

theorem toNat_ofNat {n : Nat} (valid : n.isValidChar) : (Char.ofNat n).toNat = n := by
  rw [Char.ofNat, dif_pos valid]
  rfl

theorem isAlpha_iff (c : Char) : c.isAlpha = true ↔
    (65 ≤ c.toNat ∧ c.toNat ≤ 90) ∨ (97 ≤ c.toNat ∧ c.toNat ≤ 122) := by
  have upper : c.isUpper = true ↔ 65 ≤ c.toNat ∧ c.toNat ≤ 90 := decide_eq_true_iff
  have lower : c.isLower = true ↔ 97 ≤ c.toNat ∧ c.toNat ≤ 122 :=
    Bool.and_eq_true_iff.trans (and_congr decide_eq_true_iff decide_eq_true_iff)
  exact Bool.or_eq_true_iff.trans (or_congr upper lower)

theorem isDigit_iff (c : Char) : c.isDigit = true ↔ 48 ≤ c.toNat ∧ c.toNat ≤ 57 :=
  Bool.and_eq_true_iff.trans (and_congr decide_eq_true_iff decide_eq_true_iff)

theorem isAlphanum_iff (c : Char) : c.isAlphanum = true ↔ c.isAlpha = true ∨ c.isDigit = true :=
  Bool.or_eq_true_iff

/-! Blanks, marks and line ends. -/

theorem isBlank_of_isDigit {c : Char} (digit : Text.isDigit c = true) : isBlank c = false := by
  simp only [Text.isDigit, Bool.and_eq_true, decide_eq_true_eq] at digit
  simp [isBlank]
  omega

/-- A text is told apart from the blanks around it. -/
structure Core (s core : List Char) : Prop where
  around : ∃ before after, s = before ++ core ++ after ∧
    (∀ c ∈ before, isBlank c = true) ∧ ∀ c ∈ after, isBlank c = true
  first : ∀ c ∈ core.head?, isBlank c = false
  last : ∀ c ∈ core.getLast?, isBlank c = false

theorem head?_dropBlanks (s : List Char) : ∀ c ∈ (dropBlanks s).head?, isBlank c = false := by
  intro c found
  have kept := List.head?_dropWhile_not isBlank s
  change (dropBlanks s).head? = some c at found
  rw [dropBlanks] at found
  rw [found] at kept
  simpa using kept

theorem core_trim (s : List Char) : Core s (trim s) := by
  have kept : trim s = (dropBlanks s).rdropWhile isBlank := rfl
  constructor
  case around =>
    refine ⟨s.takeWhile isBlank, (dropBlanks s).rtakeWhile isBlank, ?_,
      fun _ => List.mem_takeWhile_imp, fun _ => List.mem_rtakeWhile_imp⟩
    rw [kept, List.append_assoc, List.rdropWhile_append_rtakeWhile]
    exact List.takeWhile_append_dropWhile.symm
  case first =>
    intro c found
    obtain ⟨after, split⟩ := List.rdropWhile_prefix isBlank (dropBlanks s)
    apply head?_dropBlanks s
    rw [← split, ← kept]
    exact List.mem_head?_append_of_mem_head? found
  case last =>
    intro c found
    rw [kept] at found
    obtain ⟨filled, rfl⟩ := List.mem_getLast?_eq_getLast found
    simpa using List.rdropWhile_last_not isBlank _ filled

theorem trim_eq_nil_iff (s : List Char) : trim s = [] ↔ allBlank s = true := by
  obtain ⟨⟨before, after, whole, blankBefore, blankAfter⟩, first, _⟩ := core_trim s
  constructor
  · intro none
    rw [none, List.append_nil] at whole
    rw [whole, allBlank, List.all_append, List.all_eq_true.mpr blankBefore,
      List.all_eq_true.mpr blankAfter, Bool.and_true]
  · intro blank
    cases core : trim s with
    | nil => rfl
    | cons c rest =>
        have filled := first c (by rw [core]; rfl)
        have member : c ∈ s := by rw [whole, core]; simp
        rw [List.all_eq_true.mp blank c member] at filled
        cases filled

/-- There is only one way to tell a text apart from the blanks around it. -/
theorem Core.trim_eq {s core : List Char} (split : Core s core) : trim s = core := by
  obtain ⟨⟨before, after, rfl, blankBefore, blankAfter⟩, first, last⟩ := split
  cases core with
  | nil =>
      rw [trim_eq_nil_iff, allBlank, List.append_nil, List.all_append,
        List.all_eq_true.mpr blankBefore, List.all_eq_true.mpr blankAfter, Bool.and_true]
  | cons c rest =>
      have filled : isBlank c = false := first c rfl
      have front : dropBlanks (before ++ (c :: rest) ++ after) = c :: rest ++ after := by
        rw [List.append_assoc, dropBlanks, List.dropWhile_append_of_pos blankBefore,
          List.cons_append, List.dropWhile_cons_of_neg (by simp [filled])]
      have back : (c :: rest ++ after).rdropWhile isBlank = (c :: rest).rdropWhile isBlank := by
        rw [List.rdropWhile, List.reverse_append, List.dropWhile_append_of_pos, List.rdropWhile]
        exact fun d member => blankAfter d (List.mem_reverse.mp member)
      have kept : (c :: rest).rdropWhile isBlank = c :: rest := by
        refine List.rdropWhile_eq_self_iff.mpr fun nonempty => ?_
        simp [last _ (List.getLast?_eq_some_getLast nonempty)]
      calc
        trim (before ++ (c :: rest) ++ after)
          = (c :: rest ++ after).rdropWhile isBlank := by rw [trim, front]; rfl
        _ = c :: rest := by rw [back, kept]

theorem trim_cons {c : Char} (filled : isBlank c = false) (rest : List Char) :
    ∃ more, trim (c :: rest) = c :: more := by
  obtain ⟨⟨before, after, whole, blankBefore, blankAfter⟩, _, _⟩ := core_trim (c :: rest)
  have inner (blank : isBlank c = true) : False := by
    rw [filled] at blank
    cases blank
  cases before with
  | cons early others =>
      obtain ⟨rfl, _⟩ := List.cons.inj whole
      exact (inner (blankBefore c List.mem_cons_self)).elim
  | nil =>
      cases core : trim (c :: rest) with
      | nil =>
          rw [core, List.append_nil, List.nil_append] at whole
          exact (inner (blankAfter c (whole ▸ List.mem_cons_self))).elim
      | cons first more =>
          rw [core] at whole
          obtain ⟨rfl, _⟩ := List.cons.inj whole
          exact ⟨more, rfl⟩

theorem Core.self {s core : List Char} (split : Core s core) : Core core core where
  around := ⟨[], [], by simp, nofun, nofun⟩
  first := split.first
  last := split.last

theorem trim_of_whole {s : List Char} (whole : ∀ c ∈ s, isBlank c = false) : trim s = s :=
  Core.trim_eq {
    around := ⟨[], [], by simp, nofun, nofun⟩
    first := fun c found => whole c (List.mem_of_mem_head? found)
    last := fun c found => whole c (List.mem_of_mem_getLast? found) }

theorem cutAt_append {mark : Char} {before : List Char} (absent : mark ∉ before)
    (after : List Char) : cutAt mark (before ++ mark :: after) = some (before, after) := by
  induction before with
  | nil => simp [cutAt]
  | cons c rest induction =>
      rw [List.mem_cons, not_or] at absent
      rw [List.cons_append, cutAt, if_neg (Ne.symm absent.1), induction absent.2]
      rfl

theorem cutAt_of_notMem {mark : Char} {s : List Char} (absent : mark ∉ s) :
    cutAt mark s = none := by
  induction s with
  | nil => rfl
  | cons c rest induction =>
      rw [List.mem_cons, not_or] at absent
      rw [cutAt, if_neg (Ne.symm absent.1), induction absent.2]
      rfl

theorem eq_append_of_cutAt {mark : Char} {s before after : List Char}
    (cut : cutAt mark s = some (before, after)) : s = before ++ mark :: after := by
  induction s generalizing before with
  | nil => cases cut
  | cons c rest induction =>
      unfold cutAt at cut
      split at cut
      · next same =>
          cases cut
          rw [same]
          rfl
      · obtain ⟨⟨early, late⟩, found, same⟩ := Option.map_eq_some_iff.mp cut
        cases same
        rw [induction found]
        rfl

theorem notMem_of_cutAt {mark : Char} {s before after : List Char}
    (cut : cutAt mark s = some (before, after)) : mark ∉ before := by
  induction s generalizing before with
  | nil => cases cut
  | cons c rest induction =>
      unfold cutAt at cut
      split at cut
      · cases cut
        exact List.not_mem_nil
      · next other =>
          obtain ⟨⟨early, late⟩, found, same⟩ := Option.map_eq_some_iff.mp cut
          cases same
          exact List.not_mem_cons_of_ne_of_not_mem (Ne.symm other) (induction found)

theorem splitAt_mark {mark : Char} {line : List Char} (whole : mark ∉ line) (rest : List Char) :
    splitAt mark (line ++ mark :: rest) = line :: splitAt mark rest := by
  have split : splitAt mark (mark :: rest) = [] :: splitAt mark rest := if_pos rfl
  rw [splitAt_append whole split, List.append_nil]

theorem splitAt_whole {mark : Char} {line : List Char} (whole : mark ∉ line) :
    splitAt mark line = [line] := by
  have split : splitAt mark [] = [[]] := rfl
  simpa using splitAt_append whole split

theorem join_concat (mark last : List Char) {pieces : List (List Char)} (someFront : pieces ≠ []) :
    join mark (pieces ++ [last]) = join mark pieces ++ mark ++ last := by
  induction pieces with
  | nil => exact absurd rfl someFront
  | cons first rest induction =>
      cases rest with
      | nil => rfl
      | cons second others =>
          have shorter := induction (List.cons_ne_nil _ _)
          simp only [List.cons_append, join] at shorter ⊢
          rw [shorter]
          simp only [List.append_assoc]

theorem mem_join {mark : List Char} {pieces : List (List Char)} {c : Char}
    (member : c ∈ join mark pieces) : c ∈ mark ∨ ∃ piece ∈ pieces, c ∈ piece := by
  induction pieces with
  | nil => cases member
  | cons first rest induction =>
      cases rest with
      | nil => exact .inr ⟨first, List.mem_cons_self, member⟩
      | cons second more =>
          change c ∈ first ++ mark ++ join mark (second :: more) at member
          rw [List.mem_append, List.mem_append] at member
          obtain (inFirst | inMark) | later := member
          · exact .inr ⟨first, List.mem_cons_self, inFirst⟩
          · exact .inl inMark
          · exact (induction later).imp_right fun ⟨piece, member, inPiece⟩ =>
              ⟨piece, List.mem_cons_of_mem first member, inPiece⟩

theorem join_ends (mark : List Char) {pieces : List (List Char)} {last : List Char}
    (ends : pieces.getLast? = some last) : ∃ early, join mark pieces = early ++ last := by
  obtain ⟨front, rfl⟩ := List.getLast?_eq_some_iff.mp ends
  by_cases alone : front = []
  · rw [alone]
    exact ⟨[], rfl⟩
  · exact ⟨_, join_concat mark last alone⟩

/-- A text that ends no line. -/
def Unbroken (s : List Char) : Prop :=
  ∀ c ∈ s, isLineEnd c = false

theorem lines_cons_of_inner {c : Char} (inner : isLineEnd c = false) (rest : List Char) :
    lines (c :: rest) = match lines rest with
      | [] => [[c]]
      | first :: more => (c :: first) :: more := by
  rw [lines]
  · exact if_neg (by simp [inner])
  · rintro _ rfl
    exact absurd inner (by decide)

theorem lines_newline (rest : List Char) : lines ('\n' :: rest) = [] :: lines rest := by
  rw [lines, if_pos (by decide)]
  simp

theorem lines_append_newline {line : List Char} (unbroken : Unbroken line) (rest : List Char) :
    lines (line ++ '\n' :: rest) = line :: lines rest := by
  induction line with
  | nil => exact lines_newline rest
  | cons c early induction =>
      have inner := unbroken c List.mem_cons_self
      rw [List.cons_append, lines_cons_of_inner inner,
        induction fun d member => unbroken d (List.mem_cons_of_mem c member)]

theorem lines_ne_nil {s : List Char} (filled : s ≠ []) : lines s ≠ [] := by
  unfold lines
  split
  · exact absurd rfl filled
  · exact List.cons_ne_nil _ _
  · split
    · exact List.cons_ne_nil _ _
    · split <;> exact List.cons_ne_nil _ _

theorem lines_cons_of_end {c : Char} (ends : isLineEnd c = true) {rest : List Char}
    (single : c = '\r' → rest.head? ≠ some '\n') : lines (c :: rest) = [] :: lines rest := by
  rw [lines]
  · exact if_pos ends
  · rintro more rfl rfl
    exact single rfl rfl

/-- A line feed keeps the lines on its two sides apart. -/
theorem lines_append_feed (s t : List Char) :
    lines (s ++ '\n' :: t) = lines (s ++ ['\n']) ++ lines t := by
  have behind (c : Char) (rest : List Char) (inner : isLineEnd c = false)
      (apart : lines (rest ++ '\n' :: t) = lines (rest ++ ['\n']) ++ lines t) :
      lines (c :: rest ++ '\n' :: t) = lines (c :: rest ++ ['\n']) ++ lines t := by
    have filled : rest ++ ['\n'] ≠ [] := by simp
    obtain ⟨first, more, split⟩ := List.exists_cons_of_ne_nil (lines_ne_nil filled)
    rw [List.cons_append, List.cons_append, lines_cons_of_inner inner, lines_cons_of_inner inner,
      apart, split]
    rfl
  induction s using lines.induct with
  | case1 => exact lines_newline t
  | case2 rest apart =>
      rw [List.cons_append, List.cons_append, lines, apart]
      rfl
  | case3 c rest noPair ends apart =>
      cases rest with
      | nil =>
          by_cases carriage : c = '\r'
          · rw [carriage]
            rfl
          · rw [List.singleton_append, lines_cons_of_end ends fun same => absurd same carriage,
              lines_newline, List.singleton_append,
              lines_cons_of_end ends fun same => absurd same carriage]
            rfl
      | cons d rest =>
          have single (more : List Char) : c = '\r' → (d :: rest ++ more).head? ≠ some '\n' := by
            intro carriage feed
            exact noPair rest carriage (by rw [Option.some.inj feed])
          change lines (c :: (d :: rest ++ '\n' :: t)) =
            lines (c :: (d :: rest ++ ['\n'])) ++ lines t
          rw [lines_cons_of_end ends (single _), lines_cons_of_end ends (single _), apart]
          rfl
  | case4 c rest noPair inner _ apart => exact behind c rest (by simpa using inner) apart
  | case5 c rest noPair inner _ _ _ apart => exact behind c rest (by simpa using inner) apart

theorem lines_unbroken {line : List Char} (unbroken : Unbroken line) (filled : line ≠ []) :
    lines line = [line] := by
  induction line with
  | nil => exact absurd rfl filled
  | cons c rest induction =>
      rw [lines_cons_of_inner (unbroken c List.mem_cons_self)]
      by_cases last : rest = []
      · rw [last]
        rfl
      · rw [induction (fun d member => unbroken d (List.mem_cons_of_mem c member)) last]

/-- Lines that are put together with line feeds are found again. -/
theorem lines_join {pieces : List (List Char)} (filled : [] ∉ pieces)
    (unbroken : ∀ piece ∈ pieces, Unbroken piece) : lines (join ['\n'] pieces) = pieces := by
  induction pieces with
  | nil => rfl
  | cons first rest induction =>
      have whole := unbroken first List.mem_cons_self
      rw [List.mem_cons, not_or] at filled
      cases rest with
      | nil => exact lines_unbroken whole (Ne.symm filled.1)
      | cons second more =>
          have later := induction filled.2 fun piece member =>
            unbroken piece (List.mem_cons_of_mem first member)
          rw [join, List.append_assoc, List.singleton_append, lines_append_newline whole, later]
          exact List.cons_ne_nil second more

end GraphConsole.Text
