import GraphConsole.Outcome.Report
import GraphConsole.Proofs.Json.Printing
import GraphConsole.Proofs.Json.Scalars
import GraphConsole.Proofs.Outcome.Agreement

/-! What people are told of a published graph. The line on it ends with a summary of the changes,
from which every count can be read back, so that it tells publications apart where the counts do
that scripts read. A summary that would have to name a count of too many digits has no text. -/

namespace GraphConsole

open GraphConsole.Registry
open GraphConsole.Text

/-! A number is told from what stands behind it. -/

theorem Json.intDigits_append_inj {m n : Int} {s t : List Char} (ends : endsNumber s = true)
    (otherEnds : endsNumber t = true) (same : intDigits m ++ s = intDigits n ++ t) :
    m = n ∧ s = t := by
  -- A reader with room for both numbers reads the text in one way only.
  let limits : Limits := ⟨0, max (natDigits m.natAbs).length (natDigits n.natAbs).length⟩
  have first := readNumber_intDigits limits m (Nat.le_max_left _ _) ends
  have second := readNumber_intDigits limits n (Nat.le_max_right _ _) otherEnds
  rw [same, second] at first
  have read := Prod.mk.inj (Except.ok.inj first)
  exact ⟨(Json.integer.inj read.1).symm, read.2.symm⟩

theorem Table.onPage_append (s t : List Char) : onPage (s ++ t) = onPage s ++ onPage t :=
  List.filter_append s t

theorem Table.onPage_eq_self {s : List Char} (kept : s.all (fun c => !isDropped c) = true) :
    onPage s = s :=
  List.filter_eq_self.mpr (List.all_eq_true.mp kept)

/-- Nothing in a written number is dropped from a page. -/
theorem Text.kept_intDigits (n : Int) :
    (intDigits n).all (fun c => !Table.isDropped c) = true := by
  rw [List.all_eq_true]
  intro c member
  have printing := List.all_eq_true.mp (Json.all_intDigits n) c member
  simp only [Json.isTextChar, Bool.or_eq_true, Bool.and_eq_true, decide_eq_true_eq, beq_iff_eq]
    at printing
  rcases printing with rfl | printing
  · decide
  · simp [Table.isDropped]
    omega

namespace Registry

namespace ChangeCounts

theorem isEmpty_iff (changes : ChangeCounts) :
    changes.isEmpty = true ↔ ∀ count ∈ changes.counts, count = 0 := by
  simp [isEmpty, counts, and_assoc]

theorem eq_of_counts {changes others : ChangeCounts} (same : changes.counts = others.counts) :
    changes = others := by
  cases changes
  cases others
  simpa [counts] using same

theorem toList_toText (changes : ChangeCounts) (rest : List Char) :
    changes.toText.toList ++ rest = "+".toList ++ (intDigits changes.additions ++
      (" -".toList ++ (intDigits changes.removals ++
        (" △ ".toList ++ (intDigits changes.edits ++ rest))))) := by
  simp [toText, intText]

/-- The text of some counts is told from what stands behind it, and the counts from one another. -/
theorem toText_append_inj {changes others : ChangeCounts} {s t : List Char}
    (ends : Json.endsNumber s = true) (otherEnds : Json.endsNumber t = true)
    (same : changes.toText.toList ++ s = others.toText.toList ++ t) :
    changes = others ∧ s = t := by
  rw [toList_toText, toList_toText] at same
  obtain ⟨additions, behindAdditions⟩ :=
    Json.intDigits_append_inj (by rfl) (by rfl) (List.append_cancel_left same)
  obtain ⟨removals, behindRemovals⟩ :=
    Json.intDigits_append_inj (by rfl) (by rfl) (List.append_cancel_left behindAdditions)
  obtain ⟨edits, behind⟩ :=
    Json.intDigits_append_inj ends otherEnds (List.append_cancel_left behindRemovals)
  refine ⟨eq_of_counts ?_, behind⟩
  rw [counts, counts, additions, removals, edits]

theorem kept_toText (changes : ChangeCounts) :
    changes.toText.toList.all (fun c => !Table.isDropped c) = true := by
  have spelled := changes.toList_toText []
  rw [List.append_nil] at spelled
  simp only [spelled, List.all_append, kept_intDigits]
  decide

theorem toJson_inj {changes others : ChangeCounts} :
    changes.toJson = others.toJson ↔ changes = others := by
  cases changes
  cases others
  simp [toJson]

end ChangeCounts

namespace ChangeSummary

theorem isEmpty_iff (summary : ChangeSummary) :
    summary.isEmpty = true ↔ ∀ count ∈ summary.counts, count = 0 := by
  rw [isEmpty, Bool.and_eq_true, ChangeCounts.isEmpty_iff, ChangeCounts.isEmpty_iff, counts,
    List.forall_mem_append]

theorem counts_inj {summary other : ChangeSummary} :
    summary.counts = other.counts ↔
      summary.fields = other.fields ∧ summary.types = other.types := by
  constructor
  · intro same
    have split := List.append_inj same rfl
    exact ⟨ChangeCounts.eq_of_counts split.1, ChangeCounts.eq_of_counts split.2⟩
  · rintro ⟨fields, types⟩
    rw [counts, counts, fields, types]

theorem counts_eq_of_isEmpty {summary other : ChangeSummary} (empty : summary.isEmpty = true)
    (otherEmpty : other.isEmpty = true) : summary.counts = other.counts := by
  have zeros := List.eq_replicate_of_mem (summary.isEmpty_iff.mp empty)
  have otherZeros := List.eq_replicate_of_mem (other.isEmpty_iff.mp otherEmpty)
  rw [zeros, otherZeros]
  rfl

theorem toText_of_isEmpty {summary : ChangeSummary} (empty : summary.isEmpty = true) :
    summary.toText = "[No Changes]" := by
  rw [toText, if_pos empty]

theorem toList_toText {summary : ChangeSummary} (filled : ¬ summary.isEmpty = true) :
    summary.toText.toList = "[Fields: ".toList ++ (summary.fields.toText.toList ++
      (", Types: ".toList ++ (summary.types.toText.toList ++ "]".toList))) := by
  rw [toText, if_neg filled]
  simp

/-- A summary that names counts begins differently. -/
theorem toText_ne_of_filled {summary : ChangeSummary} (filled : ¬ summary.isEmpty = true) :
    summary.toText ≠ "[No Changes]" := by
  intro same
  have spelled := toList_toText filled
  rw [same] at spelled
  exact absurd (List.cons.inj (List.cons.inj spelled).2).1 (by decide)

theorem toText_eq_noChanges_iff (summary : ChangeSummary) :
    summary.toText = "[No Changes]" ↔ ∀ count ∈ summary.counts, count = 0 := by
  rw [← isEmpty_iff]
  constructor
  · intro same
    exact Classical.byContradiction fun filled => toText_ne_of_filled filled same
  · exact toText_of_isEmpty

theorem counts_of_toText {summary other : ChangeSummary} (same : summary.toText = other.toText) :
    summary.counts = other.counts := by
  by_cases empty : summary.isEmpty = true
  · by_cases otherEmpty : other.isEmpty = true
    · exact counts_eq_of_isEmpty empty otherEmpty
    · rw [toText_of_isEmpty empty] at same
      exact absurd same.symm (toText_ne_of_filled otherEmpty)
  · by_cases otherEmpty : other.isEmpty = true
    · rw [toText_of_isEmpty otherEmpty] at same
      exact absurd same (toText_ne_of_filled empty)
    · have spelled := congrArg String.toList same
      rw [toList_toText empty, toList_toText otherEmpty] at spelled
      obtain ⟨fields, behindFields⟩ :=
        ChangeCounts.toText_append_inj (by rfl) (by rfl) (List.append_cancel_left spelled)
      obtain ⟨types, _⟩ :=
        ChangeCounts.toText_append_inj (by rfl) (by rfl) (List.append_cancel_left behindFields)
      exact counts_inj.mpr ⟨fields, types⟩

theorem toText_eq_iff (summary other : ChangeSummary) :
    summary.toText = other.toText ↔ summary.counts = other.counts := by
  constructor
  · exact counts_of_toText
  · intro same
    obtain ⟨fields, types⟩ := counts_inj.mp same
    obtain ⟨_, _⟩ := summary
    obtain ⟨_, _⟩ := other
    cases fields
    cases types
    rfl

theorem print_eq_ok_iff {summary : ChangeSummary} {text : String} :
    summary.print = .ok text ↔
      (summary.isEmpty = true ∨ summary.counts.all isConvertible = true) ∧
        text = summary.toText := by
  rw [print, ← Bool.or_eq_true]
  split
  · next named => simp [named, eq_comm]
  · next unnamed => simp [unnamed]

theorem toText_of_print {summary : ChangeSummary} {text : String}
    (printed : summary.print = .ok text) : summary.toText = text :=
  (print_eq_ok_iff.mp printed).2.symm

/-- There is a text if there is nothing to name, or no count is too long. -/
theorem exists_print_iff (summary : ChangeSummary) :
    (∃ text, summary.print = .ok text) ↔
      (∀ count ∈ summary.counts, count = 0) ∨
        ∀ count ∈ summary.counts, (natDigits count.natAbs).length ≤ 4300 := by
  simp only [print_eq_ok_iff, exists_and_left, exists_eq, and_true, isEmpty_iff,
    List.all_eq_true, isConvertible, decide_eq_true_eq]
  exact Iff.rfl

theorem print_eq_noChanges_iff (summary : ChangeSummary) :
    summary.print = .ok "[No Changes]" ↔ ∀ count ∈ summary.counts, count = 0 := by
  rw [print_eq_ok_iff, Eq.comm (a := "[No Changes]"), toText_eq_noChanges_iff]
  constructor
  · exact And.right
  · intro zeros
    exact ⟨.inl (summary.isEmpty_iff.mpr zeros), zeros⟩

theorem print_eq_iff {summary other : ChangeSummary} {text : String}
    (printed : summary.print = .ok text) :
    other.print = .ok text ↔ summary.counts = other.counts := by
  obtain ⟨named, rfl⟩ := print_eq_ok_iff.mp printed
  rw [print_eq_ok_iff, toText_eq_iff]
  constructor
  · exact And.right
  · intro same
    rw [isEmpty_iff, ← same, ← isEmpty_iff]
    exact ⟨named, rfl⟩

theorem kept_toText (summary : ChangeSummary) :
    summary.toText.toList.all (fun c => !Table.isDropped c) = true := by
  by_cases empty : summary.isEmpty = true
  · rw [toText_of_isEmpty empty]
    decide
  · simp only [toList_toText empty, List.all_append, ChangeCounts.kept_toText]
    decide

end ChangeSummary

end Registry

namespace Report

/-- The summary stands at the end of the line on a publication, where a page shows all of it. -/
theorem status_graphPublish (graph : GraphRef) (hash : String) (summary : ChangeSummary) :
    (ofOutput (.graphPublish graph ⟨hash, summary⟩)).status.map Line.plain =
      [Table.onPage (graph.toText ++ "#" ++ hash ++ " published successfully ").toList
        ++ summary.toText.toList] := by
  rw [← Table.onPage_eq_self summary.kept_toText, ← Table.onPage_append, ← String.toList_append]
  rfl

theorem status_graphPublish_eq_iff (graph : GraphRef) (hash : String)
    (summary other : ChangeSummary) :
    (ofOutput (.graphPublish graph ⟨hash, summary⟩)).status.map Line.plain =
        (ofOutput (.graphPublish graph ⟨hash, other⟩)).status.map Line.plain ↔
      summary.toText = other.toText := by
  rw [status_graphPublish, status_graphPublish, List.cons.injEq, List.append_cancel_left_eq,
    String.toList_inj]
  exact and_iff_left rfl

/-- What the text of a summary tells, and the line on a publication that ends with it. -/
structure TellsCounts : Prop where
  unchanged : ∀ summary : ChangeSummary,
    summary.print = .ok "[No Changes]" ↔ ∀ count ∈ summary.counts, count = 0
  printed : ∀ summary : ChangeSummary, (∃ text, summary.print = .ok text) ↔
    (∀ count ∈ summary.counts, count = 0) ∨
      ∀ count ∈ summary.counts, (natDigits count.natAbs).length ≤ 4300
  refused : ∀ (summary : ChangeSummary) overrun, summary.print = .error overrun →
    (Incident.ofOverrun overrun).name = "ValueError"
  distinct : ∀ (summary other : ChangeSummary) text, summary.print = .ok text →
    (other.print = .ok text ↔ summary.counts = other.counts)
  line : ∀ graph hash summary text, summary.print = .ok text →
    (ofOutput (.graphPublish graph ⟨hash, summary⟩)).status.map Line.plain =
      [Table.onPage (graph.toText ++ "#" ++ hash ++ " published successfully ").toList
        ++ text.toList]
  lines : ∀ graph hash summary other text otherText,
    summary.print = .ok text → other.print = .ok otherText →
    let first : Output := .graphPublish graph ⟨hash, summary⟩
    let second : Output := .graphPublish graph ⟨hash, other⟩
    (ofOutput first).status.map Line.plain = (ofOutput second).status.map Line.plain ↔
      first.envelope.toJson.at? ["data", "field_changes"] =
          second.envelope.toJson.at? ["data", "field_changes"] ∧
        first.envelope.toJson.at? ["data", "type_changes"] =
          second.envelope.toJson.at? ["data", "type_changes"]

theorem status_eq_iff_counts_eq (graph : GraphRef) (hash : String)
    (summary other : ChangeSummary) :
    let first : Output := .graphPublish graph ⟨hash, summary⟩
    let second : Output := .graphPublish graph ⟨hash, other⟩
    (ofOutput first).status.map Line.plain = (ofOutput second).status.map Line.plain ↔
      first.envelope.toJson.at? ["data", "field_changes"] =
          second.envelope.toJson.at? ["data", "field_changes"] ∧
        first.envelope.toJson.at? ["data", "type_changes"] =
          second.envelope.toJson.at? ["data", "type_changes"] := by
  intro first second
  have fields (summary : ChangeSummary) :
      (Output.graphPublish graph ⟨hash, summary⟩).envelope.toJson.at? ["data", "field_changes"] =
        some summary.fields.toJson := rfl
  have types (summary : ChangeSummary) :
      (Output.graphPublish graph ⟨hash, summary⟩).envelope.toJson.at? ["data", "type_changes"] =
        some summary.types.toJson := rfl
  rw [status_graphPublish_eq_iff, ChangeSummary.toText_eq_iff, ChangeSummary.counts_inj, fields,
    fields, types, types, Option.some.injEq, Option.some.injEq, ChangeCounts.toJson_inj,
    ChangeCounts.toJson_inj]

/-- The summary of some changes says that there are none if and only if all six counts are zero,
and no two summaries that differ in a count read the same. Lines on publications of one schema are
therefore equal if and only if the counts in their envelopes are. Only a summary that has to name a
count of too many digits has no text, and no line. -/
theorem summary_tells_counts : TellsCounts where
  unchanged := ChangeSummary.print_eq_noChanges_iff
  printed := ChangeSummary.exists_print_iff
  refused summary overrun refused := by
    unfold ChangeSummary.print at refused
    split at refused
    · cases refused
    · obtain rfl := Except.error.inj refused
      rfl
  distinct _ _ _ := ChangeSummary.print_eq_iff
  line graph hash summary text printed := by
    rw [status_graphPublish, ChangeSummary.toText_of_print printed]
  lines graph hash summary other _ _ _ _ := status_eq_iff_counts_eq graph hash summary other

/-- A summary with a count beyond 64 bits and one below zero. -/
def farApart : ChangeSummary where
  fields := { additions := 18446744073709551616, removals := -3 }

theorem summary_tells_counts_farApart :
    let edited : ChangeSummary := { types := { edits := 1 } }
    let graph : GraphRef := { name := "g" }
    let line (summary : ChangeSummary) :=
      (ofOutput (.graphPublish graph ⟨"h", summary⟩)).status.map Line.plain
    (∃ text, farApart.print = .ok text) ∧ (∃ text, edited.print = .ok text) ∧
      line farApart ≠ line edited := by
  intro edited graph line
  have far : farApart.print = .ok farApart.toText := by
    simp [ChangeSummary.print, ChangeSummary.counts, ChangeCounts.counts, farApart, isConvertible,
      natDigits, digitLimit]
  have near : edited.print = .ok edited.toText := by
    simp [ChangeSummary.print, ChangeSummary.counts, ChangeCounts.counts, edited, isConvertible,
      natDigits, digitLimit]
  refine ⟨⟨_, far⟩, ⟨_, near⟩, fun same => ?_⟩
  have counts : some farApart.fields.toJson = some edited.fields.toJson :=
    ((summary_tells_counts.lines graph "h" farApart edited _ _ far near).mp same).1
  exact absurd (ChangeCounts.toJson_inj.mp (Option.some.inj counts)) (by decide)

/-- A count of one digit too many leaves a summary without a text. -/
theorem not_told_beyondLimit :
    ¬ ∀ summary : ChangeSummary, ∃ text, summary.print = .ok text ∧
      (text = "[No Changes]" ↔ ∀ count ∈ summary.counts, count = 0) := by
  intro always
  obtain ⟨count, size⟩ : ∃ count : Int, count.natAbs = Nat.pow 10 digitLimit :=
    ⟨_, Int.natAbs_natCast (Nat.pow 10 digitLimit)⟩
  obtain ⟨text, printed, _⟩ := always { fields := { additions := count } }
  have fits : isConvertible count = true := by
    rcases (ChangeSummary.exists_print_iff _).mp ⟨text, printed⟩ with zeros | short
    · rw [zeros count List.mem_cons_self]
      simp [isConvertible, natDigits, digitLimit]
    · exact decide_eq_true (short count List.mem_cons_self)
  exact absurd size (Nat.ne_of_lt ((isConvertible_iff count).mp fits))

end Report

end GraphConsole
