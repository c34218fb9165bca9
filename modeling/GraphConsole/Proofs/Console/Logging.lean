import GraphConsole.Proofs.Console.Hierarchy
import GraphConsole.Proofs.Sequence
import GraphConsole.Proofs.Text.Cuts

/-! Configurations of the log over the life of a process. However often the package's logger has
been configured, it shows each record of its own and of the loggers below it once, from the level
on that was asked for last. -/

namespace GraphConsole.Log

open GraphConsole.Text

namespace Hierarchy

/-! What a process does with its log over its life. -/

inductive Step
  | configured (level : Option LogLevel)
  | logged (record : Record)

def step (hierarchy : Hierarchy) : Step → Hierarchy
  | .configured level => hierarchy.configure level
  | .logged record => (hierarchy.ask record.logger).remember record

def after (hierarchy : Hierarchy) (steps : List Step) : Hierarchy :=
  steps.foldl step hierarchy

theorem Plain.remember {hierarchy : Hierarchy} (plain : hierarchy.Plain) (record : Record) :
    (hierarchy.remember record).Plain where
  root := plain.root
  rootLevel := plain.rootLevel
  named := plain.named

theorem Plain.step {hierarchy : Hierarchy} (plain : hierarchy.Plain) (step : Step) :
    (hierarchy.step step).Plain := by
  cases step with
  | configured level => exact (plain.configured level).toPlain
  | logged record => exact (plain.ask record.logger).remember record

theorem Plain.after {hierarchy : Hierarchy} (plain : hierarchy.Plain) (steps : List Step) :
    (hierarchy.after steps).Plain := by
  induction steps generalizing hierarchy with
  | nil => exact plain
  | cons step steps induction => exact induction (plain.step step)

/-- Calls one after the other come to what the last of them asks for. -/
theorem Plain.configured_last {hierarchy : Hierarchy} (plain : hierarchy.Plain)
    (levels : List (Option LogLevel)) (last : Option LogLevel) :
    ((levels ++ [last]).foldl configure hierarchy).Configured (LogLevel.threshold last) := by
  have earlier : levels.foldl configure hierarchy = hierarchy.after (levels.map .configured) := by
    rw [Hierarchy.after, List.foldl_map]
    rfl
  rw [List.foldl_append, earlier]
  exact (plain.after _).configured last

theorem answers_configured (hierarchy : Hierarchy) (levels : List (Option LogLevel))
    (last : Option LogLevel) : ((levels ++ [last]).foldl configure hierarchy).answers = [] := by
  rw [List.foldl_append]
  rfl

end Hierarchy

/-! What the console owes to the records of a process. -/

/-- Answers of loggers on letting records of a level pass. -/
abbrev Answers := List ((String × Nat) × Bool)

/-- Whether a record passes its logger. What the logger has answered for the level before holds on,
else it goes by the threshold if it belongs to the package's logger now, and by the root if not. -/
def lets (threshold : Nat) (asked : List String) (answers : Answers) (record : Record) : Bool :=
  (answers.lookup (record.logger, record.level)).getD
    ((if belongs asked record.logger then threshold else 30) ≤ record.level)

/-- The records that are to be shown, where some loggers have been asked for before them and some
answers have been given. -/
def due (threshold : Nat) : List String → Answers → List Record → List Record
  | _, _, [] => []
  | asked, answers, record :: records =>
      let now := record.logger :: asked
      let passes := lets threshold now answers record
      let later := due threshold now (((record.logger, record.level), passes) :: answers) records
      if belongs now record.logger && passes then record :: later else later

/-- A name is the package's, or goes on behind it with a dot. -/
def owns (name : String) : Bool :=
  name == packageName || (packageName.toList ++ ['.']).isPrefixOf name.toList

/-- A name goes on behind the package's with two dots or more. -/
def doubled (name : String) : Bool :=
  (packageName.toList ++ ['.', '.']).isPrefixOf name.toList

theorem isPrefixOf_append_left (front s t : List Char) :
    (front ++ s).isPrefixOf (front ++ t) = s.isPrefixOf t := by
  rw [Bool.eq_iff_iff, List.isPrefixOf_iff_prefix, List.isPrefixOf_iff_prefix,
    List.prefix_append_right_inj]

theorem owns_of_belongs {asked : List String} {name : String}
    (belonging : belongs asked name = true) : owns name = true := by
  rw [belongs, Bool.or_eq_true, Bool.and_eq_true] at belonging
  rw [owns, Bool.or_eq_true]
  refine belonging.imp id ?_
  rintro ⟨within, hanging⟩
  obtain ⟨behind, split⟩ := List.isPrefixOf_iff_prefix.mp within
  rw [dotsBehind, ← split, List.drop_left] at hanging
  rw [← split, isPrefixOf_append_left]
  cases behind with
  | nil => simp [hangs] at hanging
  | cons c more =>
      by_cases dot : c = '.'
      · simp [dot]
      · simp [dot, hangs] at hanging

/-- Where no second dot follows the first, the loggers asked for do not matter. -/
theorem belongs_of_single (asked : List String) {name : String}
    (single : doubled name = false) : belongs asked name = owns name := by
  rw [Bool.eq_iff_iff]
  refine ⟨owns_of_belongs, fun owned => ?_⟩
  rw [owns, Bool.or_eq_true] at owned
  rw [belongs, Bool.or_eq_true]
  refine owned.imp id fun within => ?_
  obtain ⟨more, split⟩ := List.isPrefixOf_iff_prefix.mp within
  rw [List.append_assoc] at split
  rw [doubled, ← split, isPrefixOf_append_left] at single
  rw [dotsBehind, ← split, List.drop_left]
  cases more with
  | nil => simp [hangs]
  | cons c more =>
      have letter : c ≠ '.' := by
        rintro rfl
        simp at single
      simp [letter, hangs]

/-- An answer goes by the threshold where no second dot follows the first in the name of a logger
that is the package's or goes on behind it, and by that or the root's level elsewhere. -/
structure Fair (threshold : Nat) (name : String) (level : Nat) (answer : Bool) : Prop where
  single : doubled name = false → owns name = true → answer = decide (threshold ≤ level)
  loud : answer = true → threshold ≤ level ∨ 30 ≤ level

/-- All answers that have been given are fair. -/
def AllFair (threshold : Nat) (answers : Answers) : Prop :=
  ∀ entry ∈ answers, Fair threshold entry.1.1 entry.1.2 entry.2

theorem allFair_nil (threshold : Nat) : AllFair threshold [] :=
  List.forall_mem_nil _

theorem fair_lets {threshold : Nat} {answers : Answers} (fair : AllFair threshold answers)
    (asked : List String) (record : Record) :
    Fair threshold record.logger record.level (lets threshold asked answers record) := by
  rw [lets]
  cases given : answers.lookup (record.logger, record.level) with
  | some answer => exact fair _ (Sequence.mem_of_lookup given)
  | none =>
      rw [Option.getD_none]
      constructor
      · intro single owned
        rw [belongs_of_single asked single, owned, if_pos rfl]
      · intro passes
        have enough := of_decide_eq_true passes
        split at enough
        · exact .inl enough
        · exact .inr enough

theorem AllFair.cons {threshold : Nat} {answers : Answers} (fair : AllFair threshold answers)
    (asked : List String) (record : Record) :
    AllFair threshold
      (((record.logger, record.level), lets threshold asked answers record) :: answers) :=
  List.forall_mem_cons.mpr ⟨fair_lets fair asked record, fair⟩

theorem due_sublist (threshold : Nat) (asked : List String) (answers : Answers)
    (records : List Record) : (due threshold asked answers records).Sublist records := by
  induction records generalizing asked answers with
  | nil => exact .slnil
  | cons record records induction =>
      rw [due]
      split
      · exact (induction _ _).cons_cons record
      · exact (induction _ _).cons record

theorem owns_of_mem_due {threshold : Nat} {asked : List String} {answers : Answers}
    (fair : AllFair threshold answers) {records : List Record} {record : Record}
    (member : record ∈ due threshold asked answers records) :
    owns record.logger = true ∧
      (threshold ≤ record.level ∨ doubled record.logger = true ∧ 30 ≤ record.level) := by
  induction records generalizing asked answers with
  | nil => cases member
  | cons first records induction =>
      have answered := fair_lets fair (first.logger :: asked) first
      rw [due] at member
      split at member
      · next shows =>
          rw [Bool.and_eq_true] at shows
          rcases List.mem_cons.mp member with rfl | later
          · have owned := owns_of_belongs shows.1
            refine ⟨owned, ?_⟩
            cases double : doubled record.logger with
            | false => exact .inl (of_decide_eq_true (answered.single double owned ▸ shows.2))
            | true => exact (answered.loud shows.2).imp_right fun loud => ⟨rfl, loud⟩
          · exact induction (fair.cons _ first) later
      · exact induction (fair.cons _ first) member

theorem filter_due {threshold : Nat} {answers : Answers} (fair : AllFair threshold answers)
    (asked : List String) (records : List Record) :
    (due threshold asked answers records).filter (fun record => !doubled record.logger) =
      records.filter fun record =>
        !doubled record.logger && owns record.logger && decide (threshold ≤ record.level) := by
  induction records generalizing asked answers with
  | nil => rfl
  | cons record records induction =>
      have later := induction (fair.cons (record.logger :: asked) record) (record.logger :: asked)
      rw [due]
      generalize due threshold _ (_ :: answers) records = others at later ⊢
      cases double : doubled record.logger with
      | true =>
          split
          · simp [double, later]
          · simp [double, later]
      | false =>
          rw [belongs_of_single _ double]
          cases owned : owns record.logger with
          | false => simp [double, owned, later]
          | true =>
              have answered := (fair_lets fair (record.logger :: asked) record).single double owned
              rw [answered]
              by_cases enough : threshold ≤ record.level
              · simp [double, owned, enough, later]
              · simp [double, owned, enough, later]

/-! The lines of a record are its own. -/

theorem flatten_ends {rows : List (List Char)} {mark : Char} (filled : rows ≠ [])
    (each : ∀ row ∈ rows, ∃ front, row = front ++ [mark]) :
    ∃ front, rows.flatten = front ++ [mark] := by
  obtain ⟨front, ends⟩ := each _ (List.getLast_mem filled)
  refine ⟨rows.dropLast.flatten ++ front, ?_⟩
  calc rows.flatten = (rows.dropLast ++ [rows.getLast filled]).flatten := by
        rw [List.dropLast_append_getLast]
    _ = rows.dropLast.flatten ++ rows.getLast filled := by
        rw [List.flatten_append, List.flatten_singleton]
    _ = rows.dropLast.flatten ++ front ++ [mark] := by rw [ends, List.append_assoc]

theorem Record.onScreen_ends (columns : Nat) (record : Record) :
    ∃ front, record.onScreen columns = front ++ ['\n'] := by
  obtain ⟨first, others, split⟩ :=
    List.exists_cons_of_ne_nil (splitAt_ne_nil '\n' (Table.onPage record.message.toList))
  refine flatten_ends ?_ ?_
  · simp [split, wrap_ne_nil]
  · intro row member
    obtain ⟨place, _, rfl⟩ := List.mem_map.mp member
    exact ⟨_, rfl⟩

theorem readable_cons (record : Record) (records : List Record) :
    readable (record :: records) = readable [record] ++ readable records := by
  obtain ⟨front, ends⟩ := record.onScreen_ends wideScreen
  simp only [readable, List.flatMap_cons, List.flatMap_nil, List.append_nil, ends,
    List.append_assoc, List.singleton_append]
  rw [lines_append_feed, List.map_append]

theorem readable_eq_flatMap (records : List Record) :
    readable records = records.flatMap fun record => readable [record] := by
  induction records with
  | nil => rfl
  | cons record records induction => rw [readable_cons, induction, List.flatMap_cons]

theorem readable_ne_nil (record : Record) : readable [record] ≠ [] := by
  obtain ⟨front, ends⟩ := record.onScreen_ends wideScreen
  have filled : lines (front ++ ['\n']) ≠ [] := lines_ne_nil (by simp)
  simpa [readable, ends] using filled

/-- What is shown of some records by a console with a threshold, where some loggers have been asked
for before. -/
structure Accounted (threshold : Nat) (asked : List String) (records shown : List Record) :
    Prop where
  due : shown = due threshold asked [] records
  order : shown.Sublist records
  owned : ∀ record ∈ shown, owns record.logger = true ∧
    (threshold ≤ record.level ∨ doubled record.logger = true ∧ 30 ≤ record.level)
  single : shown.filter (fun record => !doubled record.logger) =
    records.filter fun record =>
      !doubled record.logger && owns record.logger && decide (threshold ≤ record.level)
  lines : readable shown = shown.flatMap fun record => readable [record]
  each : ∀ record ∈ shown, readable [record] ≠ []

namespace Hierarchy

theorem answers_ask (hierarchy : Hierarchy) (name : String) :
    (hierarchy.ask name).answers = hierarchy.answers := by
  unfold ask
  split <;> rfl

section Configured

variable {hierarchy : Hierarchy} {threshold : Nat} {asked : List String}

theorem Configured.passes_eq_lets (configured : hierarchy.Configured threshold)
    (known : hierarchy.Asked asked) {record : Record} (there : record.logger ∈ asked) :
    hierarchy.passes record = lets threshold asked hierarchy.answers record := by
  have level : levelOf (hierarchy.lineage record.logger) =
      (Standing.of threshold (belongs asked record.logger)).level :=
    congrArg Standing.level (configured.standing_lineage known there)
  rw [passes, lets, level]
  cases belongs asked record.logger <;> rfl

/-- A record that passes comes to the console if its logger belongs to the package's. -/
theorem Configured.count_takers (configured : hierarchy.Configured threshold)
    (known : hierarchy.Asked asked) {record : Record} (there : record.logger ∈ asked) :
    (hierarchy.takers record).count .console =
      if belongs asked record.logger && lets threshold asked hierarchy.answers record then 1
      else 0 := by
  have consoles : (handlersOf (hierarchy.lineage record.logger)).count .console =
      (Standing.of threshold (belongs asked record.logger)).consoles :=
    congrArg Standing.consoles (configured.standing_lineage known there)
  rw [takers, configured.passes_eq_lets known there]
  cases lets threshold asked hierarchy.answers record with
  | true =>
      rw [if_pos rfl, consoles, Bool.and_true]
      cases belongs asked record.logger <;> rfl
  | false =>
      rw [if_neg Bool.false_ne_true, Bool.and_false, if_neg Bool.false_ne_true, List.count_nil]

theorem Configured.shown_eq_due (configured : hierarchy.Configured threshold)
    (known : hierarchy.Asked asked) (records : List Record) :
    hierarchy.shown records = Log.due threshold asked hierarchy.answers records := by
  induction records generalizing hierarchy asked with
  | nil => rfl
  | cons record records induction =>
      have now := configured.ask record.logger
      have knownNow := known.ask record.logger
      have there : record.logger ∈ record.logger :: asked := List.mem_cons_self
      have here := now.count_takers knownNow there
      have passes := now.passes_eq_lets knownNow there
      have later := induction (now.remember record) knownNow
      rw [Hierarchy.remember, passes] at later
      dsimp only at later
      rw [answers_ask] at here later
      rw [shown, here, Hierarchy.remember, passes, answers_ask, later, due]
      split
      · rfl
      · rfl

end Configured

/-- However a process has used its log before, calls with some levels and a last one leave the
package's logger with one console, with the last level and without propagation. What is then shown
of any records is the records of the package's logger and of those below it, from that level on. -/
theorem configured_log (earlier : List Step) (levels : List (Option LogLevel))
    (last : Option LogLevel) (records : List Record) :
    let hierarchy := (levels ++ [last]).foldl configure (({} : Hierarchy).after earlier)
    hierarchy.package.consoleCount = 1 ∧ hierarchy.package.propagates = false ∧
      (hierarchy.package.level = match last with
        | some .error => 40
        | some .info => 20
        | some .debug => 10
        | some .warn | none => 30) ∧
      Accounted hierarchy.package.level hierarchy.names records (hierarchy.shown records) := by
  intro hierarchy
  have configured := (plain_empty.after earlier).configured_last levels last
  refine ⟨configured.single, configured.closed, ?_, ?_⟩
  · rw [configured.level]
    rcases last with _ | level
    · rfl
    · cases level <;> rfl
  rw [configured.level, configured.shown_eq_due hierarchy.asked_names, answers_configured]
  exact ⟨rfl, due_sublist _ _ _ _, fun _ => owns_of_mem_due (allFair_nil _),
    filter_due (allFair_nil _) _ _, readable_eq_flatMap _,
    fun record _ => readable_ne_nil record⟩

/-- Two dots that have kept a logger from the console keep its records of the same level from it
even when the logger has come below the package's. -/
example :
    let far : Record := ⟨"rover..x", 20, "INFO", "hi"⟩
    let near : Record := ⟨"rover.", 20, "INFO", "hi"⟩
    (configure {} (some .info)).shown [far, near, far] = [near] := by
  decide +kernel

/-- A name with two dots behind the package's starts like those below it, yet the search for its
parent passes over the first of the dots. -/
theorem not_shown_doubled :
    ¬ ∀ (levels : List (Option LogLevel)) (last : Option LogLevel) (records : List Record),
      ((levels ++ [last]).foldl configure {}).shown records = records.filter fun record =>
        owns record.logger && decide (LogLevel.threshold last ≤ record.level) := by
  intro shown
  exact absurd (shown [] (some .info) [⟨"rover..x", 30, "WARNING", "hi"⟩]) (by decide +kernel)

end Hierarchy

end GraphConsole.Log
