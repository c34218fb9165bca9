import GraphConsole.CommandLine.Pairs
import GraphConsole.Proofs.Sequence
import GraphConsole.Proofs.Text.Cuts

/-! Pairs that are collected from texts: a name has one entry, in the place where it came first and
with the value that it got last. -/

namespace GraphConsole.CommandLine

open GraphConsole.Files
open GraphConsole.Text

/-- What is given for a name at last. -/
def lastGiven (given : List (String × α)) (name : String) : Option α :=
  given.reverse.lookup name

/-- One entry for each name, in the order in which they came up, with the last value that was given
for it. -/
structure Gathers (given entries : List (String × α)) : Prop where
  distinct : (entries.map Prod.fst).Nodup
  names : entries.map Prod.fst = (given.map Prod.fst).eraseDups
  lasts : ∀ name, entries.lookup name = lastGiven given name

theorem lastGiven_concat (given : List (String × α)) (pair : String × α) (name : String) :
    lastGiven (given ++ [pair]) name =
      if name = pair.1 then some pair.2 else lastGiven given name := by
  rw [lastGiven, List.reverse_concat, List.lookup_cons, lastGiven]
  by_cases same : name = pair.1
  · simp [same]
  · simp [same, beq_eq_false_iff_ne.mpr same]

theorem eraseDups_concat (names : List String) (name : String) :
    (names ++ [name]).eraseDups =
      if name ∈ names then names.eraseDups else names.eraseDups ++ [name] := by
  rw [List.eraseDups_append]
  by_cases among : name ∈ names
  · simp [List.removeAll, among]
  · simp [List.removeAll, among, List.eraseDups_cons]

namespace Gathers

variable {given entries : List (String × α)}

theorem nil : Gathers ([] : List (String × α)) [] :=
  ⟨List.nodup_nil, rfl, fun _ => rfl⟩

theorem concat (gathers : Gathers given entries) (pair : String × α) :
    Gathers (given ++ [pair]) (Entries.put pair.1 pair.2 entries) := by
  constructor
  case distinct => exact Entries.nodup_put _ _ gathers.distinct
  case names =>
    rw [Entries.keys_put, List.map_append, List.map_singleton, eraseDups_concat, gathers.names]
    simp only [List.mem_eraseDups]
  case lasts =>
    intro name
    rw [Entries.lookup_put, lastGiven_concat, gathers.lasts]

theorem eq_nil_iff (gathers : Gathers given entries) : entries = [] ↔ given = [] := by
  have names := gathers.names
  constructor
  · rintro rfl
    cases given with
    | nil => rfl
    | cons pair rest => simp [List.eraseDups_cons] at names
  · rintro rfl
    simpa using names

theorem mem_iff (gathers : Gathers given entries) (name : String) (value : α) :
    (name, value) ∈ entries ↔ lastGiven given name = some value := by
  rw [← gathers.lasts]
  have distinct := gathers.distinct
  clear gathers
  induction entries with
  | nil => simp
  | cons entry rest induction =>
      obtain ⟨other, old⟩ := entry
      rw [List.map_cons, List.nodup_cons] at distinct
      rw [List.lookup_cons]
      by_cases same : name = other
      · subst same
        have absent : (name, value) ∉ rest :=
          fun member => distinct.1 (List.mem_map.mpr ⟨_, member, rfl⟩)
        simp [absent, eq_comm]
      · have other : (name == other) = false := beq_eq_false_iff_ne.mpr same
        simpa [same, other] using induction distinct.2

theorem given_of_mem (gathers : Gathers given entries) {entry : String × α}
    (member : entry ∈ entries) : entry ∈ given := by
  have last := (gathers.mem_iff entry.1 entry.2).mp member
  exact List.mem_reverse.mp (Sequence.mem_of_lookup last)

end Gathers

/-- Texts that all give a pair are collected. -/
theorem gathers_collectPairs {pair? : String → Option (String × α)} {texts : List String}
    {more : List (String × α)}
    (pairs : List.Forall₂ (fun text pair => pair? text = some pair) texts more)
    {given entries : List (String × α)} (gathers : Gathers given entries) :
    ∃ collected, collectPairs pair? entries texts = .ok collected ∧
      Gathers (given ++ more) collected := by
  induction pairs generalizing given entries with
  | nil => exact ⟨entries, rfl, by rwa [List.append_nil]⟩
  | @cons text pair texts more found _ induction =>
      obtain ⟨collected, done, later⟩ := induction (gathers.concat pair)
      refine ⟨collected, ?_, by rwa [List.append_assoc] at later⟩
      rw [collectPairs, found]
      exact done

/-- Texts that are collected all give a pair. -/
theorem pairs_of_collectPairs {pair? : String → Option (String × α)} {texts : List String}
    {entries collected : List (String × α)}
    (done : collectPairs pair? entries texts = .ok collected) :
    ∃ given, List.Forall₂ (fun text pair => pair? text = some pair) texts given := by
  induction texts generalizing entries with
  | nil => exact ⟨[], .nil⟩
  | cons text rest induction =>
      rw [collectPairs] at done
      split at done
      · cases done
      · next name value found =>
          obtain ⟨given, pairs⟩ := induction done
          exact ⟨(name, value) :: given, .cons found pairs⟩

/-- A text has a mark; what stands before the first one and behind it, without the blanks around, is
a name and a value. -/
inductive Gives (mark : Char) (text : String) : String × String → Prop
  | intro (left right : List Char) (whole : text.toList = left ++ mark :: right)
      (first : mark ∉ left) :
      Gives mark text (String.ofList (trim left), String.ofList (trim right))

/-- A text gives the source of a schema: a name and a path, neither of them blank. -/
inductive GivesSource : String → String × Path → Prop
  | intro {text name value : String} (gives : Gives '=' text (name, value)) (named : name ≠ "")
      (located : value ≠ "") : GivesSource text (name, Path.ofText value)

theorem gives_of_cut {mark : Char} {text : String} {left right : List Char}
    (cut : cutAt mark text.toList = some (left, right)) :
    Gives mark text (String.ofList (trim left), String.ofList (trim right)) :=
  .intro left right (eq_append_of_cutAt cut) (notMem_of_cutAt cut)

theorem source?_of_gives {text : String} {source : String × Path}
    (gives : GivesSource text source) : source? text = some source := by
  cases gives with
  | intro gives named located =>
      cases gives with
      | intro left right whole first =>
          have filled : allBlank left = false := by
            rw [← Bool.not_eq_true, ← trim_eq_nil_iff]
            simpa using named
          have filledToo : allBlank right = false := by
            rw [← Bool.not_eq_true, ← trim_eq_nil_iff]
            simpa using located
          rw [source?, whole, cutAt_append first]
          simp [filled, filledToo]

theorem gives_of_source? {text : String} {source : String × Path}
    (found : source? text = some source) : GivesSource text source := by
  rw [source?] at found
  split at found
  · cases found
  · next left right cut =>
      split at found
      · cases found
      · next filled =>
          simp only [Bool.or_eq_true, not_or, ← trim_eq_nil_iff] at filled
          cases found
          exact .intro (gives_of_cut cut) (by simpa using filled.1) (by simpa using filled.2)

theorem parseSources_of_gives {texts : List String} {given : List (String × Path)}
    (gives : List.Forall₂ GivesSource texts given) :
    ∃ sources, parseSources texts = .ok sources ∧ Gathers given sources := by
  have pairs := gives.imp fun _ _ => source?_of_gives
  obtain ⟨sources, collected, gathers⟩ := gathers_collectPairs pairs .nil
  exact ⟨sources, by rw [parseSources, collected]; rfl, gathers⟩

end GraphConsole.CommandLine
