import GraphConsole.Proofs.CommandLine.Pairs

/-! Options that can be given repeatedly: request headers and schema sources. The first text without
a pair is complained of; else there is one entry for each name. Headers in their own spelling are
collected to the same headers again. -/

namespace GraphConsole.CommandLine

open GraphConsole.Files
open GraphConsole.Text

/-- A text without a mark, or with nothing but blanks before the first one. -/
inductive Flawed (mark : Char) (text : String) : Prop
  | unmarked (absent : mark ∉ text.toList) : Flawed mark text
  | unnamed (left right : List Char) (whole : text.toList = left ++ mark :: right)
      (first : mark ∉ left) (blank : ∀ c ∈ left, isBlank c = true) : Flawed mark text

/-- A text that is no source: flawed, or with nothing but blanks behind the first mark. -/
inductive FlawedSource (text : String) : Prop
  | flawed (flawed : Flawed '=' text) : FlawedSource text
  | unlocated (left right : List Char) (whole : text.toList = left ++ '=' :: right)
      (first : '=' ∉ left) (blank : ∀ c ∈ right, isBlank c = true) : FlawedSource text

/-- A text gives a header: a name that is not blank, and a value. -/
inductive GivesHeader : String → String × String → Prop
  | intro {text name value : String} (gives : Gives ':' text (name, value)) (named : name ≠ "") :
      GivesHeader text (name, value)

/-- What comes of texts that should give a pair each: a complaint of the first one that does not,
or all their pairs together. -/
structure Collects (flawed : String → Prop) (gives : String → String × α → Prop) (form : String)
    (texts : List String) (parsed : Except String (List (String × α))) : Prop where
  refused : (∃ complaint, parsed = .error complaint) ↔ ∃ text ∈ texts, flawed text
  quoted : ∀ before text after, texts = before ++ text :: after →
    (∀ early ∈ before, ¬ flawed early) → flawed text →
    parsed = .error ("'" ++ text ++ "' is not in the format '" ++ form ++ "'")
  collected : ∀ entries, parsed = .ok entries →
    ∃ given, List.Forall₂ gives texts given ∧ Gathers given entries

section Collecting

variable {pair? : String → Option (String × α)}

theorem collectPairs_flawed {before after : List String} {text : String}
    (early : ∀ other ∈ before, ∃ pair, pair? other = some pair) (none : pair? text = none)
    (entries : List (String × α)) :
    collectPairs pair? entries (before ++ text :: after) = .error text := by
  induction before generalizing entries with
  | nil => rw [List.nil_append, collectPairs, none]
  | cons other rest induction =>
      obtain ⟨⟨pair, found⟩, later⟩ := List.forall_mem_cons.mp early
      rw [List.cons_append, collectPairs, found]
      exact induction later _

/-- Pairs with names of their own are collected as they are. -/
theorem collectPairs_distinct {texts : List String} {given entries : List (String × α)}
    (pairs : List.Forall₂ (fun text pair => pair? text = some pair) texts given)
    (distinct : ((entries ++ given).map Prod.fst).Nodup) :
    collectPairs pair? entries texts = .ok (entries ++ given) := by
  induction pairs generalizing entries with
  | nil => rw [collectPairs, List.append_nil]
  | @cons text pair texts given found _ induction =>
      have absent : pair.1 ∉ entries.map Prod.fst := by
        rw [List.map_append, List.map_cons, List.nodup_append] at distinct
        exact fun member => distinct.2.2 _ member _ List.mem_cons_self rfl
      rw [List.append_cons] at distinct ⊢
      rw [collectPairs, found]
      dsimp only
      rw [Entries.put_of_notMem _ _ _ absent]
      exact induction distinct

theorem collects_of_decides {flawed : String → Prop} {gives : String → String × α → Prop}
    (none_iff : ∀ text, pair? text = none ↔ flawed text)
    (some_gives : ∀ text pair, pair? text = some pair → gives text pair) (form : String)
    (texts : List String) :
    Collects flawed gives form texts
      ((collectPairs pair? [] texts).mapError fun text => complaint text form) := by
  have stops {before after : List String} {text : String}
      (early : ∀ other ∈ before, ∃ pair, pair? other = some pair) (wrong : flawed text) :
      (collectPairs pair? [] (before ++ text :: after)).mapError (complaint · form) =
        .error (complaint text form) := by
    rw [collectPairs_flawed early ((none_iff text).mpr wrong)]
    rfl
  constructor
  case refused =>
    rcases Sequence.counterparts_or_first (fun text pair => pair? text = some pair) texts with
      ⟨given, pairs⟩ | ⟨before, text, after, rfl, early, none⟩
    · obtain ⟨entries, done, _⟩ := gathers_collectPairs pairs .nil
      rw [done]
      refine ⟨nofun, ?_⟩
      rintro ⟨text, member, wrong⟩
      obtain ⟨pair, _, found⟩ := Sequence.counterpart_of_mem pairs member
      rw [(none_iff text).mpr wrong] at found
      cases found
    · have wrong : flawed text := (none_iff text).mp (Option.eq_none_iff_forall_ne_some.mpr none)
      rw [stops early wrong]
      exact ⟨fun _ => ⟨text, by simp, wrong⟩, fun _ => ⟨_, rfl⟩⟩
  case quoted =>
    rintro before text after rfl unflawed wrong
    refine stops (fun other member => ?_) wrong
    exact Option.ne_none_iff_exists'.mp (mt (none_iff other).mp (unflawed other member))
  case collected =>
    intro entries parsed
    cases done : collectPairs pair? [] texts with
    | error text =>
        rw [done] at parsed
        cases parsed
    | ok collected =>
        rw [done] at parsed
        cases parsed
        obtain ⟨given, pairs⟩ := pairs_of_collectPairs done
        obtain ⟨_, again, gathers⟩ := gathers_collectPairs pairs .nil
        rw [done] at again
        cases again
        exact ⟨given, pairs.imp some_gives, gathers⟩

end Collecting

/-! Headers and sources one by one. -/

theorem flawed_iff (mark : Char) (text : String) :
    Flawed mark text ↔ ∀ left right, cutAt mark text.toList = some (left, right) →
      allBlank left = true := by
  constructor
  · rintro (absent | ⟨left, right, whole, first, blank⟩) before after cut
    · rw [cutAt_of_notMem absent] at cut
      cases cut
    · rw [whole, cutAt_append first] at cut
      cases cut
      exact List.all_eq_true.mpr blank
  · intro blank
    cases cut : cutAt mark text.toList with
    | none =>
        refine .unmarked fun member => ?_
        obtain ⟨left, right, whole, first⟩ := List.eq_append_cons_of_mem member
        rw [whole, cutAt_append first] at cut
        cases cut
    | some parts =>
        obtain ⟨left, right⟩ := parts
        exact .unnamed left right (eq_append_of_cutAt cut) (notMem_of_cutAt cut)
          (List.all_eq_true.mp (blank left right cut))

theorem header?_eq_none_iff (text : String) : header? text = none ↔ Flawed ':' text := by
  rw [flawed_iff, header?]
  cases cutAt ':' text.toList with
  | none => simp
  | some parts =>
      obtain ⟨left, right⟩ := parts
      simp

theorem gives_of_header? {text : String} {header : String × String}
    (found : header? text = some header) : GivesHeader text header := by
  rw [header?] at found
  split at found
  · cases found
  · next left right cut =>
      split at found
      · cases found
      · next filled =>
          rw [← trim_eq_nil_iff] at filled
          cases found
          exact .intro (gives_of_cut cut) (by simpa using filled)

theorem flawedSource_iff (text : String) :
    FlawedSource text ↔ ∀ left right, cutAt '=' text.toList = some (left, right) →
      allBlank left = true ∨ allBlank right = true := by
  constructor
  · rintro (flawed | ⟨left, right, whole, first, blank⟩) before after cut
    · exact .inl ((flawed_iff '=' text).mp flawed before after cut)
    · rw [whole, cutAt_append first] at cut
      cases cut
      exact .inr (List.all_eq_true.mpr blank)
  · intro blank
    cases cut : cutAt '=' text.toList with
    | none =>
        refine .flawed ((flawed_iff '=' text).mpr fun left right found => ?_)
        rw [cut] at found
        cases found
    | some parts =>
        obtain ⟨left, right⟩ := parts
        rcases blank left right cut with unnamed | unlocated
        · refine .flawed ((flawed_iff '=' text).mpr ?_)
          rintro _ _ again
          rw [cut] at again
          cases again
          exact unnamed
        · exact .unlocated left right (eq_append_of_cutAt cut) (notMem_of_cutAt cut)
            (List.all_eq_true.mp unlocated)

theorem source?_eq_none_iff (text : String) : source? text = none ↔ FlawedSource text := by
  rw [flawedSource_iff, source?]
  cases cutAt '=' text.toList with
  | none => simp
  | some parts =>
      obtain ⟨left, right⟩ := parts
      cases named : allBlank left <;> simp [named]

/-- A header as it is written. -/
def spelled (header : String × String) : String :=
  header.1 ++ ": " ++ header.2

theorem header?_spelled {text : String} {header : String × String}
    (gives : GivesHeader text header) : header? (spelled header) = some header := by
  obtain ⟨⟨left, right, _, first⟩, named⟩ := gives
  have absent : ':' ∉ trim left := by
    obtain ⟨before, after, whole, _⟩ := (core_trim left).around
    rw [whole] at first
    exact fun member => first (by simp [member])
  have name : trim (trim left) = trim left := (core_trim left).self.trim_eq
  have value : trim (' ' :: trim right) = trim right :=
    Core.trim_eq {
      around := ⟨[' '], [], by simp, by simp; decide, nofun⟩
      first := (core_trim right).first
      last := (core_trim right).last }
  have filled : allBlank (trim left) = false := by
    rw [← Bool.not_eq_true, ← trim_eq_nil_iff, name]
    simpa using named
  have whole : (spelled (String.ofList (trim left), String.ofList (trim right))).toList =
      trim left ++ ':' :: ' ' :: trim right := by
    simp [spelled]
  rw [header?, whole, cutAt_append absent]
  simp [filled, name, value]

theorem headers_collected (texts : List String) :
    Collects (Flawed ':') GivesHeader "Name: Value" texts (parseHeaders texts) :=
  collects_of_decides header?_eq_none_iff (fun _ _ => gives_of_header?) _ texts

theorem parseHeaders_spelled {texts : List String} {headers : List (String × String)}
    (parsed : parseHeaders texts = .ok headers) :
    parseHeaders (headers.map spelled) = .ok headers := by
  obtain ⟨given, gives, gathers⟩ := (headers_collected texts).collected headers parsed
  have again : ∀ header ∈ headers, header? (spelled header) = some header := by
    intro header member
    obtain ⟨text, _, found⟩ :=
      Sequence.counterpart_of_mem gives.flip (gathers.given_of_mem member)
    exact header?_spelled found
  have pairs : List.Forall₂ (fun text header => header? text = some header)
      (headers.map spelled) headers :=
    List.forall₂_map_left_iff.mpr (List.forall₂_same.mpr again)
  have collected : collectPairs header? [] (headers.map spelled) = .ok headers :=
    collectPairs_distinct pairs gathers.distinct
  rw [parseHeaders, collected]
  rfl

/-- The first text that is flawed is complained of. Without one there is an entry for each name, in
the order in which they come up and with the value given last, and the headers come of their own
spellings again. -/
theorem repeated_options_collected (texts : List String) :
    Collects (Flawed ':') GivesHeader "Name: Value" texts (parseHeaders texts) ∧
      Collects FlawedSource GivesSource "NAME=PATH" texts (parseSources texts) ∧
      ∀ headers, parseHeaders texts = .ok headers →
        parseHeaders (headers.map fun (name, value) => name ++ ": " ++ value) = .ok headers := by
  refine ⟨headers_collected texts, ?_, fun _ => parseHeaders_spelled⟩
  exact collects_of_decides source?_eq_none_iff (fun _ _ => gives_of_source?) _ texts

end GraphConsole.CommandLine
