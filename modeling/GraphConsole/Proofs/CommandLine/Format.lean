import GraphConsole.CommandLine.Invocation
import Mathlib.Data.List.Basic

/-! Command lines that differ in the output format only. The option for it, put in front, decides
on nothing else, whatever the other words are. -/

namespace GraphConsole.CommandLine

def Invocation.withFormat (format : Format) (invocation : Invocation) : Invocation :=
  { invocation with settings := { invocation.settings with format := format } }

/-- Two readings of command lines that differ at most in the resolved output format. -/
def SameButFormat (first second : Except Halt Invocation) : Prop :=
  first.map (Invocation.withFormat .plain) = second.map (Invocation.withFormat .plain)

theorem Invocation.exists_withFormat {first second : Invocation}
    (same : first.withFormat .plain = second.withFormat .plain) :
    ∃ format, second = first.withFormat format := by
  obtain ⟨⟨format, logLevel, configHome⟩, usage, task⟩ := first
  obtain ⟨⟨other, otherLevel, otherHome⟩, otherUsage, otherTask⟩ := second
  cases same
  exact ⟨other, rfl⟩

/-! Scanning behind an option. -/

def Scan.behind (front : List (String × Option String)) (scan : Scan) : Scan :=
  { scan with given := front ++ scan.given }

theorem Scan.behind_add (front more : List (String × Option String)) (scan : Scan) :
    (scan.behind front).add more = (scan.add more).behind front := by
  simp [Scan.behind, Scan.add]

theorem scanWords_behind (front : List (String × Option String)) (usage : Usage)
    (parameters : List Parameter) (interspersed : Bool) (words : List String) (scan : Scan) :
    scanWords usage parameters interspersed words (scan.behind front) =
      (scanWords usage parameters interspersed words scan).map (Scan.behind front) := by
  fun_induction scanWords usage parameters interspersed words scan with
  | case1 scan => rfl
  | case2 rest scan =>
      rw [scanWords, if_pos rfl]
      rfl
  | case3 word rest scan plain hyphen halt refused =>
      rw [scanWords, if_neg plain, if_pos hyphen, refused]
      rfl
  | case4 word scan plain hyphen reading read rest done induction =>
      rw [scanWords, if_neg plain, if_pos hyphen, read]
      simp only [done]
      rw [Scan.behind_add, induction]
  | case5 word scan plain hyphen reading read parameter spelling pending =>
      rw [scanWords, if_neg plain, if_pos hyphen, read]
      simp only [pending]
      rfl
  | case6 word scan plain hyphen reading read parameter spelling value rest pending induction =>
      rw [scanWords, if_neg plain, if_pos hyphen, read]
      simp only [pending]
      rw [Scan.behind_add, induction]
  | case7 word rest scan plain hyphen mixed induction =>
      rw [scanWords, if_neg plain, if_neg hyphen, if_pos mixed]
      exact induction
  | case8 word rest scan plain hyphen mixed =>
      rw [scanWords, if_neg plain, if_neg hyphen, if_neg mixed]
      rfl

/-! The values that the parameters get. -/

def formatOption : Parameter :=
  { Parameter.option "--format" with
    shape := .choice (Format.all.map Format.name), fallback := some Format.plain.name,
    environment := some "ROVER_FORMAT" }

theorem bindOne_formatName (usage : Usage) (setting : Setting) (format : Format) :
    bindOne usage setting formatOption [some format.name] = .ok (.one format.name) := by
  cases format with
  | plain => rfl
  | json => rfl

theorem find_formatOption :
    globalOptions.find? (fun parameter => parameter.name == "--format") = some formatOption := by
  decide +kernel

/-- Only the option's own values tell that it stands in front. -/
theorem optionsGiven_format (value : String) (given : List (String × Option String)) :
    optionsGiven globalOptions (("--format", some value) :: given) =
      (formatOption,
          some value :: (given.filter fun (name, _) => name == "--format").map Prod.snd) ::
        optionsGiven globalOptions (given.filter fun (name, _) => !(name == "--format")) := by
  unfold optionsGiven
  dsimp only
  rw [List.map_cons, List.eraseDups_cons, List.filterMap_cons, find_formatOption,
    List.filter_map]
  simp only [Option.map_some]
  congr 1
  apply List.filterMap_congr
  intro name member
  have other : (name == "--format") = false := by
    rw [List.mem_eraseDups] at member
    obtain ⟨entry, kept, rfl⟩ := List.mem_map.mp member
    simpa using (List.mem_filter.mp kept).2
  have different : name ≠ "--format" := by simpa using other
  have kept : (given.filter fun (entry, _) => !(entry == "--format")).filter
      (fun (entry, _) => entry == name) = given.filter fun (entry, _) => entry == name := by
    rw [List.filter_filter]
    apply List.filter_congr
    intro entry _
    by_cases same : entry.1 = name
    · simp [same, different]
    · simp [same]
  rw [List.filter_cons, kept]
  simp [different.symm]

theorem bindingOrder_format (given : List (String × Option String)) :
    ∃ later rest, ∀ value, bindingOrder globalOptions ⟨("--format", some value) :: given, []⟩ =
      (formatOption, some value :: later) :: rest := by
  refine ⟨(given.filter fun (name, _) => name == "--format").map Prod.snd,
    (bindingOrder globalOptions ⟨("--format", some "") :: given, []⟩).tail, fun value => ?_⟩
  rw [bindingOrder, bindingOrder, optionsGiven_format, optionsGiven_format]
  rfl

/-! Readings that halt alike, or else give related values. -/

inductive Tied (related : α → α → Prop) : Except Halt α → Except Halt α → Prop
  | halted (halt : Halt) : Tied related (.error halt) (.error halt)
  | given {first second : α} (tie : related first second) : Tied related (.ok first) (.ok second)

namespace Tied

variable {related : α → α → Prop} {bound : β → β → Prop} {first second : Except Halt α}

theorem bind {next other : α → Except Halt β} (early : Tied related first second)
    (late : ∀ one two, related one two → Tied bound (next one) (other two)) :
    Tied bound (first >>= next) (second >>= other) := by
  cases early with
  | halted halt => exact .halted halt
  | given tie => exact late _ _ tie

theorem same (reading : Except Halt α) : Tied Eq reading reading := by
  cases reading with
  | error halt => exact .halted halt
  | ok value => exact .given rfl

end Tied

/-- Bindings that differ at most in the value of the option for the format. -/
inductive FormatApart : Bound → Bound → Prop
  | equal (bound : Bound) : FormatApart bound bound
  | apart (bound : Bound) (first second : Format) :
      FormatApart (("--format", .one first.name) :: bound)
        (("--format", .one second.name) :: bound)

theorem tied_bindAll (usage : Usage) (setting : Setting) (first second : Format)
    (later : List (Option String)) (rest : List (Parameter × List (Option String))) :
    Tied FormatApart (bindAll usage setting ((formatOption, some first.name :: later) :: rest))
      (bindAll usage setting ((formatOption, some second.name :: later) :: rest)) := by
  cases later with
  | cons value later =>
      have unread :
          bindAll usage setting ((formatOption, some first.name :: value :: later) :: rest) =
            bindAll usage setting ((formatOption, some second.name :: value :: later) :: rest) :=
        rfl
      rw [unread]
      cases bindAll usage setting ((formatOption, some second.name :: value :: later) :: rest) with
      | error halt => exact .halted halt
      | ok bound => exact .given (.equal bound)
  | nil =>
      rw [bindAll, bindAll, bindOne_formatName, bindOne_formatName]
      cases bindAll usage setting rest with
      | error halt => exact .halted halt
      | ok bound => exact .given (.apart bound first second)

/-! Reading a command line with the option in front. -/

theorem scanWords_format (usage : Usage) (format : Format) (words : List String) :
    scanWords usage globalOptions false ("--format" :: format.name :: words) {} =
      (scanWords usage globalOptions false words {}).map
        (Scan.behind [("--format", some format.name)]) := by
  have read : readOption usage globalOptions "--format" =
      .ok { pending := some (formatOption, "--format") } := by
    rfl
  rw [scanWords, if_neg (by decide), if_pos (by decide), read]
  exact scanWords_behind [("--format", some format.name)] usage globalOptions false words {}

theorem isGiven_behind (value : Option String) (scan : Scan) (name : String)
    (other : name ≠ "--format") :
    isGiven (scan.behind [("--format", value)]) name = isGiven scan name := by
  simp [isGiven, Scan.behind, other]

theorem tied_readGlobals (setting : Setting) (first second : Format) (words : List String) :
    Tied (fun one two => FormatApart one.1 two.1 ∧ one.2 = two.2)
      (readGlobals setting ("--format" :: first.name :: words))
      (readGlobals setting ("--format" :: second.name :: words)) := by
  unfold readGlobals
  dsimp only
  rw [scanWords_format, scanWords_format]
  cases scanWords (Usage.ofGroup []) globalOptions false words {} with
  | error halt => exact .halted halt
  | ok scan =>
      simp only [Except.map, Bind.bind, Except.bind, helpAsked,
        isGiven_behind _ scan "--version" (by decide), isGiven_behind _ scan "--help" (by decide)]
      by_cases version : isGiven scan "--version" = true
      · simp only [version]
        exact .halted _
      · by_cases help : isGiven scan "--help" = true
        · simp only [version, help]
          exact .halted _
        · simp only [version, help]
          obtain ⟨later, rest, order⟩ := bindingOrder_format scan.given
          have front : ∀ format : Format, bindingOrder globalOptions
              ⟨(scan.behind [("--format", some format.name)]).given, []⟩ =
                (formatOption, some format.name :: later) :: rest := fun format => order format.name
          rw [front, front]
          exact .bind (tied_bindAll _ setting first second later rest) fun one two tie =>
            .given ⟨tie, rfl⟩

theorem settingsOf_formatApart (environment : List (String × String)) {first second : Bound}
    (tie : FormatApart first second) :
    { settingsOf environment first with format := .plain } =
      { settingsOf environment second with format := .plain } := by
  cases tie with
  | equal bound => rfl
  | apart bound early late =>
      have log : ("--log" == "--format") = false := by decide
      have home : ("--config-home" == "--format") = false := by decide
      simp [settingsOf, Bound.text?, List.lookup_cons, log, home]

theorem sameButFormat_of_tied {first second : Except Halt Invocation}
    (tied : Tied (fun one two => one.withFormat .plain = two.withFormat .plain) first second) :
    SameButFormat first second := by
  cases tied with
  | halted halt => rfl
  | given tie => exact congrArg Except.ok tie

/-- With the option in front, command lines that differ in its value ask for the same, whatever
their other words are. -/
theorem sameButFormat_front (setting : Setting) (first second : Format) (words : List String) :
    SameButFormat (readInvocation setting ("--format" :: first.name :: words))
      (readInvocation setting ("--format" :: second.name :: words)) := by
  apply sameButFormat_of_tied
  refine .bind (tied_readGlobals setting first second words) ?_
  rintro ⟨bound, operands⟩ ⟨other, _⟩ ⟨tie, rfl⟩
  refine .bind (.same _) ?_
  rintro ⟨form, rest⟩ _ rfl
  refine .bind (.same _) ?_
  rintro task _ rfl
  have settings := settingsOf_formatApart setting.environment tie
  exact .given (by simp [Invocation.withFormat, settings])

end GraphConsole.CommandLine
