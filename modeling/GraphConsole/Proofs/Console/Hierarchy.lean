import GraphConsole.Console.Log

/-! The hierarchy of loggers, in which only the package's logger is ever configured. Its console is
given the records of that logger and of those below it, each once. -/

namespace GraphConsole.Log

/-! Loggers that have never been configured let records pass unchanged. -/

/-- What a logger and those above it do with a record: the level from which on they let it pass, and
how many consoles it comes to on its way up. -/
structure Standing where
  level : Nat
  consoles : Nat
deriving DecidableEq

def standingOf (lineage : List Logger) : Standing where
  level := Hierarchy.levelOf lineage
  consoles := (Hierarchy.handlersOf lineage).count .console

theorem standingOf_plain (above : List Logger) : standingOf ({} :: above) = standingOf above := by
  simp [standingOf, Hierarchy.levelOf, Hierarchy.handlersOf]

/-- The standing of loggers of which none has been configured. -/
def Standing.outside : Standing := ⟨30, 0⟩

theorem standingOf_bare {root : Logger} (bare : root.consoleCount = 0) (level : root.level = 30) :
    standingOf [root] = .outside := by
  have none : root.handlers.count .console = 0 := bare
  simp [standingOf, Hierarchy.levelOf, Hierarchy.handlersOf, none, level, Standing.outside]

/-- A logger that keeps its records to itself and has a level decides on them alone. -/
theorem standingOf_closed {logger : Logger} (leveled : logger.level ≠ 0)
    (closed : logger.propagates = false) (above : List Logger) :
    standingOf (logger :: above) = ⟨logger.level, logger.consoleCount⟩ := by
  simp only [standingOf, Hierarchy.levelOf, Hierarchy.handlersOf, if_neg leveled, closed,
    Bool.false_eq_true, ↓reduceIte, List.append_nil]
  rfl

theorem Logger.consoleCount_configure (logger : Logger) (level : Option LogLevel) :
    (logger.configure level).consoleCount = 1 := by
  have earlier : (logger.handlers.filter fun handler => handler != .console).countP
      (fun handler => handler == .console) = 0 := by
    rw [List.countP_eq_zero]
    intro handler member
    simpa using (List.mem_filter.mp member).2
  rw [consoleCount, configure, List.countP_append, earlier]
  rfl

theorem threshold_ne_zero (level : Option LogLevel) : LogLevel.threshold level ≠ 0 := by
  rcases level with _ | level
  · decide
  · cases level <;> decide

namespace Hierarchy

theorem find?_ask (hierarchy : Hierarchy) (name other : String) :
    (hierarchy.ask name).find? other =
      if other = name then some ((hierarchy.find? name).getD {}) else hierarchy.find? other := by
  unfold ask
  split
  · next logger found =>
      split
      · next same => rw [same, found, Option.getD_some]
      · rfl
  · next missing =>
      rw [missing, Option.getD_none, find?, List.lookup_cons]
      split
      · next same => rw [if_pos (beq_iff_eq.mp same)]
      · next different => rw [if_neg (beq_eq_false_iff_ne.mp different), find?]

theorem find?_configure (hierarchy : Hierarchy) (level : Option LogLevel) (name : String) :
    (hierarchy.configure level).find? name =
      if name = packageName then some (hierarchy.package.configure level)
      else hierarchy.find? name := by
  rw [find?, configure, List.lookup_cons]
  split
  · next same => rw [if_pos (beq_iff_eq.mp same)]
  · next different => rw [if_neg (beq_eq_false_iff_ne.mp different), find?]

theorem package_configure (hierarchy : Hierarchy) (level : Option LogLevel) :
    (hierarchy.configure level).package = hierarchy.package.configure level := by
  rw [package, find?_configure, if_pos rfl, Option.getD_some]

/-- Loggers have been asked for by these names, and by no others. -/
def Asked (hierarchy : Hierarchy) (asked : List String) : Prop :=
  ∀ name, name ∈ asked ↔ (hierarchy.find? name).isSome = true

def names (hierarchy : Hierarchy) : List String :=
  hierarchy.named.map Prod.fst

theorem asked_names (hierarchy : Hierarchy) : hierarchy.Asked hierarchy.names := by
  intro name
  rw [find?, List.lookup_isSome_iff, names, List.mem_map]
  constructor
  · rintro ⟨entry, member, rfl⟩
    exact ⟨entry, member, beq_self_eq_true _⟩
  · rintro ⟨entry, member, same⟩
    exact ⟨entry, member, (beq_iff_eq.mp same).symm⟩

theorem Asked.ask {hierarchy : Hierarchy} {asked : List String} (known : hierarchy.Asked asked)
    (name : String) : (hierarchy.ask name).Asked (name :: asked) := by
  intro other
  rw [find?_ask, List.mem_cons]
  split
  · next same => simp [same]
  · next different => simp [different, known other]

/-- No logger but the package's has a handler, and none but that and the root a level of its own. -/
structure Plain (hierarchy : Hierarchy) : Prop where
  root : hierarchy.root.consoleCount = 0
  rootLevel : hierarchy.root.level = 30
  named : ∀ name logger, hierarchy.find? name = some logger → name ≠ packageName → logger = {}

/-- The package's logger has the only console of the log, which nothing passes by. -/
structure Configured (hierarchy : Hierarchy) (threshold : Nat) : Prop extends Plain hierarchy where
  there : hierarchy.find? packageName = some hierarchy.package
  single : hierarchy.package.consoleCount = 1
  closed : hierarchy.package.propagates = false
  level : hierarchy.package.level = threshold
  leveled : hierarchy.package.level ≠ 0

theorem root_ask (hierarchy : Hierarchy) (name : String) :
    (hierarchy.ask name).root = hierarchy.root := by
  unfold ask
  split <;> rfl

theorem plain_empty : Plain {} where
  root := rfl
  rootLevel := rfl
  named := nofun

theorem Plain.ask {hierarchy : Hierarchy} (plain : hierarchy.Plain) (name : String) :
    (hierarchy.ask name).Plain where
  root := by rw [root_ask, plain.root]
  rootLevel := by rw [root_ask, plain.rootLevel]
  named := by
    intro other logger found different
    rw [find?_ask] at found
    split at found
    · next same =>
        cases there : hierarchy.find? name with
        | none => simpa [there] using found.symm
        | some earlier =>
            rw [there, Option.getD_some, Option.some.injEq] at found
            exact plain.named name logger (found ▸ there) (same ▸ different)
    · exact plain.named other logger found different

theorem Plain.configured {hierarchy : Hierarchy} (plain : hierarchy.Plain)
    (level : Option LogLevel) :
    (hierarchy.configure level).Configured (LogLevel.threshold level) where
  root := plain.root
  rootLevel := plain.rootLevel
  named := by
    intro name logger found different
    rw [find?_configure, if_neg different] at found
    exact plain.named name logger found different
  there := by rw [package_configure, find?_configure, if_pos rfl]
  single := by rw [package_configure, Logger.consoleCount_configure]
  closed := by rw [package_configure, Logger.configure]
  level := by rw [package_configure, Logger.configure]
  leveled := by
    rw [package_configure, Logger.configure]
    exact threshold_ne_zero level

theorem Configured.package_ask {hierarchy : Hierarchy} {threshold : Nat}
    (configured : hierarchy.Configured threshold) (name : String) :
    (hierarchy.ask name).package = hierarchy.package := by
  rw [package, find?_ask]
  split
  · next same => rw [← same, configured.there, Option.getD_some, Option.getD_some]
  · rfl

theorem Configured.ask {hierarchy : Hierarchy} {threshold : Nat}
    (configured : hierarchy.Configured threshold) (name : String) :
    (hierarchy.ask name).Configured threshold where
  toPlain := configured.toPlain.ask name
  there := by
    rw [configured.package_ask, find?_ask]
    split
    · next same => rw [← same, configured.there, Option.getD_some]
    · exact configured.there
  single := by rw [configured.package_ask, configured.single]
  closed := by rw [configured.package_ask, configured.closed]
  level := by rw [configured.package_ask, configured.level]
  leveled := by
    rw [configured.package_ask]
    exact configured.leveled

/-- What has been answered changes no logger. -/
theorem Configured.remember {hierarchy : Hierarchy} {threshold : Nat}
    (configured : hierarchy.Configured threshold) (record : Record) :
    (hierarchy.remember record).Configured threshold where
  root := configured.root
  rootLevel := configured.rootLevel
  named := configured.named
  there := configured.there
  single := configured.single
  closed := configured.closed
  level := configured.level
  leveled := configured.leveled

theorem above_letter (hierarchy : Hierarchy) {c : Char} (letter : c ≠ '.')
    (rest : List Char) : hierarchy.above (c :: rest) = hierarchy.above rest := by
  rw [Hierarchy.above]
  · exact fun same _ => letter same
  · exact fun _ _ same _ => letter same

/-- Induction along the search for parents, which goes on behind a dot or behind what it has tried
there. -/
@[elab_as_elim]
theorem search_induction {motive : List Char → Prop} (s : List Char) (nil : motive [])
    (dot : motive ['.'])
    (dots : ∀ c rest, motive (c :: rest) → motive rest → motive ('.' :: c :: rest))
    (letter : ∀ c rest, c ≠ '.' → motive rest → motive (c :: rest)) : motive s := by
  suffices both : motive s ∧ motive s.tail from both.1
  induction s with
  | nil => exact ⟨nil, nil⟩
  | cons c s induction =>
      refine ⟨?_, induction.1⟩
      by_cases isDot : c = '.'
      · subst isDot
        cases s with
        | nil => exact dot
        | cons d rest => exact dots d rest induction.1 induction.2
      · exact letter c s isDot induction.1

end Hierarchy

/-! Which loggers stand below the package's. A name goes on behind the package's with dots. -/

/-- The package's name with so many dots behind it. -/
def dotted (dots : Nat) : String :=
  String.ofList (packageName.toList ++ List.replicate dots '.')

/-- The same from its end, as the search for parents takes it. -/
def dottedBackwards (dots : Nat) : List Char :=
  List.replicate dots '.' ++ packageName.toList.reverse

theorem reverse_dottedBackwards (dots : Nat) :
    (dottedBackwards dots).reverse = packageName.toList ++ List.replicate dots '.' := by
  rw [dottedBackwards, List.reverse_append, List.reverse_reverse, List.reverse_replicate]

/-- Whether a logger is below the package's if its name goes on with so many dots. A logger with one
dot less is its parent if it has been asked for, else the dot before that one is passed over. -/
def hangs (asked : List String) : Nat → Bool
  | 0 => false
  | 1 => true
  | dots + 2 => if dotted (dots + 1) ∈ asked then hangs asked (dots + 1) else hangs asked dots

def dotsBehind (name : String) : Nat :=
  ((name.toList.drop packageName.toList.length).takeWhile fun c => c == '.').length

/-- Whether a name is the package's or that of a logger below it, where some loggers have been asked
for. -/
def belongs (asked : List String) (name : String) : Bool :=
  name == packageName ||
    (packageName.toList.isPrefixOf name.toList && hangs asked (dotsBehind name))

/-- The standing of the package's logger, or of one below it, or of any other. -/
def Standing.of (threshold : Nat) (below : Bool) : Standing :=
  if below then ⟨threshold, 1⟩ else .outside

namespace Hierarchy.Configured

variable {hierarchy : Hierarchy} {threshold : Nat}

theorem standing_package (configured : hierarchy.Configured threshold) (above : List Logger) :
    standingOf (hierarchy.package :: above) = .of threshold true := by
  rw [standingOf_closed configured.leveled configured.closed, configured.level, configured.single]
  rfl

theorem standing_root (configured : hierarchy.Configured threshold) :
    standingOf [hierarchy.root] = .of threshold false :=
  standingOf_bare configured.root configured.rootLevel

/-- The search for a parent at a dot: any logger but the package's is passed on its way. -/
theorem standing_dot (configured : hierarchy.Configured threshold) (c : Char) (rest : List Char)
    (different : (c :: rest).reverse ≠ packageName.toList) :
    standingOf (hierarchy.above ('.' :: c :: rest)) =
      if (hierarchy.find? (String.ofList (c :: rest).reverse)).isSome = true then
        standingOf (hierarchy.above (c :: rest))
      else standingOf (hierarchy.above rest) := by
  rw [Hierarchy.above]
  split
  · next logger found =>
      have other : String.ofList (c :: rest).reverse ≠ packageName := by
        intro same
        exact different (by rw [← same, String.toList_ofList])
      rw [configured.named _ logger found other, standingOf_plain, found, Option.isSome_some,
        if_pos rfl]
  · next missing => rw [missing, Option.isSome_none, if_neg Bool.false_ne_true]

theorem standing_package_dot (configured : hierarchy.Configured threshold) (c : Char)
    (rest : List Char) (same : (c :: rest).reverse = packageName.toList) :
    standingOf (hierarchy.above ('.' :: c :: rest)) = .of threshold true := by
  rw [Hierarchy.above, same, String.ofList_toList, configured.there]
  exact configured.standing_package _

/-- Nothing above a name comes to the package's logger unless the name goes on behind it. -/
theorem standing_foreign (configured : hierarchy.Configured threshold) (s : List Char)
    (foreign : ¬ packageName.toList ++ ['.'] <+: s.reverse) :
    standingOf (hierarchy.above s) = .of threshold false := by
  induction s using search_induction with
  | nil => exact configured.standing_root
  | dot => exact configured.standing_root
  | dots c rest nearer farther =>
      -- Otherwise the name would go on behind the package's with this dot.
      have different : (c :: rest).reverse ≠ packageName.toList := by
        intro same
        exact foreign ⟨[], by rw [List.append_nil, List.reverse_cons, same]⟩
      rw [configured.standing_dot c rest different]
      split
      · exact nearer fun within => foreign (within.trans ⟨['.'], List.reverse_cons.symm⟩)
      · exact farther fun within => foreign (within.trans ⟨[c, '.'], by simp⟩)
  | letter c rest isLetter farther =>
      rw [hierarchy.above_letter isLetter]
      exact farther fun within => foreign (within.trans ⟨[c], List.reverse_cons.symm⟩)

/-- What stands behind the dots does not matter. -/
theorem standing_behind (configured : hierarchy.Configured threshold) {c : Char}
    (isLetter : c ≠ '.') (s front : List Char)
    (long : packageName.toList.length ≤ front.length) :
    standingOf (hierarchy.above (s ++ c :: front)) = standingOf (hierarchy.above front) := by
  -- Whatever is tried behind `front` is longer than the package's name.
  have different (rest : List Char) : (rest ++ c :: front).reverse ≠ packageName.toList := by
    intro same
    have lengths := congrArg List.length same
    simp only [List.length_reverse, List.length_append, List.length_cons] at lengths
    omega
  have here : standingOf (hierarchy.above (c :: front)) = standingOf (hierarchy.above front) := by
    rw [hierarchy.above_letter isLetter]
  induction s using search_induction with
  | nil => exact here
  | dot =>
      rw [List.singleton_append, configured.standing_dot c front (different [])]
      split
      · exact here
      · rfl
  | dots d rest nearer farther =>
      rw [List.cons_append, List.cons_append,
        configured.standing_dot d (rest ++ c :: front) (different (d :: rest))]
      split
      · exact nearer
      · exact farther
  | letter d rest otherLetter farther =>
      rw [List.cons_append, hierarchy.above_letter otherLetter]
      exact farther

theorem standing_dots (configured : hierarchy.Configured threshold) (dots : Nat) :
    standingOf (hierarchy.above (dottedBackwards (dots + 2))) =
      if (hierarchy.find? (dotted (dots + 1))).isSome = true then
        standingOf (hierarchy.above (dottedBackwards (dots + 1)))
      else standingOf (hierarchy.above (dottedBackwards dots)) := by
  have tried : ('.' :: dottedBackwards dots).reverse =
      packageName.toList ++ List.replicate (dots + 1) '.' :=
    reverse_dottedBackwards (dots + 1)
  have different : ('.' :: dottedBackwards dots).reverse ≠ packageName.toList := by
    simp [tried]
  have searched := configured.standing_dot '.' (dottedBackwards dots) different
  rw [tried] at searched
  exact searched

/-- The rule for dots is that of the search for parents. -/
theorem standing_dotted (configured : hierarchy.Configured threshold) {asked : List String}
    (known : hierarchy.Asked asked) (dots : Nat) :
    standingOf (hierarchy.above (dottedBackwards dots)) = .of threshold (hangs asked dots) := by
  induction dots using hangs.induct asked with
  | case1 => rw [configured.standing_foreign _ (by decide), hangs]
  | case2 =>
      have spelled : dottedBackwards 1 = '.' :: 'r' :: ['e', 'v', 'o', 'r'] := rfl
      rw [spelled, configured.standing_package_dot _ _ rfl, hangs]
  | case3 dots there induction =>
      rw [configured.standing_dots, if_pos ((known _).mp there), induction, hangs, if_pos there]
  | case4 dots missing induction =>
      rw [configured.standing_dots, if_neg fun there => missing ((known _).mpr there), induction,
        hangs, if_neg missing]

/-- A name that goes on behind the package's, cut where the dots end. -/
theorem standing_prefixed (configured : hierarchy.Configured threshold) {asked : List String}
    (known : hierarchy.Asked asked) {name : String}
    (within : packageName.toList <+: name.toList) :
    standingOf (hierarchy.above name.toList.reverse) =
      .of threshold (hangs asked (dotsBehind name)) := by
  obtain ⟨behind, split⟩ := within
  have dots : behind.takeWhile (fun c => c == '.') = List.replicate (dotsBehind name) '.' := by
    rw [dotsBehind, ← split, List.drop_left, List.eq_replicate_iff]
    refine ⟨rfl, fun c member => ?_⟩
    simpa using List.all_eq_true.mp List.all_takeWhile c member
  have cut : name.toList.reverse =
      (behind.dropWhile fun c => c == '.').reverse ++ dottedBackwards (dotsBehind name) := by
    rw [← split, dottedBackwards, ← List.reverse_replicate, ← dots, ← List.append_assoc,
      ← List.reverse_append, List.takeWhile_append_dropWhile, ← List.reverse_append]
  rw [cut, ← configured.standing_dotted known]
  cases ends : behind.dropWhile fun c => c == '.' with
  | nil => rfl
  | cons c rest =>
      have letter : c ≠ '.' := by
        have stops := List.head?_dropWhile_not (fun c => c == '.') behind
        rw [ends] at stops
        simpa using stops
      rw [List.reverse_cons, List.append_assoc, List.singleton_append]
      exact configured.standing_behind letter _ _ (by simp [dottedBackwards])

/-- A logger stands by the package's name, or by the dots that it goes on with. -/
theorem standing_lineage (configured : hierarchy.Configured threshold) {asked : List String}
    (known : hierarchy.Asked asked) {name : String} (there : name ∈ asked) :
    standingOf (hierarchy.lineage name) = .of threshold (belongs asked name) := by
  rw [lineage]
  by_cases own : name = packageName
  · have self : belongs asked name = true := by simp [belongs, own]
    rw [self, own, configured.there]
    exact configured.standing_package _
  · have different : (name == packageName) = false := beq_eq_false_iff_ne.mpr own
    obtain ⟨logger, found⟩ := Option.isSome_iff_exists.mp ((known _).mp there)
    rw [found, configured.named _ logger found own, Option.toList_some, List.singleton_append,
      standingOf_plain, belongs, different, Bool.false_or]
    by_cases within : packageName.toList <+: name.toList
    · rw [configured.standing_prefixed known within, List.isPrefixOf_iff_prefix.mpr within,
        Bool.true_and]
    · have foreign : packageName.toList.isPrefixOf name.toList = false :=
        Bool.eq_false_iff.mpr fun below => within (List.isPrefixOf_iff_prefix.mp below)
      rw [configured.standing_foreign, foreign, Bool.false_and]
      rw [List.reverse_reverse]
      exact fun below => within ((List.prefix_append _ _).trans below)

end Hierarchy.Configured

end GraphConsole.Log
