import GraphConsole.Json.Reader

/-! What the reader of JSON texts refuses beyond malformed ones. A text that it finds too deep opens
more arrays and objects than it may nest, and one in which it finds an integer too long has a run of
digits beyond the limit. -/

namespace GraphConsole.Json

open GraphConsole.Text

/-- How often a text opens an array or an object, or seems to. -/
def openings (s : List Char) : Nat :=
  s.countP fun c => c == '[' || c == '{'

/-- Why a text is refused: it goes beyond a limit, if it might be well-formed. -/
inductive Excess (limits : Limits) (room : Nat) (s : List Char) : Refusal → Prop
  | malformed : Excess limits room s .malformed
  | tooDeep (container : Container) (deep : room < openings s) :
      Excess limits room s (.tooDeep container)
  | integerTooLong (digits : List Char) (long : limits.digits < digits.length)
      (whole : ∀ c ∈ digits, isDigit c = true) (part : digits <:+: s) :
      Excess limits room s (.integerTooLong digits.length)

/-- What a reader leaves of a text is an end of it, and what it refuses has a reason. -/
def Reads (limits : Limits) (room : Nat) (s : List Char) :
    Except Refusal (α × List Char) → Prop
  | .ok (_, rest) => rest <:+ s
  | .error refusal => Excess limits room s refusal

variable {limits : Limits} {room : Nat} {s rest : List Char}

theorem openings_le_of_suffix (ending : rest <:+ s) : openings rest ≤ openings s :=
  ending.sublist.countP_le

theorem Excess.of_suffix {refusal : Refusal} (excess : Excess limits room rest refusal)
    (ending : rest <:+ s) : Excess limits room s refusal := by
  cases excess with
  | malformed => exact .malformed
  | tooDeep container deep =>
      exact .tooDeep container (Nat.lt_of_lt_of_le deep (openings_le_of_suffix ending))
  | integerTooLong digits long whole part =>
      exact .integerTooLong digits long whole (part.trans ending.isInfix)

/-- Behind an opening there is one level less to go. -/
theorem Excess.of_opening {refusal : Refusal} (excess : Excess limits room rest refusal) {c : Char}
    (opening : c = '[' ∨ c = '{') : Excess limits (room + 1) (c :: rest) refusal := by
  cases excess with
  | malformed => exact .malformed
  | tooDeep container deep =>
      refine .tooDeep container ?_
      have more : openings (c :: rest) = openings rest + 1 := by
        rw [openings, List.countP_cons_of_pos (by rcases opening with rfl | rfl <;> decide),
          ← openings]
      omega
  | integerTooLong digits long whole part =>
      exact .integerTooLong digits long whole (part.trans (List.suffix_cons c rest).isInfix)

theorem skipSpace_suffix (s : List Char) : skipSpace s <:+ s :=
  List.dropWhile_suffix _

/-! Strings. -/

theorem suffix_of_readUnit {unit : Nat} (read : readUnit s = some (unit, rest)) : rest <:+ s := by
  unfold readUnit at read
  split at read
  · next a b c d behind =>
    simp only [Option.bind_eq_bind, Option.bind_eq_some_iff, Option.pure_def] at read
    obtain ⟨_, _, _, _, _, _, _, _, same⟩ := read
    cases same
    exact ⟨[a, b, c, d], rfl⟩
  · cases read

theorem suffix_of_readLowHalf {unit : Nat} (read : readLowHalf s = some (unit, rest)) :
    rest <:+ s := by
  unfold readLowHalf at read
  split at read
  · split at read
    · next low behind half =>
      split at read
      · cases read
        exact (suffix_of_readUnit half).trans ⟨['\\', 'u'], rfl⟩
      · cases read
    · cases read
  · cases read

theorem suffix_of_readEscapedUnit {c : Char} (read : readEscapedUnit s = some (c, rest)) :
    rest <:+ s := by
  unfold readEscapedUnit at read
  split at read
  · cases read
  · next unit behind high =>
    have first := suffix_of_readUnit high
    split at read
    · split at read
      · next low beyond half =>
        obtain ⟨_, rfl⟩ := Prod.mk.inj (Option.some.inj read)
        exact (suffix_of_readLowHalf half).trans first
      · obtain ⟨_, rfl⟩ := Prod.mk.inj (Option.some.inj read)
        exact first
    · split at read
      · obtain ⟨_, rfl⟩ := Prod.mk.inj (Option.some.inj read)
        exact first
      · obtain ⟨_, rfl⟩ := Prod.mk.inj (Option.some.inj read)
        exact first

theorem suffix_of_readEscape {c : Char} (read : readEscape s = some (c, rest)) : rest <:+ s := by
  unfold readEscape at read
  split at read
  case h_9 => exact (suffix_of_readEscapedUnit read).trans (List.suffix_cons _ _)
  case h_10 => cases read
  all_goals
    cases read
    exact List.suffix_cons _ _

theorem suffix_of_readString {fuel : Nat} {text : List Char}
    (read : readString fuel s = some (text, rest)) : rest <:+ s := by
  fun_induction readString fuel s generalizing text with
  | case1 => cases read
  | case2 => cases read
  | case3 =>
      cases read
      exact List.suffix_cons _ _
  | case4 => cases read
  | case5 fuel later c behind escaped induction =>
      obtain ⟨⟨more, ending⟩, read, same⟩ := Option.map_eq_some_iff.mp read
      cases same
      have front := (suffix_of_readEscape escaped).trans (List.suffix_cons '\\' later)
      exact (induction read).trans front
  | case6 => cases read
  | case7 fuel c later _ _ _ induction =>
      obtain ⟨⟨more, ending⟩, read, same⟩ := Option.map_eq_some_iff.mp read
      cases same
      exact (induction read).trans (List.suffix_cons c later)

theorem reads_readText (limits : Limits) (room : Nat) (s : List Char) :
    Reads limits room s (readText s) := by
  unfold readText
  split
  · exact .malformed
  · next text rest read => exact suffix_of_readString read

/-! Numbers. -/

theorem readFraction_suffix (s : List Char) : (readFraction s).2 <:+ s := by
  unfold readFraction
  split
  · split
    · exact List.suffix_rfl
    · exact (List.dropWhile_suffix _).trans (List.suffix_cons _ _)
  · exact List.suffix_rfl

theorem readExponentSign_suffix (s : List Char) : (readExponentSign s).2 <:+ s := by
  unfold readExponentSign
  split
  · exact List.suffix_cons _ _
  · exact List.suffix_cons _ _
  · exact List.suffix_rfl

theorem readExponent_suffix (s : List Char) : (readExponent s).2 <:+ s := by
  unfold readExponent
  split
  · exact List.suffix_rfl
  · next mark rest =>
    split
    · dsimp only
      split
      · exact List.suffix_rfl
      · exact ((List.dropWhile_suffix _).trans (readExponentSign_suffix rest)).trans
          (List.suffix_cons _ _)
    · exact List.suffix_rfl

/-- The whole digits of a number stand in front of what is read on. -/
theorem readWhole_some {digits : List Char} (read : readWhole s = some (digits, rest)) :
    (∀ c ∈ digits, isDigit c = true) ∧ digits ++ rest = s := by
  unfold readWhole at read
  split at read
  · cases read
    exact ⟨List.forall_mem_singleton.mpr rfl, rfl⟩
  · split at read
    · cases read
    · cases read
      exact ⟨List.all_eq_true.mp List.all_takeWhile, List.takeWhile_append_dropWhile⟩

theorem reads_readUnsigned (limits : Limits) (room : Nat) (negative : Bool) (s : List Char) :
    Reads limits room s (readUnsigned limits negative s) := by
  unfold readUnsigned
  split
  · exact .malformed
  · next whole behind read =>
    obtain ⟨digits, rfl⟩ := readWhole_some read
    have ending : (readExponent (readFraction behind).2).2 <:+ whole ++ behind :=
      ((readExponent_suffix _).trans (readFraction_suffix behind)).trans
        (List.suffix_append whole behind)
    dsimp only
    split
    · split
      · next long => exact .integerTooLong whole long digits (List.prefix_append _ _).isInfix
      · exact ending
    · exact ending

theorem Reads.of_suffix {answer : Except Refusal (α × List Char)}
    (reads : Reads limits room rest answer) (ending : rest <:+ s) : Reads limits room s answer := by
  cases answer with
  | ok result => exact List.IsSuffix.trans reads ending
  | error refusal => exact Excess.of_suffix reads ending

theorem reads_readNumber (limits : Limits) (room : Nat) (s : List Char) :
    Reads limits room s (readNumber limits s) := by
  unfold readNumber
  split
  · next rest => exact ⟨"-Infinity".toList, rfl⟩
  · next rest _ => exact (reads_readUnsigned limits room true rest).of_suffix (List.suffix_cons _ _)
  · exact reads_readUnsigned limits room false _

/-! Values. The readers of values, of items and of fields call each other with less fuel. -/

theorem suffix_of_skipSpace {c : Char} (found : skipSpace s = c :: rest) : rest <:+ s :=
  (List.suffix_cons c rest).trans (found ▸ skipSpace_suffix s)

theorem Reads.of_opening {answer : Except Refusal (α × List Char)}
    (reads : Reads limits room rest answer) {c : Char} (opening : c = '[' ∨ c = '{') :
    Reads limits (room + 1) (c :: rest) answer := by
  cases answer with
  | ok result => exact List.IsSuffix.trans reads (List.suffix_cons c rest)
  | error refusal => exact Excess.of_opening reads opening

section Values

variable {fuel : Nat}

theorem reads_readValue_succ
    (items : ∀ room s, Reads limits room s (readItems limits fuel room s))
    (fields : ∀ room s, Reads limits room s (readFields limits fuel room s)) (room : Nat)
    (s : List Char) : Reads limits room s (readValue limits (fuel + 1) room s) := by
  unfold readValue
  split
  case h_1 => exact .malformed
  case h_2 room _ _ _ _ text _ =>
    have read := reads_readText limits room text
    generalize readText text = answer at read ⊢
    cases answer with
    | ok result => exact List.IsSuffix.trans read (List.suffix_cons '"' text)
    | error refusal => exact Excess.of_suffix read (List.suffix_cons '"' text)
  case h_3 => exact .tooDeep .array (by simp [openings])
  case h_4 less room rest same =>
    obtain rfl := Nat.succ.inj same
    split
    · next closed => exact (suffix_of_skipSpace closed).trans (List.suffix_cons _ _)
    · have inner := (items room (skipSpace rest)).of_suffix (skipSpace_suffix rest)
      have read := inner.of_opening (.inl rfl : '[' = '[' ∨ '[' = '{')
      generalize readItems limits fuel room (skipSpace rest) = answer at read ⊢
      cases answer with
      | ok result => exact read
      | error refusal => exact read
  case h_5 => exact .tooDeep .object (by simp [openings])
  case h_6 less room rest same =>
    obtain rfl := Nat.succ.inj same
    split
    · next closed => exact (suffix_of_skipSpace closed).trans (List.suffix_cons _ _)
    · have inner := (fields room (skipSpace rest)).of_suffix (skipSpace_suffix rest)
      have read := inner.of_opening (.inr rfl : '{' = '[' ∨ '{' = '{')
      generalize readFields limits fuel room (skipSpace rest) = answer at read ⊢
      cases answer with
      | ok result => exact read
      | error refusal => exact read
  case h_7 rest _ => exact ⟨"null".toList, rfl⟩
  case h_8 rest _ => exact ⟨"true".toList, rfl⟩
  case h_9 rest _ => exact ⟨"false".toList, rfl⟩
  case h_10 rest _ => exact ⟨"NaN".toList, rfl⟩
  case h_11 rest _ => exact ⟨"Infinity".toList, rfl⟩
  case h_12 => exact reads_readNumber limits _ _

/-- Behind the first of several parts come a mark and the other parts. -/
theorem Reads.behind {answer : Except Refusal (α × List Char)} {mark : Char} {later : List Char}
    (first : rest <:+ s) (found : skipSpace rest = mark :: later)
    (reads : Reads limits room (skipSpace later) answer) : Reads limits room s answer :=
  reads.of_suffix (((skipSpace_suffix later).trans (suffix_of_skipSpace found)).trans first)

theorem reads_readItems_succ
    (value : ∀ room s, Reads limits room s (readValue limits fuel room s))
    (items : ∀ room s, Reads limits room s (readItems limits fuel room s)) (room : Nat)
    (s : List Char) : Reads limits room s (readItems limits (fuel + 1) room s) := by
  have first := value room s
  unfold readItems
  split
  · next refusal failed =>
    rw [failed] at first
    exact first
  · next item rest read =>
    rw [read] at first
    split
    · next closed => exact (suffix_of_skipSpace closed).trans first
    · next later found =>
      have read := Reads.behind first found (items room (skipSpace later))
      generalize readItems limits fuel room (skipSpace later) = answer at read ⊢
      cases answer with
      | ok result => exact read
      | error refusal => exact read
    · exact .malformed

theorem reads_readFields_succ
    (value : ∀ room s, Reads limits room s (readValue limits fuel room s))
    (fields : ∀ room s, Reads limits room s (readFields limits fuel room s)) (room : Nat)
    (s : List Char) : Reads limits room s (readFields limits (fuel + 1) room s) := by
  unfold readFields
  split
  case h_1 => exact .malformed
  case h_2 room _ _ _ less text same =>
    obtain rfl := Nat.succ.inj same
    have key := (reads_readText limits room text).of_suffix (List.suffix_cons '"' text)
    split
    · next refusal failed =>
      rw [failed] at key
      exact key
    · next name rest read =>
      rw [read] at key
      split
      · next beyond colon =>
        have first := Reads.behind key colon (value room (skipSpace beyond))
        split
        · next refusal failed =>
          rw [failed] at first
          exact first
        · next member rest read =>
          rw [read] at first
          split
          · next closed => exact (suffix_of_skipSpace closed).trans first
          · next later found =>
            have read := Reads.behind first found (fields room (skipSpace later))
            generalize readFields limits fuel room (skipSpace later) = answer at read ⊢
            cases answer with
            | ok result => exact read
            | error refusal => exact read
          · exact .malformed
      · exact .malformed
  case h_3 => exact .malformed

theorem reads_values (limits : Limits) (fuel : Nat) :
    (∀ room s, Reads limits room s (readValue limits fuel room s)) ∧
      (∀ room s, Reads limits room s (readItems limits fuel room s)) ∧
      ∀ room s, Reads limits room s (readFields limits fuel room s) := by
  induction fuel with
  | zero =>
      refine ⟨fun _ _ => ?_, fun _ _ => ?_, fun _ _ => ?_⟩
      · exact .malformed
      · exact .malformed
      · exact .malformed
  | succ fuel induction =>
      obtain ⟨value, items, fields⟩ := induction
      exact ⟨reads_readValue_succ items fields, reads_readItems_succ value items,
        reads_readFields_succ value fields⟩

end Values

/-- No text is refused but for being malformed or for going beyond a limit. -/
theorem excess_of_read {refusal : Refusal} (refused : read limits s = .error refusal) :
    Excess limits limits.depth s refusal := by
  have reads := (reads_values limits (2 * s.length + 2)).1 limits.depth (skipSpace s)
  unfold read at refused
  split at refused
  · next found failed =>
    cases refused
    rw [failed] at reads
    exact Excess.of_suffix reads (skipSpace_suffix s)
  · split at refused
    · cases refused
    · cases refused
      exact .malformed

end GraphConsole.Json
