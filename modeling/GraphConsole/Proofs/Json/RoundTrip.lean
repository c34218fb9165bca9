import GraphConsole.Proofs.Json.Printing
import GraphConsole.Proofs.Json.Scalars

/-! The reader undoes the printer. It takes exactly what was printed and gives the value itself,
unless the value is nested deeper than the reader goes; then it refuses the text. -/

namespace GraphConsole.Json

open GraphConsole.Text

/-- The values whose text tells them apart: whole numbers of at most so many digits, and objects in
which no key stands twice. -/
inductive Shaped (digits : Nat) : Json → Prop
  | null : Shaped digits .null
  | bool (value : Bool) : Shaped digits (.bool value)
  | integer {value : Int} (short : (natDigits value.natAbs).length ≤ digits) :
      Shaped digits (.integer value)
  | string (value : String) : Shaped digits (.string value)
  | array {items : List Json} (shaped : ∀ item ∈ items, Shaped digits item) :
      Shaped digits (.array items)
  | object {fields : List (String × Json)} (distinct : (fields.map Prod.fst).Nodup)
      (shaped : ∀ field ∈ fields, Shaped digits field.2) : Shaped digits (.object fields)

theorem Shaped.whole {digits : Nat} {value : Json} (shaped : value.Shaped digits) :
    value.Whole := by
  induction shaped with
  | null => exact .null
  | bool value => exact .bool value
  | integer _ => exact .integer _
  | string value => exact .string value
  | array _ whole => exact .array whole
  | object _ _ whole => exact .object whole

mutual

/-- How many arrays and objects stand around the innermost value. -/
def nesting : Json → Nat
  | .array items => nestingOfItems items + 1
  | .object fields => nestingOfFields fields + 1
  | _ => 0

def nestingOfItems : List Json → Nat
  | [] => 0
  | item :: rest => max item.nesting (nestingOfItems rest)

def nestingOfFields : List (String × Json) → Nat
  | [] => 0
  | (_, value) :: rest => max value.nesting (nestingOfFields rest)

end

theorem nestingOfItems_le {items : List Json} {levels : Nat}
    (shallow : ∀ item ∈ items, item.nesting ≤ levels) : nestingOfItems items ≤ levels := by
  induction items with
  | nil => exact Nat.zero_le levels
  | cons item rest induction =>
      obtain ⟨first, others⟩ := List.forall_mem_cons.mp shallow
      exact Nat.max_le.mpr ⟨first, induction others⟩

theorem nestingOfFields_le {fields : List (String × Json)} {levels : Nat}
    (shallow : ∀ field ∈ fields, field.2.nesting ≤ levels) : nestingOfFields fields ≤ levels := by
  induction fields with
  | nil => exact Nat.zero_le levels
  | cons field rest induction =>
      obtain ⟨first, others⟩ := List.forall_mem_cons.mp shallow
      exact Nat.max_le.mpr ⟨first, induction others⟩

/-! What stands between values. -/

theorem skipSpace_of_not_isSpace {c : Char} (visible : isSpace c = false) (s : List Char) :
    skipSpace (c :: s) = c :: s := by
  simp [skipSpace, visible]

theorem skipSpace_newLine (depth : Nat) (s : List Char) :
    skipSpace (newLine depth ++ s) = skipSpace s := by
  have blanks : ∀ c ∈ newLine depth, isSpace c = true := by
    simp [newLine, isSpace]
  rw [skipSpace, skipSpace, List.dropWhile_append_of_pos blanks]

theorem newLine_append (depth : Nat) (s : List Char) :
    newLine depth ++ s = '\n' :: (List.replicate (2 * depth) ' ' ++ s) := rfl

/-- A character that a printed value can begin with: it is no blank and closes nothing. -/
def startsValue (c : Char) : Bool :=
  !isSpace c && c != ']' && c != '}'

theorem startsValue_of_startsNumber {c : Char} (starts : startsNumber c = true) :
    startsValue c = true := by
  have other (mark : Char) (noStart : startsNumber mark = false) : c ≠ mark :=
    ne_of_startsNumber starts noStart
  simp [startsValue, isSpace, other ' ' rfl, other '\t' rfl, other '\n' rfl, other '\r' rfl,
    other ']' rfl, other '}' rfl]

theorem printIndented_eq_cons (digits depth : Nat) {value : Json} (shaped : value.Shaped digits) :
    ∃ c more, printIndented depth value = c :: more ∧ startsValue c = true := by
  cases shaped with
  | null => exact ⟨_, _, rfl, rfl⟩
  | bool value =>
      cases value with
      | false => exact ⟨_, _, rfl, rfl⟩
      | true => exact ⟨_, _, rfl, rfl⟩
  | @integer value _ =>
      obtain ⟨c, more, printed, starts⟩ := intDigits_eq_cons value
      exact ⟨c, more, printed, startsValue_of_startsNumber starts⟩
  | string value => exact ⟨_, _, rfl, rfl⟩
  | @array items _ =>
      cases items with
      | nil => exact ⟨_, _, rfl, rfl⟩
      | cons item rest => exact ⟨_, _, rfl, rfl⟩
  | @object fields _ _ =>
      cases fields with
      | nil => exact ⟨_, _, rfl, rfl⟩
      | cons field rest => exact ⟨_, _, rfl, rfl⟩

theorem skipSpace_printIndented (digits depth : Nat) {value : Json} (shaped : value.Shaped digits)
    (rest : List Char) :
    skipSpace (printIndented depth value ++ rest) = printIndented depth value ++ rest := by
  obtain ⟨c, more, printed, starts⟩ := printIndented_eq_cons digits depth shaped
  simp only [startsValue, Bool.and_eq_true, Bool.not_eq_true'] at starts
  rw [printed, List.cons_append, skipSpace_of_not_isSpace starts.1.1]

/-! Arrays and objects, from a reader that reads what is in them. -/

theorem printIndentedItems_cons (depth : Nat) (item second : Json) (more : List Json) :
    printIndentedItems depth (item :: second :: more) =
      newLine depth ++ printIndented depth item ++ [',']
        ++ printIndentedItems depth (second :: more) := rfl

theorem printIndentedItems_last_append (depth : Nat) (item : Json) (rest : List Char) :
    printIndentedItems depth [item] ++ rest =
      newLine depth ++ (printIndented depth item ++ rest) := by
  simp [printIndentedItems]

theorem printIndentedItems_cons_append (depth : Nat) (item second : Json) (more : List Json)
    (rest : List Char) :
    printIndentedItems depth (item :: second :: more) ++ rest =
      newLine depth ++ (printIndented depth item ++
        ',' :: (printIndentedItems depth (second :: more) ++ rest)) := by
  simp [printIndentedItems_cons]

theorem printIndentedFields_cons (depth : Nat) (key : String) (value : Json)
    (second : String × Json) (more : List (String × Json)) :
    printIndentedFields depth ((key, value) :: second :: more) =
      newLine depth ++ printString key ++ [':', ' '] ++ printIndented depth value ++ [',']
        ++ printIndentedFields depth (second :: more) := rfl

/-- A printed field, its opening quotation mark apart, with the text behind it. -/
def printedField (depth : Nat) (key : String) (value : Json) (rest : List Char) : List Char :=
  key.toList.flatMap escapeChar ++ '"' :: ':' :: ' ' :: (printIndented depth value ++ rest)

theorem printIndentedFields_last_append (depth : Nat) (key : String) (value : Json)
    (rest : List Char) :
    printIndentedFields depth [(key, value)] ++ rest =
      newLine depth ++ '"' :: printedField depth key value rest := by
  simp [printIndentedFields, printString, printedField]

theorem printIndentedFields_cons_append (depth : Nat) (key : String) (value : Json)
    (second : String × Json) (more : List (String × Json)) (rest : List Char) :
    printIndentedFields depth ((key, value) :: second :: more) ++ rest =
      newLine depth ++ '"' :: printedField depth key value
        (',' :: (printIndentedFields depth (second :: more) ++ rest)) := by
  simp [printIndentedFields_cons, printString, printedField]

theorem skipSpace_named (digits depth : Nat) {value : Json} (shaped : value.Shaped digits)
    (rest : List Char) :
    skipSpace (' ' :: (printIndented depth value ++ rest)) = printIndented depth value ++ rest :=
  skipSpace_printIndented digits depth shaped rest

theorem skipSpace_printIndentedItems (digits depth : Nat) {item : Json}
    (shaped : item.Shaped digits) (others : List Json) (rest : List Char) :
    ∃ c more, skipSpace (printIndentedItems depth (item :: others) ++ rest) = c :: more ∧
      startsValue c = true := by
  obtain ⟨c, more, printed, starts⟩ := printIndented_eq_cons digits depth shaped
  have visible := skipSpace_printIndented digits depth shaped
  cases others with
  | nil =>
      rw [printIndentedItems_last_append, skipSpace_newLine, visible, printed]
      exact ⟨c, _, rfl, starts⟩
  | cons second others =>
      rw [printIndentedItems_cons_append, skipSpace_newLine, visible, printed]
      exact ⟨c, _, rfl, starts⟩

theorem skipSpace_printIndentedFields (depth : Nat) (field : String × Json)
    (others : List (String × Json)) (rest : List Char) :
    ∃ more, skipSpace (printIndentedFields depth (field :: others) ++ rest) = '"' :: more := by
  obtain ⟨key, value⟩ := field
  cases others with
  | nil =>
      rw [printIndentedFields_last_append, skipSpace_newLine, skipSpace_of_not_isSpace rfl]
      exact ⟨_, rfl⟩
  | cons second others =>
      rw [printIndentedFields_cons_append, skipSpace_newLine, skipSpace_of_not_isSpace rfl]
      exact ⟨_, rfl⟩

theorem printIndented_items (depth : Nat) (item : Json) (others : List Json) (rest : List Char) :
    printIndented depth (.array (item :: others)) ++ rest =
      '[' :: (printIndentedItems (depth + 1) (item :: others)
        ++ (newLine depth ++ ']' :: rest)) := by
  simp [printIndented]

theorem printIndented_fields (depth : Nat) (field : String × Json)
    (others : List (String × Json)) (rest : List Char) :
    printIndented depth (.object (field :: others)) ++ rest =
      '{' :: (printIndentedFields (depth + 1) (field :: others)
        ++ (newLine depth ++ '}' :: rest)) := by
  simp [printIndented]

/-! Reading what was printed, part by part. -/

/-- What a reader that may go down `room` levels answers to a text of so many levels: the value with
the text behind it, or that the text is nested too deep. -/
def Answered (nesting room : Nat) (value : α) (rest : List Char)
    (answer : Except Refusal (α × List Char)) : Prop :=
  nesting ≤ room ∧ answer = .ok (value, rest) ∨
    room < nesting ∧ ∃ container, answer = .error (.tooDeep container)

/-- Printed at any depth and read with enough fuel, the value is answered. -/
def Legible (limits : Limits) (room : Nat) (value : Json) : Prop :=
  ∀ depth fuel rest, 2 * (printIndented depth value).length ≤ fuel → endsNumber rest = true →
    Answered value.nesting room value rest
      (readValue limits fuel room (printIndented depth value ++ rest))

section Containers

variable {limits : Limits} {fuel room : Nat} {rest : List Char}

/-- The last item, with what closes the array behind it. -/
theorem answered_readItems_last {item : Json} {text behind : List Char}
    (first : Answered item.nesting room item behind (readValue limits fuel room text))
    (closed : skipSpace behind = ']' :: rest) :
    Answered (nestingOfItems [item]) room [item] rest
      (readItems limits (fuel + 1) room text) := by
  rw [readItems, nestingOfItems, nestingOfItems, Nat.max_zero]
  rcases first with ⟨within, read⟩ | ⟨beyond, container, read⟩
  · rw [read]
    simp only [closed]
    exact .inl ⟨within, rfl⟩
  · rw [read]
    exact .inr ⟨beyond, container, rfl⟩

theorem answered_readItems_cons {item : Json} {others : List Json} {text behind : List Char}
    (first : Answered item.nesting room item (',' :: behind) (readValue limits fuel room text))
    (later : Answered (nestingOfItems others) room others rest
      (readItems limits fuel room (skipSpace behind))) :
    Answered (nestingOfItems (item :: others)) room (item :: others) rest
      (readItems limits (fuel + 1) room text) := by
  rw [readItems, nestingOfItems]
  rcases first with ⟨within, read⟩ | ⟨beyond, container, read⟩
  · rw [read]
    simp only [skipSpace_of_not_isSpace (c := ',') rfl]
    rcases later with ⟨withinToo, readToo⟩ | ⟨beyond, container, readToo⟩
    · rw [readToo]
      exact .inl ⟨Nat.max_le.mpr ⟨within, withinToo⟩, rfl⟩
    · rw [readToo]
      exact .inr ⟨by omega, container, rfl⟩
  · rw [read]
    exact .inr ⟨by omega, container, rfl⟩

theorem answered_readItems (fuel : Nat) (rest : List Char) {items : List Json}
    (some_items : items ≠ [])
    (shaped : ∀ item ∈ items, Shaped limits.digits item)
    (legible : ∀ item ∈ items, Legible limits room item) (depth outer : Nat)
    (enough : 2 * (printIndentedItems depth items).length ≤ fuel) :
    Answered (nestingOfItems items) room items rest
      (readItems limits fuel room
        (skipSpace (printIndentedItems depth items ++ (newLine outer ++ ']' :: rest)))) := by
  induction items generalizing fuel with
  | nil => exact absurd rfl some_items
  | cons item others induction =>
      have first := legible item (by simp) depth
      have visible := skipSpace_printIndented limits.digits depth (shaped item (by simp))
      cases others with
      | nil =>
          rw [printIndentedItems, newLine_append, List.length_cons, List.length_append] at enough
          obtain ⟨fuel, rfl⟩ : ∃ less, fuel = less + 1 := ⟨fuel - 1, by omega⟩
          rw [printIndentedItems_last_append, skipSpace_newLine, visible]
          refine answered_readItems_last (first fuel _ (by omega) rfl) ?_
          rw [skipSpace_newLine, skipSpace_of_not_isSpace rfl]
      | cons second more =>
          simp only [printIndentedItems_cons, newLine_append, List.length_append, List.length_cons,
            List.append_assoc] at enough
          obtain ⟨fuel, rfl⟩ : ∃ less, fuel = less + 1 := ⟨fuel - 1, by omega⟩
          have later := induction fuel (List.cons_ne_nil _ _)
            (fun other member => shaped other (by simp [member]))
            (fun other member => legible other (by simp [member])) (by omega)
          rw [printIndentedItems_cons_append, skipSpace_newLine, visible]
          exact answered_readItems_cons (first fuel _ (by omega) rfl) later

theorem answered_readFields_last {depth : Nat} {key : String} {value : Json}
    (shaped : value.Shaped limits.digits) {behind : List Char}
    (first : Answered value.nesting room value behind
      (readValue limits fuel room (printIndented depth value ++ behind)))
    (closed : skipSpace behind = '}' :: rest) :
    Answered (nestingOfFields [(key, value)]) room [(key, value)] rest
      (readFields limits (fuel + 1) room ('"' :: printedField depth key value behind)) := by
  rw [readFields, printedField, readText_printString, nestingOfFields, nestingOfFields,
    Nat.max_zero]
  simp only [skipSpace_of_not_isSpace (c := ':') rfl, skipSpace_named limits.digits depth shaped]
  rcases first with ⟨within, read⟩ | ⟨beyond, container, read⟩
  · rw [read]
    simp only [closed]
    exact .inl ⟨within, rfl⟩
  · rw [read]
    exact .inr ⟨beyond, container, rfl⟩

theorem answered_readFields_cons {depth : Nat} {key : String} {value : Json}
    {others : List (String × Json)} (shaped : value.Shaped limits.digits) {behind : List Char}
    (first : Answered value.nesting room value (',' :: behind)
      (readValue limits fuel room (printIndented depth value ++ ',' :: behind)))
    (later : Answered (nestingOfFields others) room others rest
      (readFields limits fuel room (skipSpace behind))) :
    Answered (nestingOfFields ((key, value) :: others)) room ((key, value) :: others) rest
      (readFields limits (fuel + 1) room
        ('"' :: printedField depth key value (',' :: behind))) := by
  rw [readFields, printedField, readText_printString, nestingOfFields]
  simp only [skipSpace_of_not_isSpace (c := ':') rfl, skipSpace_named limits.digits depth shaped]
  rcases first with ⟨within, read⟩ | ⟨beyond, container, read⟩
  · rw [read]
    simp only [skipSpace_of_not_isSpace (c := ',') rfl]
    rcases later with ⟨withinToo, readToo⟩ | ⟨beyond, container, readToo⟩
    · rw [readToo]
      exact .inl ⟨Nat.max_le.mpr ⟨within, withinToo⟩, rfl⟩
    · rw [readToo]
      exact .inr ⟨by omega, container, rfl⟩
  · rw [read]
    exact .inr ⟨by omega, container, rfl⟩

theorem answered_readFields (fuel : Nat) (rest : List Char) {fields : List (String × Json)}
    (some_fields : fields ≠ [])
    (shaped : ∀ field ∈ fields, Shaped limits.digits field.2)
    (legible : ∀ field ∈ fields, Legible limits room field.2) (depth outer : Nat)
    (enough : 2 * (printIndentedFields depth fields).length ≤ fuel) :
    Answered (nestingOfFields fields) room fields rest
      (readFields limits fuel room
        (skipSpace (printIndentedFields depth fields ++ (newLine outer ++ '}' :: rest)))) := by
  induction fields generalizing fuel with
  | nil => exact absurd rfl some_fields
  | cons field others induction =>
      obtain ⟨key, value⟩ := field
      have first : Legible limits room value := legible (key, value) (by simp)
      have shapedFirst : value.Shaped limits.digits := shaped (key, value) (by simp)
      cases others with
      | nil =>
          simp only [printIndentedFields, newLine_append, List.length_append,
            List.length_cons, List.append_assoc] at enough
          obtain ⟨fuel, rfl⟩ : ∃ less, fuel = less + 1 := ⟨fuel - 1, by omega⟩
          rw [printIndentedFields_last_append, skipSpace_newLine, skipSpace_of_not_isSpace rfl]
          refine answered_readFields_last shapedFirst (first depth fuel _ (by omega) rfl) ?_
          rw [skipSpace_newLine, skipSpace_of_not_isSpace rfl]
      | cons second more =>
          simp only [printIndentedFields_cons, newLine_append, List.length_append,
            List.length_cons, List.append_assoc] at enough
          obtain ⟨fuel, rfl⟩ : ∃ less, fuel = less + 1 := ⟨fuel - 1, by omega⟩
          have later := induction fuel (List.cons_ne_nil _ _)
            (fun other member => shaped other (by simp [member]))
            (fun other member => legible other (by simp [member])) (by omega)
          rw [printIndentedFields_cons_append, skipSpace_newLine, skipSpace_of_not_isSpace rfl]
          exact answered_readFields_cons shapedFirst (first depth fuel _ (by omega) rfl) later

/-! Whole values. -/

theorem foldl_put (seen fields : List (String × Json))
    (distinct : ((seen ++ fields).map Prod.fst).Nodup) :
    fields.foldl (fun seen (key, value) => Entries.put key value seen) seen = seen ++ fields := by
  induction fields generalizing seen with
  | nil => simp
  | cons field rest induction =>
      obtain ⟨key, value⟩ := field
      have fresh : key ∉ seen.map Prod.fst := by
        simp only [List.map_append, List.map_cons, List.nodup_append] at distinct
        exact fun member => distinct.2.2 key member key (by simp) rfl
      rw [List.foldl_cons]
      change rest.foldl _ (Entries.put key value seen) = _
      rw [Entries.put_of_notMem key value seen fresh, induction _ (by simpa using distinct)]
      simp

theorem ofFields_of_nodup {fields : List (String × Json)}
    (distinct : (fields.map Prod.fst).Nodup) : ofFields fields = .object fields := by
  rw [ofFields, foldl_put [] fields (by simpa using distinct), List.nil_append]

/-- A reader at an array goes one level down, to the items. -/
theorem answered_array {c : Char} {more s : List Char} {items : List Json}
    (opened : skipSpace s = c :: more) (starts : startsValue c = true)
    (answered : Answered (nestingOfItems items) room items rest
      (readItems limits fuel room (c :: more))) :
    Answered (nesting (.array items)) (room + 1) (.array items) rest
      (readValue limits (fuel + 1) (room + 1) ('[' :: s)) := by
  have noEnd : c ≠ ']' := by
    rintro rfl
    cases starts
  rw [readValue, opened, nesting]
  split
  · next closed => exact absurd (List.cons.inj closed).1 noEnd
  · rcases answered with ⟨within, read⟩ | ⟨beyond, container, read⟩
    · rw [read]
      exact .inl ⟨by omega, rfl⟩
    · rw [read]
      exact .inr ⟨by omega, container, rfl⟩

theorem answered_object {c : Char} {more s : List Char} {fields : List (String × Json)}
    (opened : skipSpace s = c :: more) (starts : startsValue c = true)
    (distinct : (fields.map Prod.fst).Nodup)
    (answered : Answered (nestingOfFields fields) room fields rest
      (readFields limits fuel room (c :: more))) :
    Answered (nesting (.object fields)) (room + 1) (.object fields) rest
      (readValue limits (fuel + 1) (room + 1) ('{' :: s)) := by
  have noEnd : c ≠ '}' := by
    rintro rfl
    cases starts
  rw [readValue, opened, nesting]
  split
  · next closed => exact absurd (List.cons.inj closed).1 noEnd
  · rcases answered with ⟨within, read⟩ | ⟨beyond, container, read⟩
    · rw [read]
      exact .inl ⟨by omega, by simp only [ofFields_of_nodup distinct]⟩
    · rw [read]
      exact .inr ⟨by omega, container, rfl⟩

theorem legible_array {items : List Json}
    (shaped : ∀ item ∈ items, item.Shaped limits.digits)
    (legible : ∀ room, ∀ item ∈ items, Legible limits room item) :
    Legible limits room (.array items) := by
  rintro depth (_ | fuel) rest enough _
  · cases items <;> simp [printIndented] at enough
  cases items with
  | nil =>
      cases room with
      | zero => exact .inr ⟨by simp [nesting], .array, rfl⟩
      | succ room => exact .inl ⟨by simp [nesting, nestingOfItems], rfl⟩
  | cons item others =>
      have length := congrArg List.length (printIndented_items depth item others [])
      simp only [List.append_nil, List.length_cons, List.length_append] at length
      rw [printIndented_items]
      cases room with
      | zero => exact .inr ⟨by simp [nesting], .array, rfl⟩
      | succ room =>
          have inner := answered_readItems fuel rest (List.cons_ne_nil _ _)
            shaped (legible room) (depth + 1) depth (by omega)
          obtain ⟨c, more, opened, starts⟩ := skipSpace_printIndentedItems limits.digits
            (depth + 1) (shaped item (by simp)) others (newLine depth ++ ']' :: rest)
          rw [opened] at inner
          exact answered_array opened starts inner

theorem legible_object {fields : List (String × Json)} (distinct : (fields.map Prod.fst).Nodup)
    (shaped : ∀ field ∈ fields, field.2.Shaped limits.digits)
    (legible : ∀ room, ∀ field ∈ fields, Legible limits room field.2) :
    Legible limits room (.object fields) := by
  rintro depth (_ | fuel) rest enough _
  · cases fields <;> simp [printIndented] at enough
  cases fields with
  | nil =>
      cases room with
      | zero => exact .inr ⟨by simp [nesting], .object, rfl⟩
      | succ room => exact .inl ⟨by simp [nesting, nestingOfFields], rfl⟩
  | cons field others =>
      have length := congrArg List.length (printIndented_fields depth field others [])
      simp only [List.append_nil, List.length_cons, List.length_append] at length
      rw [printIndented_fields]
      cases room with
      | zero => exact .inr ⟨by simp [nesting], .object, rfl⟩
      | succ room =>
          have inner := answered_readFields fuel rest (List.cons_ne_nil _ _)
            shaped (legible room) (depth + 1) depth (by omega)
          obtain ⟨more, opened⟩ := skipSpace_printIndentedFields (depth + 1) field others
            (newLine depth ++ '}' :: rest)
          rw [opened] at inner
          exact answered_object opened rfl distinct inner

theorem legible_of_shaped (limits : Limits) (room : Nat) {value : Json}
    (shaped : value.Shaped limits.digits) : Legible limits room value := by
  induction shaped generalizing room with
  | null =>
      rintro depth (_ | fuel) rest enough _
      · simp [printIndented] at enough
      · cases room <;> exact .inl ⟨Nat.zero_le _, rfl⟩
  | bool value =>
      rintro depth (_ | fuel) rest enough _
      · cases value <;> simp [printIndented] at enough
      · cases value <;> cases room <;> exact .inl ⟨Nat.zero_le _, rfl⟩
  | @integer value short =>
      rintro depth (_ | fuel) rest enough ends
      · obtain ⟨c, more, printed, _⟩ := intDigits_eq_cons value
        simp [printIndented, printed] at enough
      · exact .inl ⟨Nat.zero_le _, readValue_intDigits limits fuel room value short ends⟩
  | string value =>
      rintro depth (_ | fuel) rest enough _
      · simp [printIndented, printString] at enough
      · have told := readText_printString value rest
        simp only [printIndented, printString, List.cons_append, List.append_assoc,
          List.nil_append]
        rw [readValue, told]
        exact .inl ⟨Nat.zero_le _, rfl⟩
  | array shaped legible =>
      exact legible_array shaped fun room item member => legible item member room
  | object distinct shaped legible =>
      exact legible_object distinct shaped fun room field member => legible field member room

end Containers

theorem answered_printIndented (limits : Limits) {value : Json}
    (shaped : value.Shaped limits.digits) (behind : List Char) (ends : endsNumber behind = true) :
    Answered value.nesting limits.depth value behind
      (readValue limits (2 * (printIndented 0 value ++ behind).length + 2) limits.depth
        (skipSpace (printIndented 0 value ++ behind))) := by
  rw [skipSpace_printIndented limits.digits 0 shaped]
  refine legible_of_shaped limits limits.depth shaped 0 _ behind ?_ ends
  rw [List.length_append]
  omega

/-- The reader undoes the printer, with blanks behind what was printed or without. -/
theorem read_printIndented_append (limits : Limits) {value : Json}
    (shaped : value.Shaped limits.digits) (shallow : value.nesting ≤ limits.depth)
    (behind : List Char) (ends : endsNumber behind = true) (blank : skipSpace behind = []) :
    read limits (printIndented 0 value ++ behind) = .ok value := by
  rcases answered_printIndented limits shaped behind ends with ⟨_, answer⟩ | ⟨deep, _⟩
  · simp only [read, answer, blank]
  · omega

theorem read_printIndented (limits : Limits) {value : Json} (shaped : value.Shaped limits.digits)
    (shallow : value.nesting ≤ limits.depth) :
    read limits (printIndented 0 value) = .ok value := by
  simpa using read_printIndented_append limits shaped shallow [] rfl rfl

theorem read_printIndented_tooDeep (limits : Limits) {value : Json}
    (shaped : value.Shaped limits.digits) (deep : limits.depth < value.nesting) :
    ∃ container, read limits (printIndented 0 value) = .error (.tooDeep container) := by
  rcases answered_printIndented limits shaped [] rfl with
    ⟨shallow, _⟩ | ⟨_, container, answer⟩
  · omega
  · rw [List.append_nil] at answer
    exact ⟨container, by rw [read, answer]⟩

theorem printIndented_injective {digits : Nat} {first second : Json}
    (shaped : first.Shaped digits) (shapedToo : second.Shaped digits)
    (same : printIndented 0 first = printIndented 0 second) : first = second := by
  -- A reader that goes deep enough for both tells them apart.
  let limits : Limits := ⟨max first.nesting second.nesting, digits⟩
  have one := read_printIndented limits shaped (Nat.le_max_left _ _)
  have two := read_printIndented limits shapedToo (Nat.le_max_right _ _)
  rw [same] at one
  exact Except.ok.inj (one.symm.trans two)

end GraphConsole.Json
