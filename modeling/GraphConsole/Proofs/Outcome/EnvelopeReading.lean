import GraphConsole.Proofs.Json.Room
import GraphConsole.Proofs.Outcome.EnvelopeText

/-! Reading the text of an envelope gives back what the envelope holds, under its own success flag.
Envelopes with the same text hold the same. There is a text wherever the printer has the room. -/

namespace GraphConsole

open GraphConsole.Json

/-- Fields in which the one of a key has been set: in its place, or at the end if there was none. -/
inductive Json.Overridden (key : String) (value : Json) : Json.Fields → Json.Fields → Prop
  | replaced (front : Json.Fields) (old : Json) (back : Json.Fields)
      (first : key ∉ front.map Prod.fst) :
      Overridden key value (front ++ (key, old) :: back) (front ++ (key, value) :: back)
  | appended (fields : Json.Fields) (absent : key ∉ fields.map Prod.fst) :
      Overridden key value fields (fields ++ [(key, value)])

theorem Json.overridden_put (key : String) (value : Json) (fields : Json.Fields) :
    Overridden key value fields (Entries.put key value fields) := by
  induction fields with
  | nil => exact .appended [] (by simp)
  | cons entry rest induction =>
      obtain ⟨name, old⟩ := entry
      by_cases same : name = key
      · subst same
        rw [Entries.put, if_pos rfl]
        exact .replaced [] old rest (by simp)
      · rw [Entries.put, if_neg same]
        have other : key ≠ name := fun equal => same equal.symm
        generalize Entries.put key value rest = after at induction ⊢
        cases induction with
        | replaced front earlier back first =>
            exact .replaced ((name, old) :: front) earlier back (by simpa [other] using first)
        | appended _ absent =>
            exact .appended ((name, old) :: rest) (by simpa [other] using absent)

/-- What an envelope holds can be told from its text: keys that differ, and whole numbers that the
standard reader takes. -/
structure Envelope.Shaped (envelope : Envelope) : Prop where
  distinct : (envelope.fields.map Prod.fst).Nodup
  fields : ∀ field ∈ envelope.fields, field.2.Shaped Limits.standard.digits
  details : ∀ entry details, envelope.error = some entry → entry.details = some details →
    details.Shaped Limits.standard.digits

theorem Json.shaped_optionalString (value : Option String) (digits : Nat) :
    (optionalString value).Shaped digits := by
  cases value with
  | none => exact .null
  | some value => exact .string value

theorem ErrorEntry.shaped_toJson {entry : ErrorEntry} {digits : Nat}
    (shaped : ∀ details, entry.details = some details → details.Shaped digits) :
    entry.toJson.Shaped digits := by
  have code := Json.shaped_optionalString entry.code digits
  cases detailed : entry.details with
  | none =>
      refine .object (by simp [detailed]) ?_
      simp [detailed, code, Json.Shaped.string]
  | some details =>
      refine .object (by simp [detailed]) ?_
      simp [detailed, code, Json.Shaped.string, shaped details detailed]

theorem Envelope.Shaped.toJson {envelope : Envelope} (shaped : envelope.Shaped) :
    envelope.toJson.Shaped Limits.standard.digits := by
  have data : (Json.object envelope.data).Shaped Limits.standard.digits :=
    .object (Entries.nodup_put _ _ shaped.distinct)
      (Entries.forall_put "success" shaped.fields (.bool _))
  have error : (ofOption ErrorEntry.toJson envelope.error).Shaped Limits.standard.digits := by
    cases found : envelope.error with
    | none => exact .null
    | some entry => exact ErrorEntry.shaped_toJson fun details => shaped.details entry details found
  refine .object (by simp) ?_
  simp [data, error, Json.Shaped.string]

/-- What the text of an envelope has to say of an error: nothing but that there is none, or message
and code, with the details if there are any. -/
inductive ErrorEntry.Described : Option ErrorEntry → Json → Prop
  | absent : Described none .null
  | brief (message : String) (code : Option String) :
      Described (some ⟨message, code, none⟩)
        (.object [("message", .string message), ("code", optionalString code)])
  | detailed (message : String) (code : Option String) (details : Json) :
      Described (some ⟨message, code, some details⟩)
        (.object [("message", .string message), ("code", optionalString code),
          ("details", details)])

theorem ErrorEntry.described (error : Option ErrorEntry) :
    Described error (ofOption toJson error) := by
  cases error with
  | none => exact .absent
  | some entry =>
      obtain ⟨message, code, details⟩ := entry
      cases details with
      | none => exact .brief message code
      | some details => exact .detailed message code details

/-- The document that a text holds, as far as the reader goes. -/
def Json.ReadsBack (depth : Nat) (text : String) (document : Json) : Prop :=
  if document.nesting ≤ depth then
    read ⟨depth, Text.digitLimit⟩ text.toList = .ok document
  else ∃ container, read ⟨depth, Text.digitLimit⟩ text.toList = .error (.tooDeep container)

theorem Json.readsBack_toIndented {document : Json} (shaped : document.Shaped Text.digitLimit)
    (depth : Nat) : ReadsBack depth document.toIndented document := by
  rw [ReadsBack, toIndented, String.toList_ofList]
  split
  · next shallow => exact read_printIndented ⟨depth, _⟩ shaped shallow
  · next deep => exact read_printIndented_tooDeep ⟨depth, _⟩ shaped (Nat.lt_of_not_le deep)

theorem Json.toIndented_injective {digits : Nat} {first second : Json}
    (shaped : first.Shaped digits) (shapedToo : second.Shaped digits)
    (same : first.toIndented = second.toIndented) : first = second :=
  printIndented_injective shaped shapedToo (String.ofList_injective same)

theorem Envelope.Shaped.whole {envelope : Envelope} (shaped : envelope.Shaped) :
    envelope.Whole where
  fields field member := (shaped.fields field member).whole
  details entry details found detailed := (shaped.details entry details found detailed).whole

theorem Envelope.print_of_shaped {envelope : Envelope} (shaped : envelope.Shaped) (room : Nat) :
    envelope.print room =
      if envelope.toJson.levels ≤ room then .ok envelope.toText
      else .error (.ofOverrun .depth) := by
  rw [print, Json.print_of_shaped shaped.toJson]
  split <;> rfl

theorem Envelope.of_print {envelope : Envelope} {room : Nat} {text : String}
    (shaped : envelope.Shaped) (printed : envelope.print room = .ok text) :
    envelope.toJson.levels ≤ room ∧ envelope.toText = text := by
  rw [print_of_shaped shaped] at printed
  split at printed
  · next fits => exact ⟨fits, Except.ok.inj printed⟩
  · cases printed

/-- What a text tells of an envelope, whatever the room that it was printed in and is read in. -/
structure Envelope.Told (envelope : Envelope) (text : String) : Prop where
  printing : ∀ c ∈ text.toList, c = '\n' ∨ 0x20 ≤ c.toNat ∧ c.toNat ≤ 0x7F
  document : ∃ data error, Json.Overridden "success" (.bool envelope.success) envelope.fields data ∧
    data.lookup "success" = some (.bool envelope.success) ∧
    ErrorEntry.Described envelope.error error ∧
    ∀ depth, Json.ReadsBack depth text
      (.object [("json_version", .string "1"), ("data", .object data), ("error", error)])
  distinctive : ∀ (other : Envelope) room, other.Shaped → other.print room = .ok text →
    other.toJson = envelope.toJson

theorem Envelope.told_toText {envelope : Envelope} (shaped : envelope.Shaped) :
    envelope.Told envelope.toText where
  printing := by
    intro c member
    have printed : c = '\n' ∨ 0x20 ≤ c.toNat ∧ c.toNat ≤ 0x7E := by
      simpa [isTextChar] using List.all_eq_true.mp shaped.whole.all_toText c member
    exact printed.imp_right fun bounds => ⟨bounds.1, Nat.le_succ_of_le bounds.2⟩
  document := ⟨envelope.data, Json.ofOption ErrorEntry.toJson envelope.error,
    overridden_put _ _ _, Entries.lookup_put_self _ _ _, ErrorEntry.described _,
    Json.readsBack_toIndented shaped.toJson⟩
  distinctive _ _ shapedToo printed :=
    Json.toIndented_injective shapedToo.toJson shaped.toJson (of_print shapedToo printed).2

/-- What printing an envelope comes to: a text that tells of it, or for want of room none. A reader
with no less room takes the text. -/
structure Envelope.Printed (envelope : Envelope) (room : Nat) : Prop where
  told : envelope.toJson.levels ≤ room →
    ∃ text, envelope.print room = .ok text ∧ envelope.Told text
  refused : room < envelope.toJson.levels →
    ∃ incident, envelope.print room = .error incident ∧ incident.name = "RecursionError"
  readable : ∀ text, envelope.print room = .ok text → ∀ depth, room ≤ depth →
    read ⟨depth, Text.digitLimit⟩ text.toList = .ok envelope.toJson

theorem Envelope.told_print (envelope : Envelope) (shaped : envelope.Shaped) (room : Nat) :
    envelope.Printed room where
  told fits := by
    rw [print_of_shaped shaped, if_pos fits]
    exact ⟨_, rfl, told_toText shaped⟩
  refused deep := by
    rw [print_of_shaped shaped, if_neg (Nat.not_le_of_lt deep)]
    exact ⟨_, rfl, rfl⟩
  readable text printed depth enough := by
    obtain ⟨fits, rfl⟩ := of_print shaped printed
    have shallow := Nat.le_trans (nesting_le_levels envelope.toJson) (Nat.le_trans fits enough)
    have reads := Json.readsBack_toIndented shaped.toJson depth
    rwa [Json.ReadsBack, if_pos shallow] at reads

def Envelope.overriding : Envelope where
  fields := [("name", .string "\x00\"\\\x7fé😀"), ("success", .string "no"),
    ("count", .integer (-1180591620717411303424)), ("none", .array []), ("nothing", .object [])]
  success := false
  error := some ⟨"zażółć", none, some (.object [("items", .array [.null, .bool true])])⟩

theorem Envelope.told_print_overriding :
    overriding.Shaped ∧ ∃ text, overriding.print 986 = .ok text ∧ overriding.Told text := by
  have shaped : overriding.Shaped := by
    refine ⟨by decide, ?_, ?_⟩
    · simp only [overriding, List.forall_mem_cons, List.not_mem_nil, false_imp_iff]
      refine ⟨.string _, .string _,
        .integer (by simp [Text.natDigits, Limits.standard, Text.digitLimit]),
        .array (by simp),
        .object (by simp) (by simp), by simp⟩
    · rintro _ _ ⟨⟩ ⟨⟩
      refine .object (by simp) ?_
      simp only [List.forall_mem_singleton]
      refine .array ?_
      simp only [List.forall_mem_cons, List.not_mem_nil, false_imp_iff]
      exact ⟨.null, .bool true, by simp⟩
  exact ⟨shaped, (told_print overriding shaped 986).told (by decide)⟩

/-- An array in so many arrays. -/
def Json.nested : Nat → Json
  | 0 => .array []
  | n + 1 => .array [nested n]

theorem Json.nesting_nested (n : Nat) : (nested n).nesting = n + 1 := by
  induction n with
  | zero => rfl
  | succ n induction => simp [nested, nesting, nestingOfItems, induction]

theorem Json.levels_nested (n : Nat) : (nested n).levels = n + 1 := by
  induction n with
  | zero => rfl
  | succ n induction => simp [nested, levels, levelsOfItems, induction]

theorem Json.shaped_nested (digits n : Nat) : (nested n).Shaped digits := by
  induction n with
  | zero => exact .array (by simp)
  | succ n induction => exact .array (by simpa using induction)

def Envelope.ofDepth (n : Nat) : Envelope where
  fields := [("a", Json.nested n)]
  success := true

theorem Envelope.shaped_ofDepth (n : Nat) : (ofDepth n).Shaped where
  distinct := by simp [ofDepth]
  fields := by simpa [ofDepth] using Json.shaped_nested _ n
  details := by simp [ofDepth]

theorem Envelope.toJson_ofDepth (n : Nat) : (ofDepth n).toJson =
    .object [("json_version", .string "1"),
      ("data", .object [("a", Json.nested n), ("success", .bool true)]), ("error", .null)] := by
  rfl

theorem Envelope.nesting_ofDepth (n : Nat) : (ofDepth n).toJson.nesting = n + 3 := by
  simp [toJson_ofDepth, nesting, nestingOfFields, Json.nesting_nested]

theorem Envelope.levels_ofDepth (n : Nat) : (ofDepth n).toJson.levels = n + 3 := by
  simp [toJson_ofDepth, levels, levelsOfFields, Json.levels_nested]

/-- However much room the printer has, there are envelopes that it does not print. And there are
some that it prints in the room a program starts with, and the reader does not take further in. -/
theorem Envelope.deepText_refused :
    (∀ room, ∃ envelope : Envelope, envelope.Shaped ∧
      envelope.print room = .error (.ofOverrun .depth)) ∧
    ∃ text, (ofDepth 990).print 993 = .ok text ∧
      ∃ container, read .standard text.toList = .error (.tooDeep container) := by
  constructor
  · intro room
    refine ⟨ofDepth room, shaped_ofDepth room, ?_⟩
    have deep := nesting_le_levels (ofDepth room).toJson
    rw [nesting_ofDepth] at deep
    rw [print_of_shaped (shaped_ofDepth room), if_neg (by omega)]
  · have deep : Limits.standard.depth < (ofDepth 990).toJson.nesting := by
      rw [nesting_ofDepth]
      decide
    refine ⟨(ofDepth 990).toText, ?_, ?_⟩
    · rw [print_of_shaped (shaped_ofDepth 990), levels_ofDepth, if_pos (by decide)]
    · rw [Envelope.toText, Json.toIndented, String.toList_ofList]
      exact read_printIndented_tooDeep .standard (shaped_ofDepth 990).toJson deep

end GraphConsole
