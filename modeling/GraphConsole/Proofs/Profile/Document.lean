import GraphConsole.Profile.Store
import GraphConsole.Proofs.Json.RoundTrip
import GraphConsole.Proofs.Text.Octets

/-! The file of a profile gives back the very key that was stored in it. -/

namespace GraphConsole

open GraphConsole.Text

namespace Text

theorem unifyNewlines_of_notMem {s : List Char} (absent : '\r' ∉ s) : unifyNewlines s = s := by
  induction s with
  | nil => rfl
  | cons c rest induction =>
      rw [List.mem_cons, not_or] at absent
      rw [unifyNewlines, induction absent.2]
      · rintro _ rfl
        exact absurd rfl absent.1
      · rintro rfl
        exact absurd rfl absent.1

end Text

namespace Profile.Store

open GraphConsole.Json

theorem toList_document (key : String) :
    (document key).toList =
      '{' :: '"' :: ("api_key".toList.flatMap escapeChar ++ '"' :: ':' :: ' ' :: '"' ::
        (key.toList.flatMap escapeChar ++ '"' :: ['}'])) := by
  rw [document, toLine, String.toList_ofList, printLine, printLineFields, printLine]
  simp [printString]

theorem isTextChar_of_document (key : String) :
    ∀ c ∈ (document key).toList, isTextChar c = true := by
  have printed : (document key).toList =
      '{' :: (printString "api_key" ++ ([':', ' '] ++ printString key ++ ['}'])) := by
    rw [toList_document]
    simp [printString]
  apply List.all_eq_true.mp
  rw [printed]
  simp only [List.all_cons, List.all_append, all_printString]
  decide

theorem readValue_document (limits : Limits) (fuel room : Nat) (key : String) :
    readValue limits (fuel + 3) (room + 1) (document key).toList =
      .ok (.object [("api_key", .string key)], []) := by
  rw [toList_document, readValue, skipSpace_of_not_isSpace rfl]
  split
  · next closed => exact absurd (List.cons.inj closed).1 (by decide)
  · rw [readFields, readText_printString]
    simp only [skipSpace_of_not_isSpace (c := ':') rfl]
    rw [show ∀ rest, skipSpace (' ' :: '"' :: rest) = '"' :: rest from fun _ => rfl, readValue,
      readText_printString]
    rfl

theorem read_document (key : String) :
    Json.read .standard (document key).toList = .ok (.object [("api_key", .string key)]) := by
  have long : 2 ≤ (document key).toList.length := by
    rw [toList_document]
    simp only [List.length_cons]
    omega
  obtain ⟨fuel, enough⟩ : ∃ fuel, 2 * (document key).toList.length + 2 = fuel + 3 :=
    ⟨2 * (document key).toList.length - 1, by omega⟩
  have start : skipSpace (document key).toList = (document key).toList := by
    rw [toList_document]
    rfl
  rw [Json.read, start, enough, Limits.standard, readValue_document]
  rfl

/-- The octets of the file are read back as the text that was written. -/
theorem decode_document (key : String) :
    Utf8.decode (Utf8.encode (document key).toList) = .ok (document key).toList :=
  (Utf8.decode_eq_ok_iff _ _).mpr rfl

theorem unifyNewlines_document (key : String) :
    unifyNewlines (document key).toList = (document key).toList := by
  apply unifyNewlines_of_notMem
  intro member
  exact absurd (isTextChar_of_document key '\r' member) (by decide)

end Profile.Store

end GraphConsole
