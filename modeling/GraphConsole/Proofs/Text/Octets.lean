import GraphConsole.Proofs.Text.Cuts
import GraphConsole.Text.Utf8

/-! Texts and octets. What UTF-8 writes for a text is read back as that text, and nothing else is
read. -/

namespace GraphConsole.Text.Utf8

theorem toNat_octet {n : Nat} (small : n < 256) : (octet n).toNat = n := by
  rw [octet, UInt8.toNat_ofNat']
  omega

theorem octet_toNat (o : UInt8) : octet o.toNat = o :=
  UInt8.ofNat_toNat

/-! The octets of a character, by how many they are. -/

section Widths

variable {c : Char}

theorem encodeChar_one (small : c.toNat < 0x80) : encodeChar c = [octet c.toNat] := by
  rw [encodeChar, if_pos small]

theorem encodeChar_two (large : 0x80 ≤ c.toNat) (small : c.toNat < 0x800) :
    encodeChar c = [octet (0xC0 + c.toNat / 64), octet (0x80 + c.toNat % 64)] := by
  rw [encodeChar, if_neg (by omega), if_pos small]

theorem encodeChar_three (large : 0x800 ≤ c.toNat) (small : c.toNat < 0x10000) :
    encodeChar c = [octet (0xE0 + c.toNat / 4096), octet (0x80 + c.toNat / 64 % 64),
      octet (0x80 + c.toNat % 64)] := by
  rw [encodeChar, if_neg (by omega), if_neg (by omega), if_pos small]

theorem encodeChar_four (large : 0x10000 ≤ c.toNat) :
    encodeChar c = [octet (0xF0 + c.toNat / 262144), octet (0x80 + c.toNat / 4096 % 64),
      octet (0x80 + c.toNat / 64 % 64), octet (0x80 + c.toNat % 64)] := by
  rw [encodeChar, if_neg (by omega), if_neg (by omega), if_neg (by omega)]

end Widths

/-! The octets behind the first one. -/

section Following

variable {bits more low high n : Nat} {octets rest : List UInt8} {result : Nat × List UInt8}

theorem follow_octet (lower : low ≤ n) (upper : n ≤ high) (small : n < 256)
    (later : follow (bits * 64 + (n - 0x80)) more 0x80 0xBF rest = .ok result) :
    follow bits (more + 1) low high (octet n :: rest) = .ok result := by
  rw [follow, toNat_octet small, if_pos ⟨lower, upper⟩, later]

theorem octet_of_follow (followed : follow bits (more + 1) low high octets = .ok result) :
    ∃ n rest, octets = octet n :: rest ∧ low ≤ n ∧ n ≤ high ∧
      follow (bits * 64 + (n - 0x80)) more 0x80 0xBF rest = .ok result := by
  cases octets with
  | nil => cases followed
  | cons next rest =>
      rw [follow] at followed
      split at followed
      · next bounds =>
          refine ⟨next.toNat, rest, by rw [octet_toNat], bounds.1, bounds.2, ?_⟩
          split at followed
          · next later => rw [later, followed]
          · cases followed
      · cases followed

theorem eq_of_follow_zero {code : Nat}
    (followed : follow bits 0 low high octets = .ok (code, rest)) :
    code = bits ∧ octets = rest := by
  simpa [follow, eq_comm] using followed

end Following

/-! The first octet. -/

theorem lead?_one {n : Nat} (small : n < 0x80) : lead? n = some ⟨n, 0, 0x80, 0xBF⟩ := by
  rw [lead?, if_pos small]

theorem lead?_two {n : Nat} (large : 0xC2 ≤ n) (small : n < 0xE0) :
    lead? n = some ⟨n - 0xC0, 1, 0x80, 0xBF⟩ := by
  rw [lead?, if_neg (by omega), if_neg (by omega), if_pos small]

theorem lead?_three {n : Nat} (large : 0xE0 < n) (small : n < 0xF0) (other : n ≠ 0xED) :
    lead? n = some ⟨n - 0xE0, 2, 0x80, 0xBF⟩ := by
  rw [lead?, if_neg (by omega), if_neg (by omega), if_neg (by omega), if_neg (by omega),
    if_neg other, if_pos small]

theorem lead?_four {n : Nat} (large : 0xF0 < n) (small : n < 0xF4) :
    lead? n = some ⟨n - 0xF0, 3, 0x80, 0xBF⟩ := by
  rw [lead?, if_neg (by omega), if_neg (by omega), if_neg (by omega), if_neg (by omega),
    if_neg (by omega), if_neg (by omega), if_neg (by omega), if_pos small]

/-- What the first octet can be, and the next one behind it. Longer spellings of short numbers,
halves of pairs and numbers beyond all characters are left out. -/
theorem lead?_cases {n bits more low high : Nat} (led : lead? n = some ⟨bits, more, low, high⟩) :
    (more = 0 ∧ n = bits ∧ bits < 0x80) ∨
    (more = 1 ∧ n = 0xC0 + bits ∧ 2 ≤ bits ∧ bits < 32 ∧ low = 0x80 ∧ high = 0xBF) ∨
    (more = 2 ∧ n = 0xE0 + bits ∧ bits < 16 ∧ 0x80 ≤ low ∧ high ≤ 0xBF ∧
      (bits = 0 → 0xA0 ≤ low) ∧ (bits = 13 → high ≤ 0x9F)) ∨
    (more = 3 ∧ n = 0xF0 + bits ∧ bits < 5 ∧ 0x80 ≤ low ∧ high ≤ 0xBF ∧
      (bits = 0 → 0x90 ≤ low) ∧ (bits = 4 → high ≤ 0x8F)) := by
  unfold lead? at led
  repeat' split at led
  all_goals simp only [Option.some.injEq, Lead.mk.injEq, reduceCtorEq] at led
  all_goals obtain ⟨rfl, rfl, rfl, rfl⟩ := led
  -- Only the octets that lead are left, in their order.
  · exact .inl ⟨rfl, rfl, by assumption⟩
  · exact .inr (.inl (by omega))
  · exact .inr (.inr (.inl (by omega)))
  · exact .inr (.inr (.inl (by omega)))
  · exact .inr (.inr (.inl (by omega)))
  · exact .inr (.inr (.inr (by omega)))
  · exact .inr (.inr (.inr (by omega)))
  · exact .inr (.inr (.inr (by omega)))

/-- The octets of a character are read as its number. -/
theorem follow_encodeChar (c : Char) (rest : List UInt8) :
    ∃ n others bits more low high, n < 256 ∧ encodeChar c = octet n :: others ∧
      lead? n = some ⟨bits, more, low, high⟩ ∧
      follow bits more low high (others ++ rest) = .ok (c.toNat, rest) := by
  have valid : c.toNat < 0xD800 ∨ 0xDFFF < c.toNat ∧ c.toNat < 0x110000 := c.valid
  have ends {bits : Nat} (number : bits = c.toNat) :
      follow bits 0 0x80 0xBF rest = .ok (c.toNat, rest) := by rw [follow, number]
  by_cases one : c.toNat < 0x80
  · exact ⟨_, _, _, _, _, _, by omega, encodeChar_one one, lead?_one one, ends rfl⟩
  by_cases two : c.toNat < 0x800
  · refine ⟨_, _, _, _, _, _, by omega, encodeChar_two (Nat.not_lt.mp one) two,
      lead?_two (by omega) (by omega), ?_⟩
    exact follow_octet (by omega) (by omega) (by omega) (ends (by omega))
  by_cases three : c.toNat < 0x10000
  · have written := encodeChar_three (Nat.not_lt.mp two) three
    have read {bits low high : Nat} (front : bits = c.toNat / 4096)
        (lower : low ≤ 0x80 + c.toNat / 64 % 64) (upper : 0x80 + c.toNat / 64 % 64 ≤ high) :
        follow bits 2 low high (octet (0x80 + c.toNat / 64 % 64) ::
          octet (0x80 + c.toNat % 64) :: rest) = .ok (c.toNat, rest) :=
      follow_octet lower upper (by omega)
        (follow_octet (by omega) (by omega) (by omega) (ends (by omega)))
    -- The lowest numbers, and those before the halves of pairs, bound the second octet more
    -- tightly.
    by_cases first : c.toNat / 4096 = 0
    · refine ⟨0xE0, _, _, _, _, _, by omega, by rw [written, first], rfl, ?_⟩
      exact read first.symm (by omega) (by omega)
    by_cases last : c.toNat / 4096 = 13
    · refine ⟨0xED, _, _, _, _, _, by omega, by rw [written, last], rfl, ?_⟩
      exact read last.symm (by omega) (by omega)
    · refine ⟨_, _, _, _, _, _, by omega, written,
        lead?_three (by omega) (by omega) (by omega), ?_⟩
      exact read (by omega) (by omega) (by omega)
  · have written := encodeChar_four (Nat.not_lt.mp three)
    have read {bits low high : Nat} (front : bits = c.toNat / 262144)
        (lower : low ≤ 0x80 + c.toNat / 4096 % 64) (upper : 0x80 + c.toNat / 4096 % 64 ≤ high) :
        follow bits 3 low high (octet (0x80 + c.toNat / 4096 % 64) ::
          octet (0x80 + c.toNat / 64 % 64) :: octet (0x80 + c.toNat % 64) :: rest) =
          .ok (c.toNat, rest) :=
      follow_octet lower upper (by omega)
        (follow_octet (by omega) (by omega) (by omega)
          (follow_octet (by omega) (by omega) (by omega) (ends (by omega))))
    by_cases first : c.toNat / 262144 = 0
    · refine ⟨0xF0, _, _, _, _, _, by omega, by rw [written, first], rfl, ?_⟩
      exact read first.symm (by omega) (by omega)
    by_cases last : c.toNat / 262144 = 4
    · refine ⟨0xF4, _, _, _, _, _, by omega, by rw [written, last], rfl, ?_⟩
      exact read last.symm (by omega) (by omega)
    · refine ⟨_, _, _, _, _, _, by omega, written, lead?_four (by omega) (by omega), ?_⟩
      exact read (by omega) (by omega) (by omega)

/-- Octets that are read as a number are those of the character with that number. -/
theorem encodeChar_of_follow {n bits more low high code : Nat} {others rest : List UInt8}
    (led : lead? n = some ⟨bits, more, low, high⟩)
    (followed : follow bits more low high others = .ok (code, rest)) :
    octet n :: others = encodeChar (Char.ofNat code) ++ rest := by
  have number (valid : code.isValidChar) := toNat_ofNat valid
  rcases lead?_cases led with ⟨rfl, same, small⟩ | ⟨rfl, same, large, small, bounds⟩ |
    ⟨rfl, same, small, lower, upper, first, last⟩ | ⟨rfl, same, small, lower, upper, first, last⟩
  · obtain ⟨value, rfl⟩ := eq_of_follow_zero followed
    specialize number (.inl (by omega))
    have spelled : n = code := by omega
    rw [encodeChar_one (by omega), number, spelled]
    rfl
  · obtain ⟨second, _, rfl, above, below, read⟩ := octet_of_follow followed
    obtain ⟨value, rfl⟩ := eq_of_follow_zero read
    specialize number (.inl (by omega))
    have spelled : n = 0xC0 + code / 64 ∧ second = 0x80 + code % 64 := by omega
    rw [encodeChar_two (by omega) (by omega), number, ← spelled.1, ← spelled.2]
    rfl
  · obtain ⟨second, _, rfl, above, below, read⟩ := octet_of_follow followed
    obtain ⟨third, _, rfl, high, low, read⟩ := octet_of_follow read
    obtain ⟨value, rfl⟩ := eq_of_follow_zero read
    specialize number (by unfold Nat.isValidChar; omega)
    have spelled : n = 0xE0 + code / 4096 ∧ second = 0x80 + code / 64 % 64 ∧
        third = 0x80 + code % 64 := by omega
    rw [encodeChar_three (by omega) (by omega), number, ← spelled.1, ← spelled.2.1, ← spelled.2.2]
    rfl
  · obtain ⟨second, _, rfl, above, below, read⟩ := octet_of_follow followed
    obtain ⟨third, _, rfl, high, low, read⟩ := octet_of_follow read
    obtain ⟨fourth, _, rfl, top, bottom, read⟩ := octet_of_follow read
    obtain ⟨value, rfl⟩ := eq_of_follow_zero read
    specialize number (by unfold Nat.isValidChar; omega)
    have spelled : n = 0xF0 + code / 262144 ∧ second = 0x80 + code / 4096 % 64 ∧
        third = 0x80 + code / 64 % 64 ∧ fourth = 0x80 + code % 64 := by omega
    rw [encodeChar_four (by omega), number, ← spelled.1, ← spelled.2.1, ← spelled.2.2.1,
      ← spelled.2.2.2]
    rfl

/-! Whole texts. -/

/-- One character is read, and then the rest. -/
theorem decodeFrom_cons {first : UInt8} {bits more low high code : Nat} {others rest : List UInt8}
    (led : lead? first.toNat = some ⟨bits, more, low, high⟩)
    (followed : follow bits more low high others = .ok (code, rest)) (position : Nat) :
    decodeFrom position (first :: others) =
      (decodeFrom (position + more + 1) rest).map (Char.ofNat code :: ·) := by
  rw [decodeFrom]
  simp only [led]
  split
  · next failed =>
      rw [followed] at failed
      cases failed
  · next read =>
      rw [followed] at read
      cases read
      cases decodeFrom (position + more + 1) rest <;> rfl

theorem decodeFrom_encode (s : List Char) (position : Nat) :
    decodeFrom position (encode s) = .ok s := by
  induction s generalizing position with
  | nil => rw [encode, List.flatMap_nil, decodeFrom]
  | cons c rest induction =>
      obtain ⟨n, others, bits, more, low, high, small, written, led, followed⟩ :=
        follow_encodeChar c (encode rest)
      rw [← toNat_octet small] at led
      rw [encode, List.flatMap_cons, written, List.cons_append, ← encode,
        decodeFrom_cons led followed, induction, Except.map, Char.ofNat_toNat]

theorem eq_encode_of_decodeFrom {octets : List UInt8} {s : List Char} {position : Nat}
    (decoded : decodeFrom position octets = .ok s) : octets = encode s := by
  fun_induction decodeFrom position octets generalizing s with
  | case1 =>
      cases decoded
      rfl
  | case4 position first others lead led code rest followed read later induction =>
      cases decoded
      rw [encode, List.flatMap_cons, ← encode, ← induction later,
        ← encodeChar_of_follow led followed, octet_toNat]
  | _ => cases decoded

theorem decode_eq_ok_iff (octets : List UInt8) (s : List Char) :
    decode octets = .ok s ↔ octets = encode s :=
  ⟨eq_encode_of_decodeFrom, fun same => same ▸ decodeFrom_encode s 0⟩

end GraphConsole.Text.Utf8
