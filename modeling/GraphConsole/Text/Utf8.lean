import GraphConsole.Text.Decimal
import GraphConsole.Text.Quoted

/-! Texts as UTF-8 octets, and the octets that are no text. -/

namespace GraphConsole.Text.Utf8

def octet (n : Nat) : UInt8 :=
  UInt8.ofNat n

def encodeChar (c : Char) : List UInt8 :=
  let n := c.toNat
  if n < 0x80 then [octet n]
  else if n < 0x800 then [octet (0xC0 + n / 64), octet (0x80 + n % 64)]
  else if n < 0x10000 then
    [octet (0xE0 + n / 4096), octet (0x80 + n / 64 % 64), octet (0x80 + n % 64)]
  else
    [octet (0xF0 + n / 262144), octet (0x80 + n / 4096 % 64), octet (0x80 + n / 64 % 64),
      octet (0x80 + n % 64)]

def encode (s : List Char) : List UInt8 :=
  s.flatMap encodeChar

inductive Flaw
  | invalidStart
  | invalidContinuation
  | unexpectedEnd
deriving DecidableEq, Repr

/-- Where a text stops being UTF-8: the position of the first faulty octet and the octets from
there on that belong to the broken character. -/
structure Broken where
  position : Nat
  octets : List UInt8
  flaw : Flaw
deriving DecidableEq, Repr

/-- What the first octet of a character announces: its bits, how many octets follow, and the
range of the next of them. -/
structure Lead where
  bits : Nat
  more : Nat
  low : Nat
  high : Nat

def lead? (n : Nat) : Option Lead :=
  if n < 0x80 then some ⟨n, 0, 0x80, 0xBF⟩
  else if n < 0xC2 then none
  else if n < 0xE0 then some ⟨n - 0xC0, 1, 0x80, 0xBF⟩
  else if n = 0xE0 then some ⟨0, 2, 0xA0, 0xBF⟩
  else if n = 0xED then some ⟨0xD, 2, 0x80, 0x9F⟩
  else if n < 0xF0 then some ⟨n - 0xE0, 2, 0x80, 0xBF⟩
  else if n = 0xF0 then some ⟨0, 3, 0x90, 0xBF⟩
  else if n < 0xF4 then some ⟨n - 0xF0, 3, 0x80, 0xBF⟩
  else if n = 0xF4 then some ⟨4, 3, 0x80, 0x8F⟩
  else none

/-- Reads the octets that follow a lead: the finished character number and the rest, or the flaw
and how many octets were fine. -/
def follow (bits : Nat) : (more low high : Nat) → List UInt8 →
    Except (Flaw × Nat) (Nat × List UInt8)
  | 0, _, _, rest => .ok (bits, rest)
  | _ + 1, _, _, [] => .error (.unexpectedEnd, 0)
  | more + 1, low, high, next :: rest =>
      if low ≤ next.toNat ∧ next.toNat ≤ high then
        match follow (bits * 64 + (next.toNat - 0x80)) more 0x80 0xBF rest with
        | .ok result => .ok result
        | .error (flaw, fine) => .error (flaw, fine + 1)
      else .error (.invalidContinuation, 0)

theorem length_follow_le {bits more low high : Nat} {octets rest : List UInt8} {code : Nat}
    (h : follow bits more low high octets = .ok (code, rest)) : rest.length ≤ octets.length := by
  induction more generalizing bits low high octets with
  | zero => simp [follow] at h; simp [h]
  | succ more induction =>
      cases octets with
      | nil => simp [follow] at h
      | cons next others =>
          unfold follow at h
          split at h
          · split at h
            · next result equation =>
                cases h
                have bound := induction equation
                simp; omega
            · simp at h
          · simp at h

def decodeFrom (position : Nat) (octets : List UInt8) : Except Broken (List Char) :=
  match octets with
  | [] => .ok []
  | first :: others =>
      match lead? first.toNat with
      | none => .error ⟨position, [first], .invalidStart⟩
      | some lead =>
          match _equation : follow lead.bits lead.more lead.low lead.high others with
          | .error (flaw, fine) => .error ⟨position, first :: others.take fine, flaw⟩
          | .ok (code, rest) =>
              match decodeFrom (position + lead.more + 1) rest with
              | .ok s => .ok (Char.ofNat code :: s)
              | .error broken => .error broken
termination_by octets.length
decreasing_by
  have bound := length_follow_le _equation
  simp; omega

def decode (octets : List UInt8) : Except Broken (List Char) :=
  decodeFrom 0 octets

def Flaw.describe : Flaw → String
  | .invalidStart => "invalid start byte"
  | .invalidContinuation => "invalid continuation byte"
  | .unexpectedEnd => "unexpected end of data"

def Broken.message (broken : Broken) : String :=
  "'utf-8' codec can't decode " ++
    (match broken.octets with
      | [single] =>
          "byte 0x" ++ String.ofList (hexDigits 2 single.toNat) ++ " in position "
            ++ natText broken.position
      | several =>
          "bytes in position " ++ natText broken.position ++ "-"
            ++ natText (broken.position + several.length - 1))
    ++ ": " ++ broken.flaw.describe

end GraphConsole.Text.Utf8
