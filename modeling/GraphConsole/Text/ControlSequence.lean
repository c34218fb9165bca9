/-! Terminal control sequences, and texts without them. -/

namespace GraphConsole.Text

def countWhile (p : Char → Bool) (s : List Char) : Nat :=
  (s.takeWhile p).length

def isParameterByte (c : Char) : Bool :=
  0x30 ≤ c.toNat && c.toNat ≤ 0x3F

def isIntermediateByte (c : Char) : Bool :=
  0x20 ≤ c.toNat && c.toNat ≤ 0x2F

def isFinalByte (c : Char) : Bool :=
  0x40 ≤ c.toNat && c.toNat ≤ 0x7E

/-- The length of the control sequence whose escape character stands right before the text: a
bracket, parameters, intermediates and one final character. -/
def sequenceLength? : List Char → Option Nat
  | '[' :: rest =>
      let parameters := countWhile isParameterByte rest
      let behind := rest.drop parameters
      let intermediates := countWhile isIntermediateByte behind
      match behind.drop intermediates with
      | final :: _ =>
          if isFinalByte final then some (parameters + intermediates + 2) else none
      | [] => none
  | _ => none

/-- Drops `pending` characters and from there on every control sequence. -/
def withoutControlsFrom (pending : Nat) : List Char → List Char
  | [] => []
  | c :: rest =>
      match pending with
      | pending + 1 => withoutControlsFrom pending rest
      | 0 =>
          if c = '\x1b' then
            match sequenceLength? rest with
            | some length => withoutControlsFrom length rest
            | none => c :: withoutControlsFrom 0 rest
          else c :: withoutControlsFrom 0 rest

def withoutControls (s : List Char) : List Char :=
  withoutControlsFrom 0 s

theorem withoutControls_of_notMem (s : List Char) (h : '\x1b' ∉ s) : withoutControls s = s := by
  unfold withoutControls
  induction s with
  | nil => rfl
  | cons c rest induction =>
      have different : c ≠ '\x1b' := fun same => h (by simp [same])
      have absent : '\x1b' ∉ rest := fun member => h (by simp [member])
      simp [withoutControlsFrom, different, induction absent]

end GraphConsole.Text
