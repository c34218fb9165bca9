/-! Fractions of natural numbers and their roundings: to the nearest whole number, and to the
nearest number with a given count of binary digits. -/

namespace GraphConsole.Text

/-- The quotient rounded to the nearest number, halves to the even one. -/
def roundedQuotient (amount parts : Nat) : Nat :=
  let quotient := amount / parts
  let rest := amount % parts
  if 2 * rest < parts then quotient
  else if parts < 2 * rest then quotient + 1
  else if quotient % 2 = 0 then quotient else quotient + 1

structure Fraction where
  amount : Nat
  parts : Nat
deriving DecidableEq, Repr

namespace Fraction

def ofNat (n : Nat) : Fraction :=
  ⟨n, 1⟩

def floor (x : Fraction) : Nat :=
  x.amount / x.parts

def ceil (x : Fraction) : Nat :=
  (x.amount + x.parts - 1) / x.parts

def nearest (x : Fraction) : Nat :=
  (2 * x.amount + x.parts) / (2 * x.parts)

def exceeds (x : Fraction) (bound : Nat) : Bool :=
  bound * x.parts < x.amount

def scale (x : Fraction) : Int → Fraction
  | .ofNat n => ⟨x.amount * Nat.pow 2 n, x.parts⟩
  | .negSucc n => ⟨x.amount, x.parts * Nat.pow 2 (n + 1)⟩

/-- The number of double precision next to a fraction: its first 53 binary digits, rounded, halves
to the even one. -/
def toDouble (x : Fraction) : Fraction :=
  if x.amount = 0 then ⟨0, 1⟩
  else
    let guess : Int := 52 + x.parts.log2 - x.amount.log2
    let places := if (x.scale guess).floor < Nat.pow 2 52 then guess + 1 else guess
    let scaled := x.scale places
    (ofNat (roundedQuotient scaled.amount scaled.parts)).scale (-places)

def dividedBy (x : Fraction) (n : Nat) : Fraction :=
  toDouble ⟨x.amount, x.parts * n⟩

def times (x : Fraction) (n : Nat) : Fraction :=
  toDouble ⟨x.amount * n, x.parts⟩

def beyond (x : Fraction) (n : Nat) : Fraction :=
  toDouble ⟨x.amount - n * x.parts, x.parts⟩

def below (x : Fraction) (n : Nat) : Fraction :=
  toDouble ⟨n * x.parts - x.amount, x.parts⟩

end Fraction

/-- Whether a whole number has a neighbour among the numbers of double precision; the largest of
those is below the power of two with exponent 1024, and half a step beyond it is too far. -/
def fitsDouble (n : Int) : Bool :=
  n.natAbs < Nat.pow 2 1024 - Nat.pow 2 970

end GraphConsole.Text
