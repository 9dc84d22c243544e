import VaultUsage.Text.Digits

/-!
# Binary64 numbers

A finite binary64 value is a sign and a magnitude `mantissa * 2 ^ exponent`. Every operation takes
the exact rational result and rounds it once, to the nearest value, a tie to the even mantissa. The
sign is kept apart from the magnitude, so a zero has a sign and every operation is odd.

Values have no largest exponent here. A reader that must refuse large numbers asks `isFinite`.
-/

namespace VaultUsage

/-- `base ^ e`, or one if `e` is negative. -/
def power (base : Nat) (e : Int) : Nat := Nat.pow base e.toNat

/-- The integer nearest to `num / den`, a tie to the even one. -/
def roundHalfEven (num den : Nat) : Nat :=
  let q := num / den
  let r := 2 * (num % den)
  if r < den then q else if den < r then q + 1 else q + q % 2

/-- The integer nearest to `num / den`, a tie to the larger one. -/
def roundHalfUp (num den : Nat) : Nat :=
  (2 * num + den) / (2 * den)

structure Binary64 where
  negative : Bool
  mantissa : Nat
  exponent : Int
  deriving DecidableEq, Repr

namespace Binary64

instance : Inhabited Binary64 := ⟨⟨false, 0, 0⟩⟩

def num (x : Binary64) : Nat := x.mantissa * power 2 x.exponent

def den (x : Binary64) : Nat := power 2 (-x.exponent)

def zero (negative : Bool) : Binary64 := ⟨negative, 0, 0⟩

def isZero (x : Binary64) : Bool := x.mantissa == 0

/-- The largest `e` with `2 ^ e ≤ num / den`. -/
def floorLog2 (num den : Nat) : Int :=
  let e : Int := (Nat.log2 num : Int) - (Nat.log2 den : Int)
  if num * power 2 (-e) < den * power 2 e then e - 1 else e

/-- The exponent of the last place of the values next to `num / den`: 53 bits, and never a place
below the smallest subnormal. -/
def lastPlace (num den : Nat) : Int := max (floorLog2 num den - 52) (-1074)

/-- A mantissa of 54 bits can only be `2 ^ 53`, and moves to the next binade. -/
def normalize (negative : Bool) (mantissa : Nat) (exponent : Int) : Binary64 :=
  if mantissa = 0 then zero negative
  else if mantissa = power 2 53 then ⟨negative, power 2 52, exponent + 1⟩
  else ⟨negative, mantissa, exponent⟩

def nearest (negative : Bool) (num den : Nat) : Binary64 :=
  if num = 0 then zero negative
  else
    let e := lastPlace num den
    normalize negative (roundHalfEven (num * power 2 (-e)) (den * power 2 e)) e

def ofNat (n : Nat) : Binary64 := nearest false n 1

def ofInt (i : Int) : Binary64 := nearest (decide (i < 0)) i.natAbs 1

def neg (x : Binary64) : Binary64 := { x with negative := !x.negative }

def mul (x y : Binary64) : Binary64 :=
  nearest (xor x.negative y.negative) (x.num * y.num) (x.den * y.den)

def div (x y : Binary64) : Binary64 :=
  nearest (xor x.negative y.negative) (x.num * y.den) (x.den * y.num)

def absLt (x y : Binary64) : Bool := decide (x.num * y.den < y.num * x.den)

/-- The nearest integer, a half going away from zero. -/
def round (x : Binary64) : Binary64 := nearest x.negative (roundHalfUp x.num x.den) 1

/-- Binary64 ends below `2 ^ 1024`; what would round to it is infinite. -/
def isFinite (x : Binary64) : Bool := decide (x.num < power 2 1024 * x.den)

/-! ## Fixed places -/

/-- `n / 10 ^ places` in positional form, with exactly `places` fraction digits. -/
def positional (places n : Nat) : String :=
  if places = 0 then toString n
  else toString (n / power 10 places) ++ "." ++ Text.padLeft places (n % power 10 places)

/-- The exact value rounded to `places` decimals, a tie to the even digit. A zero keeps its sign. -/
def toFixed (places : Nat) (x : Binary64) : String :=
  (if x.negative then "-" else "") ++ positional places (roundHalfEven (x.num * power 10 places) x.den)

end Binary64

end VaultUsage
