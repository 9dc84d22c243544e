import VaultUsage.Binary64.Basic

/-!
# Shortest decimal digits

The fewest decimal digits that read back as a given positive value, and of those the nearest to it;
of two equally near ones, the even one. Seventeen digits always read back.
-/

namespace VaultUsage.Binary64

structure Decimal where
  digits : Nat
  exponent : Int
  deriving DecidableEq, Repr

namespace Decimal

def num (d : Decimal) : Nat := d.digits * power 10 d.exponent

def den (d : Decimal) : Nat := power 10 (-d.exponent)

def toBinary64 (d : Decimal) : Binary64 := nearest false d.num d.den

/-- Fewer digits for the same number: zeros at the end move into the exponent. -/
def trimZeros : Nat → Decimal → Decimal
  | 0, d => d
  | n + 1, d => if d.digits % 10 = 0 then trimZeros n ⟨d.digits / 10, d.exponent + 1⟩ else d

end Decimal

/-- Whether `10 ^ e` is at most the magnitude of `x`. -/
def tenPowLe (e : Int) (x : Binary64) : Bool := decide (power 10 e * x.den ≤ x.num * power 10 (-e))

/-- The `e` with `10 ^ e ≤ x < 10 ^ (e + 1)`, for a nonzero `x`: a bound from the binary exponent is at
most one too large or too small. -/
def floorLog10 (x : Binary64) : Int :=
  let guess := (floorLog2 x.num x.den * 30103).fdiv 100000
  if tenPowLe (guess + 1) x then guess + 1 else if tenPowLe guess x then guess else guess - 1

def ofDigitCount? (x : Binary64) (count : Nat) : Option Decimal :=
  let e := floorLog10 x + 1 - (count : Int)
  let num := x.num * power 10 (-e)
  let den := x.den * power 10 e
  let low : Decimal := ⟨num / den, e⟩
  let high : Decimal := ⟨num / den + 1, e⟩
  let goal : Binary64 := { x with negative := false }
  match low.toBinary64 == goal, high.toBinary64 == goal with
  | true, true => some (if roundHalfEven num den = num / den then low else high)
  | true, false => some low
  | false, true => some high
  | false, false => none

def shortest (x : Binary64) : Decimal :=
  let found := ((List.range 16).findSome? fun n => ofDigitCount? x (n + 1)).getD
    ((ofDigitCount? x 17).getD ⟨0, 0⟩)
  found.trimZeros 17

end VaultUsage.Binary64
