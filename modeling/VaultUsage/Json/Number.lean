import VaultUsage.Binary64.Shortest

/-!
# JSON numbers

An integer in the signed or unsigned 64-bit range keeps its value; every other number is binary64.

A real number is read through its first digits that fit into 64 bits, which are then scaled by a power
of ten in binary64, so long numerals can come out beside the nearest value. It is written with the
shortest digits: positionally, with a fraction, from 1e-5 up to 1e16, and otherwise as one digit, a
fraction and a signed exponent.
-/

namespace VaultUsage.Json

inductive Number where
  | integer (value : Int)
  | real (value : Binary64)
  deriving DecidableEq, Repr

structure Numeral where
  negative : Bool
  whole : List Char
  fraction : Option (List Char)
  exponent : Option (Bool × List Char)
  deriving Repr

namespace Numeral

/-- Appends decimal digits to `n` while the result fits into 64 bits. Returns the result with the
number of digits used and the number left over. -/
def absorb (n : Nat) : List Char → Nat × Nat × Nat
  | [] => (n, 0, 0)
  | c :: rest =>
    let m := n * 10 + Text.ofDigits 10 [c]
    if m < UInt64.size then
      let (r, used, left) := absorb m rest
      (r, used + 1, left)
    else (n, 0, rest.length + 1)

/-- An exponent above 31 bits, with the number of its digits not yet looked at when that is seen. -/
def absorbExponent (n : Nat) : List Char → Except Nat Nat
  | [] => .ok n
  | c :: rest =>
    let m := n * 10 + Text.ofDigits 10 [c]
    if m < 0x80000000 then absorbExponent m rest else .error rest.length

def powerOfTen (e : Nat) : Binary64 := .ofNat (power 10 e)

/-- `n * 10 ^ e` in binary64 steps, or nothing when it is too large. Powers of ten below 1e-308 are
reached in two steps, and what they leave of a 64-bit number is zero past the second one. -/
def scaled? (negative : Bool) (n : Nat) (e : Int) : Option Binary64 :=
  let x : Binary64 := { Binary64.ofNat n with negative := negative }
  if n = 0 then some (.zero negative)
  else if 308 < e then none
  else if 0 ≤ e then
    let y := x.mul (powerOfTen e.toNat)
    if y.isFinite then some y else none
  else if -308 ≤ e then some (x.div (powerOfTen (-e).toNat))
  else if -616 ≤ e then some ((x.div (powerOfTen 308)).div (powerOfTen (-e - 308).toNat))
  else some (.zero negative)

/-- The number, or for one that is too large how many characters of the numeral come after the place
where that is known. -/
def value (l : Numeral) : Except Nat Number :=
  let (n, _, left) := absorb 0 l.whole
  if l.fraction.isNone && l.exponent.isNone && left == 0 && (!l.negative || (n != 0 && n ≤ 0x8000000000000000)) then
    .ok (.integer (if l.negative then -(n : Int) else n))
  else
    let (n, used, _) := absorb n (l.fraction.getD [])
    let e : Int := left - used
    let finish (e : Int) : Except Nat Number :=
      match scaled? l.negative n e with
      | some x => .ok (.real x)
      | none => .error 0
    match l.exponent with
    | none => finish e
    | some (negative, digits) =>
      match absorbExponent 0 digits with
      | .ok m => finish (if negative then e - m else e + m)
      | .error unread => if n = 0 || negative then .ok (.real (.zero l.negative)) else .error unread

end Numeral

namespace Number

/-- Digits `d₁d₂…` with the point after the first one at the power of ten `e`. -/
def decimalText (digits : List Char) (e : Int) : String :=
  let text := String.ofList
  if -5 ≤ e ∧ e < 0 then "0." ++ text (List.replicate (-e - 1).toNat '0') ++ text digits
  else if 0 ≤ e ∧ e < 16 then
    let whole := digits.take (e.toNat + 1)
    let fraction := digits.drop (e.toNat + 1)
    text whole ++ text (List.replicate (e.toNat + 1 - whole.length) '0') ++ "."
      ++ (if fraction.isEmpty then "0" else text fraction)
  else
    text (digits.take 1) ++ (if digits.length ≤ 1 then "" else "." ++ text (digits.drop 1))
      ++ (if e < 0 then "e-" else "e+") ++ toString e.natAbs

def realText (x : Binary64) : String :=
  (if x.negative then "-" else "")
    ++ if x.isZero then "0.0"
      else
        let d := x.shortest
        let digits := Nat.toDigits 10 d.digits
        decimalText digits (d.exponent + digits.length - 1)

def render : Number → String
  | .integer i => toString i
  | .real x => realText x

end Number

end VaultUsage.Json
