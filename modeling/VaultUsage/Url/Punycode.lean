/-!
# Punycode

A text in ASCII letters and digits for any text. Its ASCII characters come first, up to the last hyphen. The
numbers after that each put one more character into the text, by code point first and by place second: a
number says how many code points and places lie between this character and the one before it. Numbers are
written in digits of base 36, the lowest first, and a digit below a threshold is the last of its number. The
thresholds adapt to the size of the numbers before.
-/

namespace VaultUsage.Url

/-- The numbers read so far and what they make of the text. -/
structure Punycode where
  text : List Char
  /-- The code point of the last character put into the text. -/
  point : Nat := 0x80
  /-- The place after that character, and what the number at hand adds to it. -/
  place : Nat := 0
  more : Nat := 0
  bias : Nat := 72
  /-- What the next digit of the number counts, and how far its threshold has come. -/
  weight : Nat := 1
  position : Nat := 36

namespace Punycode

def digit? (c : Char) : Option Nat :=
  if 'a' ≤ c ∧ c ≤ 'z' then some (c.toNat - 'a'.toNat)
  else if '0' ≤ c ∧ c ≤ '9' then some (c.toNat - '0'.toNat + 26)
  else none

def threshold (bias position : Nat) : Nat := max 1 (min 26 (position - bias))

/-- A number made small, and 36 for each step of that. -/
def shrink (n : Nat) : Nat × Nat :=
  if 455 < n then ((shrink (n / 35)).1, (shrink (n / 35)).2 + 36) else (n, 0)
termination_by n

/-- The bias after the number `n`, in a text of `size` characters. -/
def adapt (n size : Nat) (isFirst : Bool) : Nat :=
  let n := if isFirst then n / 700 else n / 2
  let (n, steps) := shrink (n + n / size)
  steps + 36 * n / (n + 38)

def put? (p : Punycode) : Option Punycode :=
  let size := p.text.length + 1
  let place := p.place + p.more
  let point := p.point + place / size
  if point.isValidChar then
    some {
      text := p.text.insertIdx (place % size) (Char.ofNat point)
      point
      place := place % size + 1
      bias := adapt p.more size (p.place == 0) }
  else none

/-- Numbers, and what their digits count, are limited to 32 bits. -/
def next? (p : Punycode) (c : Char) : Option Punycode := do
  let d ← digit? c
  let t := threshold p.bias p.position
  let p := { p with more := p.more + d * p.weight }
  if UInt32.size ≤ p.place + p.more then none
  else if d < t then p.put?
  else if UInt32.size ≤ p.weight * (36 - t) then none
  else some { p with weight := p.weight * (36 - t), position := p.position + 36 }

def isDone (p : Punycode) : Bool := p.position == 36

/-- The ASCII characters in front and the numbers after them. -/
def cut (code : List Char) : List Char × List Char :=
  match code.reverse.span (· != '-') with
  | (numbers, _ :: c :: text) => ((c :: text).reverse, numbers.reverse)
  | _ => ([], code)

def decode? (code : List Char) : Option (List Char) :=
  let (text, numbers) := cut code
  match numbers.foldlM next? { text } with
  | some p => if p.isDone then some p.text else none
  | none => none

end Punycode

end VaultUsage.Url
