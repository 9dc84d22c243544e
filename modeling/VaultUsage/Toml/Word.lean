import VaultUsage.Instant.Basic
import VaultUsage.Toml.Table

/-!
# Words of a TOML text

Truth values, numbers and date-times are single words: none of them holds a blank, except for a date-time
that has one between its parts.
-/

namespace VaultUsage.Toml

def isBlank (c : Char) : Bool := c == ' ' || c == '\t'

def endsWord (c : Char) : Bool := isBlank c || c == '\n' || c == '#' || c == ',' || c == ']' || c == '\x7d'

/-! ## Numbers -/

/-- Digits with single underscores between them. -/
def areDigits (isDigit : Char → Bool) : List Char → Bool
  | [] => false
  | [c] => isDigit c
  | c :: '_' :: rest => isDigit c && areDigits isDigit rest
  | c :: rest => isDigit c && areDigits isDigit rest

/-- Digits without a zero before others. -/
def areWhole (word : List Char) : Bool :=
  areDigits Text.isDigit word && (word.length == 1 || word.head? != some '0')

def number (base : Nat) (word : List Char) : Nat := Text.ofDigits base (word.filter (· != '_'))

/-- The sign of a number, if it has one, is read apart. -/
def splitSign : List Char → Bool × List Char
  | '-' :: rest => (true, rest)
  | '+' :: rest => (false, rest)
  | word => (false, word)

/-- Integers have 64 bits and a sign. -/
def inRange (n : Int) : Option Value :=
  if -0x8000000000000000 ≤ n ∧ n < 0x8000000000000000 then some (.integer n) else none

/-- An integer in a base that its first letters name. -/
def based? (base : Nat) (isDigit : Char → Bool) (digits : List Char) : Option Value :=
  if areDigits isDigit digits then inRange (number base digits) else none

def integer? (word : List Char) : Option Value :=
  match word with
  | '0' :: 'x' :: digits => based? 16 Text.isHexDigit digits
  | '0' :: 'o' :: digits => based? 8 (fun c => '0' ≤ c && c ≤ '7') digits
  | '0' :: 'b' :: digits => based? 2 (fun c => c == '0' || c == '1') digits
  | _ =>
    let (negative, digits) := splitSign word
    if areWhole digits then inRange (if negative then -(number 10 digits : Int) else number 10 digits) else none

/-- Whether `digits * 10 ^ exponent` rounds to a finite binary64 number: it lies below the middle between
the largest of them and the next power of two. -/
def isFloatRange (digits : List Char) (exponent : Int) : Bool :=
  let digits := digits.dropWhile (· == '0')
  let size : Int := digits.length + exponent
  let limit := Nat.pow 2 1024 - Nat.pow 2 970
  if digits.isEmpty || size < 300 then true
  else if 310 < size then false
  else
    let n := Text.ofDigits 10 digits
    decide (n * Nat.pow 10 exponent.toNat < limit * Nat.pow 10 (-exponent).toNat)

def isExponentLetter (c : Char) : Bool := c == 'e' || c == 'E'

/-- The number behind the letter of an exponent, or zero without one. -/
def exponent? (word : List Char) : Option Int :=
  match word with
  | [] => some 0
  | _ :: rest =>
    let (negative, digits) := splitSign rest
    if areDigits Text.isDigit digits then
      some (if negative then -(number 10 digits : Int) else number 10 digits)
    else none

/-- The digits behind the point, or none without one. -/
def fraction? (word : List Char) : Option (List Char) :=
  match word with
  | [] => some []
  | _ :: digits => if areDigits Text.isDigit digits then some (digits.filter (· != '_')) else none

/-- A float has a fraction or an exponent. A positive one that is too large is refused, and a negative one
is as good as the negative infinity. -/
def float? (word : List Char) : Option Value :=
  let (negative, digits) := splitSign word
  if digits = ['i', 'n', 'f'] || digits = ['n', 'a', 'n'] then some .float
  else
    let (mantissa, power) := digits.span (!isExponentLetter ·)
    let (whole, fraction) := mantissa.span (· != '.')
    if fraction.isEmpty && power.isEmpty || !areWhole whole then none
    else
      match fraction? fraction, exponent? power with
      | some f, some e =>
        if negative || isFloatRange (whole.filter (· != '_') ++ f) (e - f.length) then some .float else none
      | _, _ => none

/-! ## Date-times -/

def isDate : List Char → Bool
  | [y, e, a, r, '-', m, o, '-', d, b] =>
    [y, e, a, r, m, o, d, b].all Text.isDigit
      && Date.isValid ⟨Text.ofDigits 10 [y, e, a, r], Text.ofDigits 10 [m, o], Text.ofDigits 10 [d, b]⟩
  | _ => false

def isPair (bound : Nat) (a b : Char) : Bool :=
  Text.isDigit a && Text.isDigit b && decide (Text.ofDigits 10 [a, b] < bound)

def isTime : List Char → Bool
  | h :: o :: ':' :: m :: n :: ':' :: s :: t :: fraction =>
    isPair 24 h o && isPair 60 m n && isPair 61 s t
      && match fraction with
        | [] => true
        | '.' :: digits => !digits.isEmpty && digits.all Text.isDigit
        | _ => false
  | _ => false

def isOffset : List Char → Bool
  | [] => true
  | ['Z'] => true
  | ['z'] => true
  | [sign, h, o, ':', m, n] => (sign == '+' || sign == '-') && isPair 24 h o && isPair 60 m n
  | _ => false

def isTimeChar (c : Char) : Bool := Text.isDigit c || c == ':' || c == '.'

/-- A date with a time of day, which may have an offset, or one of the two alone. -/
def isMoment (word : List Char) : Bool :=
  isDate word || isTime word
    || isDate (word.take 10)
      && match word.drop 10 with
        | delimiter :: rest =>
          let (time, offset) := rest.span isTimeChar
          (delimiter == 'T' || delimiter == 't' || delimiter == ' ') && isTime time && isOffset offset
        | [] => false

/-! ## All of them -/

def ofWord? (word : List Char) : Option Value :=
  if word = ['t', 'r', 'u', 'e'] then some (.boolean true)
  else if word = ['f', 'a', 'l', 's', 'e'] then some (.boolean false)
  else if isMoment word then some .moment
  else float? word <|> integer? word

/-- The word that comes next, with what follows. A time of day can stand one space behind a date. -/
def splitWord (text : List Char) : List Char × List Char :=
  let (word, rest) := text.span (!endsWord ·)
  match rest with
  | ' ' :: c :: more =>
    if isDate word && Text.isDigit c then
      let (time, rest) := (c :: more).span (!endsWord ·)
      (word ++ ' ' :: time, rest)
    else (word, rest)
  | _ => (word, rest)

def readWord (text : List Char) : Except Fault (Value × List Char) :=
  let (word, rest) := splitWord text
  match ofWord? word with
  | some v => .ok (v, rest)
  | none => .error .malformed

end VaultUsage.Toml
