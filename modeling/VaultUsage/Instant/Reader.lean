import VaultUsage.Instant.Basic
import VaultUsage.Text.Blank
import VaultUsage.Text.Digits

/-!
# Reading instants

A date, a time of day and an offset from UTC, in the order of RFC 3339. White space may stand before
each number and each sign between numbers, numbers may be short, and the offset may lack its colon or be
the word `UTC`. Fields are checked as they are read, the date as a whole at the end. The result is the
instant in UTC.
-/

namespace VaultUsage.Instant

inductive Fault where
  | tooShort
  | tooLong
  | invalid
  | outOfRange
  | impossible
  deriving DecidableEq, Repr

def Fault.message : Fault → String
  | .tooShort => "premature end of input"
  | .tooLong => "trailing input"
  | .invalid => "input contains invalid characters"
  | .outOfRange => "input is out of range"
  | .impossible => "no possible date and time matching input"

def skipBlank (text : List Char) : List Char := text.dropWhile Text.isBlank

/-- A number of at least one digit and at most `width` of them. -/
def readNumber (width : Nat) (text : List Char) : Except Fault (Nat × List Char) :=
  let digits := (text.take width).takeWhile Text.isDigit
  match text, digits with
  | [], _ => .error .tooShort
  | _ :: _, [] => .error .invalid
  | _ :: _, _ :: _ => .ok (Text.ofDigits 10 digits, text.drop digits.length)

/-- A number after white space that lies between `low` and `high`. -/
def readField (low high : Nat) (text : List Char) : Except Fault (Nat × List Char) := do
  let (n, rest) ← readNumber 2 (skipBlank text)
  if low ≤ n ∧ n ≤ high then .ok (n, rest) else .error .outOfRange

/-- A year of up to four digits, or of any number of digits after a sign. -/
def readYear (text : List Char) : Except Fault (Int × List Char) := do
  let (year, rest) ← match skipBlank text with
    | '-' :: rest => do
      let (n, rest) ← readNumber rest.length rest
      pure (-(n : Int), rest)
    | '+' :: rest => do
      let (n, rest) ← readNumber rest.length rest
      pure ((n : Int), rest)
    | text => do
      let (n, rest) ← readNumber 4 text
      pure ((n : Int), rest)
  if -0x80000000 ≤ year ∧ year < 0x80000000 then .ok (year, rest) else .error .outOfRange

def readMark (mark : Char) (text : List Char) : Except Fault (List Char) :=
  match skipBlank text with
  | [] => .error .tooShort
  | c :: rest => if c = mark then .ok rest else .error .invalid

def readDate (text : List Char) : Except Fault (Date × List Char) := do
  let (year, text) ← readYear text
  let text ← readMark '-' text
  let (month, text) ← readField 1 12 text
  let text ← readMark '-' text
  let (day, text) ← readField 1 31 text
  pure (⟨year, month, day⟩, text)

/-- A fraction of a second in nanoseconds; digits after the ninth are dropped. -/
def readFraction (text : List Char) : Except Fault (Nat × List Char) :=
  match text with
  | '.' :: rest => do
    let (n, after) ← readNumber 9 rest
    pure (n * Nat.pow 10 (9 - (rest.length - after.length)), after.dropWhile Text.isDigit)
  | _ => .ok (0, text)

def readTime (text : List Char) : Except Fault (TimeOfDay × List Char) := do
  let (hour, text) ← readField 0 23 text
  let text ← readMark ':' text
  let (minute, text) ← readField 0 59 text
  let text ← readMark ':' text
  let (second, text) ← readField 0 60 text
  let (nanosecond, text) ← readFraction text
  pure (⟨hour, minute, second, nanosecond⟩, text)

/-- Two digits, the first of them at most `top`; a larger first digit is out of range. -/
def readPair (top : Char) (text : List Char) : Except Fault (Nat × List Char) :=
  match text with
  | [] => .error .tooShort
  | [c] => if c.utf8Size = 1 then .error .tooShort else .error .invalid
  | a :: b :: rest =>
    if Text.isDigit a && Text.isDigit b then
      if a ≤ top then .ok (Text.ofDigits 10 [a, b], rest) else .error .outOfRange
    else .error .invalid

def readOffset (text : List Char) : Except Fault (Int × List Char) :=
  match text with
  | [] => .error .tooShort
  | c :: rest =>
    if c = 'Z' ∨ c = 'z' then .ok (0, rest)
    else if (text.take 3).map Char.toUpper = ['U', 'T', 'C'] then .ok (0, text.drop 3)
    else if c = '+' ∨ c = '-' ∨ c = '\u2212' then do
      let (hours, rest) ← readPair '9' rest
      let rest := rest.dropWhile fun c => c == ':' || Text.isBlank c
      let (minutes, rest) ← readPair '5' rest
      let offset : Int := hours * 60 + minutes
      pure (if c = '+' then offset else -offset, rest)
    else .error .invalid

/-- The instant at which clocks `offset` minutes east of UTC show the given date and time. -/
def ofLocal (date : Date) (time : TimeOfDay) (offset : Int) : Except Fault Instant :=
  if !(date.isValid && date.inRange) || 1440 ≤ offset.natAbs then .error .outOfRange
  else
    let minutes : Int := time.hour * 60 + time.minute - offset
    let day := if minutes < 0 then date.previous else if 1440 ≤ minutes then date.next else date
    let clock := (minutes % 1440).toNat
    match ofFields? day { time with hour := clock / 60, minute := clock % 60 } with
    | some i => if day.inRange then .ok i else .error .impossible
    | none => .error .outOfRange

def read (text : List Char) : Except Fault Instant := do
  let (date, text) ← readDate text
  let text ← match text with
    | [] => .error .tooShort
    | c :: rest => if c = 'T' ∨ c = 't' ∨ c = ' ' then .ok rest else .error .invalid
  let (time, text) ← readTime text
  let (offset, text) ← readOffset (skipBlank text)
  if (skipBlank text).isEmpty then ofLocal date time offset else .error .tooLong

end VaultUsage.Instant
