import VaultUsage.Text.Digits

/-!
# Instants

A point in time is kept as its date and time of day in UTC, with nanoseconds. The second may be 60,
for a leap second. The written form is RFC 3339 with the letter `Z`, and has as few groups of three
fraction digits as lose nothing.
-/

namespace VaultUsage

structure Date where
  year : Int
  month : Nat
  day : Nat
  deriving DecidableEq, Repr

namespace Date

def isLeapYear (year : Int) : Bool := year % 4 == 0 && (year % 100 != 0 || year % 400 == 0)

/-- The number of days of a month, and zero for a month that does not exist. -/
def daysInMonth (year : Int) (month : Nat) : Nat :=
  if month = 2 then (if isLeapYear year then 29 else 28)
  else if month ∈ [4, 6, 9, 11] then 30
  else if 1 ≤ month ∧ month ≤ 12 then 31
  else 0

def isValid (d : Date) : Bool := decide (1 ≤ d.day ∧ d.day ≤ daysInMonth d.year d.month)

/-- The years that a date can have. -/
def inRange (d : Date) : Bool := decide (-262143 ≤ d.year ∧ d.year ≤ 262142)

def next (d : Date) : Date :=
  if d.day < daysInMonth d.year d.month then { d with day := d.day + 1 }
  else if d.month < 12 then ⟨d.year, d.month + 1, 1⟩
  else ⟨d.year + 1, 1, 1⟩

def previous (d : Date) : Date :=
  if 1 < d.day then { d with day := d.day - 1 }
  else if 1 < d.month then ⟨d.year, d.month - 1, daysInMonth d.year (d.month - 1)⟩
  else ⟨d.year - 1, 12, 31⟩

/-- Four digits; a year outside of them has a sign. -/
def yearText (year : Int) : String :=
  let digits := Text.padLeft 4 year.natAbs
  if year < 0 then "-" ++ digits else if 9999 < year then "+" ++ digits else digits

def render (d : Date) : String :=
  yearText d.year ++ "-" ++ Text.padLeft 2 d.month ++ "-" ++ Text.padLeft 2 d.day

end Date

structure TimeOfDay where
  hour : Nat
  minute : Nat
  second : Nat
  nanosecond : Nat
  deriving DecidableEq, Repr

namespace TimeOfDay

def isValid (t : TimeOfDay) : Bool :=
  decide (t.hour < 24 ∧ t.minute < 60 ∧ t.second ≤ 60 ∧ t.nanosecond < 1000000000)

def render (t : TimeOfDay) : String :=
  Text.padLeft 2 t.hour ++ ":" ++ Text.padLeft 2 t.minute ++ ":" ++ Text.padLeft 2 t.second

/-- The fraction of the second: nothing, or a point and 3, 6 or 9 digits. -/
def fractionText (t : TimeOfDay) : String :=
  if t.nanosecond = 0 then ""
  else if t.nanosecond % 1000000 = 0 then "." ++ Text.padLeft 3 (t.nanosecond / 1000000)
  else if t.nanosecond % 1000 = 0 then "." ++ Text.padLeft 6 (t.nanosecond / 1000)
  else "." ++ Text.padLeft 9 t.nanosecond

end TimeOfDay

structure Instant where
  date : Date
  time : TimeOfDay
  valid : (date.isValid && time.isValid) = true := by decide
  deriving DecidableEq, Repr

namespace Instant

def ofFields? (date : Date) (time : TimeOfDay) : Option Instant :=
  if h : (date.isValid && time.isValid) = true then some ⟨date, time, h⟩ else none

/-- RFC 3339 in UTC. -/
def render (i : Instant) : String := i.date.render ++ "T" ++ i.time.render ++ i.time.fractionText ++ "Z"

def renderPlain (i : Instant) : String := i.date.render ++ " " ++ i.time.render ++ " UTC"

end Instant

end VaultUsage
