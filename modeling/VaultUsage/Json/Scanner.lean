import VaultUsage.Json.Source

/-!
# The pieces of a JSON text

White space, words, numerals and strings. Each scanner takes the text from some place on and returns what
it read with the text and the place behind it.
-/

namespace VaultUsage.Json

/-- Text that is still to be read, and where it starts. -/
structure Cursor where
  rest : List Char
  place : Position
  deriving Repr

namespace Cursor

def isSpace (c : Char) : Bool := c == ' ' || c == '\n' || c == '\t' || c == '\r'

def skipSpaceFrom (p : Position) : List Char → Cursor
  | [] => ⟨[], p⟩
  | c :: rest => if isSpace c then skipSpaceFrom (p.after c) rest else ⟨c :: rest, p⟩

def skipSpace (k : Cursor) : Cursor := skipSpaceFrom k.place k.rest

def peek (k : Cursor) : Position := k.place.peek k.rest

/-- The cursor `n` characters on, none of them a line break and all of one byte. -/
def advance (k : Cursor) (n : Nat) : Cursor := ⟨k.rest.drop n, { k.place with column := k.place.column + n }⟩

def digits (k : Cursor) : List Char := k.rest.takeWhile Text.isDigit

end Cursor

/-! ## Words and numerals -/

/-- The rest of a word whose first letter has been read. -/
def scanWord : List Char → Cursor → Except Error Cursor
  | [], k => .ok k
  | w :: word, k =>
    match k.rest with
    | [] => .error (.located .endInValue k.place)
    | c :: _ => if c = w then scanWord word (k.advance 1) else .error (.located .wordExpected k.peek)

/-- The end of the text inside of a numeral. -/
def numeralEnds (p : Position) : Fault := ⟨.located .endInValue p, .located .invalidNumber p⟩

def scanDigits (k : Cursor) : Except Fault (List Char × Cursor) :=
  match k.digits with
  | [] => .error (if k.rest.isEmpty then numeralEnds k.place else .both .invalidNumber k.peek)
  | digits => .ok (digits, k.advance digits.length)

/-- The whole part of a numeral, without a zero before other digits. -/
def scanWhole (k : Cursor) : Except Fault (List Char × Cursor) := do
  let (digits, after) ← scanDigits k
  match digits with
  | '0' :: _ :: _ => .error (.both .invalidNumber ((k.advance 1).peek))
  | _ => .ok (digits, after)

def scanFraction (k : Cursor) : Except Fault (Option (List Char) × Cursor) :=
  match k.rest with
  | '.' :: _ => do
    let (digits, k) ← scanDigits (k.advance 1)
    pure (some digits, k)
  | _ => .ok (none, k)

def scanExponent (k : Cursor) : Except Fault (Option (Bool × List Char) × Cursor) :=
  match k.rest with
  | c :: rest =>
    if c = 'e' ∨ c = 'E' then do
      let (negative, signs) := match rest with
        | '-' :: _ => (true, 1)
        | '+' :: _ => (false, 1)
        | _ => (false, 0)
      let (digits, k) ← scanDigits (k.advance (1 + signs))
      pure (some (negative, digits), k)
    else .ok (none, k)
  | [] => .ok (none, k)

/-- A numeral; the sign is not read. -/
def scanNumeral (negative : Bool) (k : Cursor) : Except Fault (Numeral × Cursor) := do
  let (whole, k) ← scanWhole k
  let (fraction, k) ← scanFraction k
  let (exponent, k) ← scanExponent k
  pure (⟨negative, whole, fraction, exponent⟩, k)

/-- The number of a numeral that ends at `stop`. -/
def numberAt (l : Numeral) (stop : Position) : Except Error Number :=
  match l.value with
  | .ok n => .ok n
  | .error unread => .error (.located .numberTooLarge { stop with column := stop.column - unread })

/-! ## Strings -/

/-- A string up to its closing quote. Its value is missing when only a reader that skips can pass it. -/
inductive ScannedString where
  | closed (value : Except Error (List Char)) (after : Cursor)
  | broken (fault : Fault)

def shortEscape? (c : Char) : Option Char :=
  if c = '"' then some '"'
  else if c = '\\' then some '\\'
  else if c = '/' then some '/'
  else if c = 'b' then some '\x08'
  else if c = 'f' then some '\x0c'
  else if c = 'n' then some '\n'
  else if c = 'r' then some '\r'
  else if c = 't' then some '\t'
  else none

def hexUnit? (a b c d : Char) : Option Nat :=
  if [a, b, c, d].all Text.isHexDigit then some (Text.ofDigits 16 [a, b, c, d]) else none

def isLeading (unit : Nat) : Bool := 0xd800 ≤ unit && unit ≤ 0xdbff

def isTrailing (unit : Nat) : Bool := 0xdc00 ≤ unit && unit ≤ 0xdfff

/-- The place `n` bytes on, which can be inside of a character, or nothing if the text ends before. -/
def bytesOn (p : Position) (n : Nat) : List Char → Option Position
  | [] => if n = 0 then some p else none
  | c :: rest =>
    if n = 0 then some p
    else if n < c.utf8Size then some { p with column := p.column + n }
    else bytesOn (p.after c) (n - c.utf8Size) rest

def badHex (p : Position) (text : List Char) : Fault :=
  match bytesOn p 4 text with
  | some q => .both .invalidEscape q
  | none => .both .endInString (p.afterAll text)

def addChar (value : Except Error (List Char)) (c : Char) : Except Error (List Char) := value.map (c :: ·)

/-- A refusal of a string's value, unless it was refused before. -/
def refuse (value : Except Error (List Char)) (e : Error) : Except Error (List Char) :=
  match value with
  | .error e => .error e
  | .ok _ => .error e

/-- The cause of a string that ends or breaks while the second half of a pair is awaited is the same as
without it, unless the string's value was refused before. -/
def breakString (value : Except Error (List Char)) (fault : Fault) : ScannedString :=
  match value with
  | .error e => .broken ⟨e, fault.skipped⟩
  | .ok _ => .broken fault

/-- Reads a string behind its opening quote. `lead` is the first half of a surrogate pair just read, and
`value` the characters so far, the last one first. -/
def scanString (p : Position) (lead : Option Nat) (value : Except Error (List Char)) (text : List Char) :
    ScannedString :=
  match text with
  | [] => breakString value (.both .endInString p)
  | '\\' :: [] => breakString value (.both .endInString (p.after '\\'))
  | '\\' :: 'u' :: text =>
    let q := (p.after '\\').after 'u'
    match text with
    | a :: b :: c :: d :: rest =>
      match hexUnit? a b c d with
      | none => breakString value (badHex q text)
      | some unit =>
        let r : Position := { q with column := q.column + 4 }
        match lead with
        | some high =>
          if isTrailing unit then
            scanString r none (addChar value (Char.ofNat (0x10000 + (high - 0xd800) * 0x400 + (unit - 0xdc00)))) rest
          else scanString r none (refuse value (.located .lonePairMember r)) rest
        | none =>
          if isTrailing unit then scanString r none (refuse value (.located .lonePairMember r)) rest
          else if isLeading unit then scanString r (some unit) value rest
          else scanString r none (addChar value (Char.ofNat unit)) rest
    | _ => breakString value (badHex q text)
  | '\\' :: e :: rest =>
    let q := p.after '\\'
    let value := if lead.isSome then refuse value (.located .unfinishedPair (q.peek (e :: rest))) else value
    match shortEscape? e with
    | some c => scanString (q.after e) none (addChar value c) rest
    | none => breakString value (.both .invalidEscape (q.peek (e :: rest)))
  | c :: rest =>
    let value := if lead.isSome then refuse value (.located .unfinishedPair (p.peek (c :: rest))) else value
    if c = '"' then .closed (value.map List.reverse) ⟨rest, p.after c⟩
    else if c < ' ' then
      breakString value ⟨.located .controlCharacter (p.peek (c :: rest)), .located .controlCharacter p⟩
    else scanString (p.after c) none (addChar value c) rest
termination_by structural text

end VaultUsage.Json
