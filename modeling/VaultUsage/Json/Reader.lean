import VaultUsage.Json.Scanner

/-!
# Reading JSON text

From a text to its `Source` tree. The readers of values, items and members call each other with a fuel
that falls by one with each call. Between two brackets, or two items, there are at most three calls, so
three times the length of the text is enough.
-/

namespace VaultUsage.Json

/-- A value that was read, and the cursor behind it unless its syntax is broken. -/
structure ReadValue where
  value : Source
  after : Option Cursor

namespace ReadValue

def broken (fault : Fault) : ReadValue := ⟨.broken fault, none⟩

def ofWord (value : Position → Source) (r : Except Error Cursor) : ReadValue :=
  match r with
  | .ok k => ⟨value k.place, some k⟩
  | .error e => broken ⟨e, e⟩

def ofNumeral (r : Except Fault (Numeral × Cursor)) : ReadValue :=
  match r with
  | .ok (l, k) => ⟨.number (numberAt l k.place) k.place, some k⟩
  | .error fault => broken fault

def ofString (s : ScannedString) : ReadValue :=
  match s with
  | .closed value k => ⟨.string (value.map String.ofList) k.place, some k⟩
  | .broken fault => broken fault

end ReadValue

/-- What stands for the rest behind a value with broken syntax: nobody gets there. -/
def unread : Fault := .both .endInValue .start

mutual

def readValue (fuel : Nat) (k : Cursor) : ReadValue :=
  match fuel with
  | 0 => .broken unread
  | fuel + 1 =>
    match k.rest with
    | [] => .broken (.both .endInValue k.place)
    | 'n' :: _ => .ofWord .null (scanWord ['u', 'l', 'l'] (k.advance 1))
    | 't' :: _ => .ofWord (.boolean true) (scanWord ['r', 'u', 'e'] (k.advance 1))
    | 'f' :: _ => .ofWord (.boolean false) (scanWord ['a', 'l', 's', 'e'] (k.advance 1))
    | '-' :: _ => .ofNumeral (scanNumeral true (k.advance 1))
    | '"' :: rest => .ofString (scanString (k.place.after '"') none (.ok []) rest)
    | '[' :: _ =>
      let (items, after) := readItems fuel true (k.advance 1)
      ⟨.array k.place items, after⟩
    | '\x7b' :: _ =>
      let (members, after) := readMembers fuel true (k.advance 1)
      ⟨.object k.place members, after⟩
    | c :: _ =>
      if Text.isDigit c then .ofNumeral (scanNumeral false k) else .broken (.both .valueExpected k.peek)

def readItem (fuel : Nat) (k : Cursor) : Items × Option Cursor :=
  match fuel with
  | 0 => (.broken unread, none)
  | fuel + 1 =>
    let r := readValue fuel k
    match r.after with
    | none => (.item k.place r.value (.broken unread), none)
    | some after =>
      let (rest, after) := readItems fuel false after
      (.item k.place r.value rest, after)

/-- The items up to the end of an array; a comma stands before each but the first. -/
def readItems (fuel : Nat) (first : Bool) (k : Cursor) : Items × Option Cursor :=
  match fuel with
  | 0 => (.broken unread, none)
  | fuel + 1 =>
    let k := k.skipSpace
    match k.rest with
    | [] => (.broken (.both .endInList k.place), none)
    | ']' :: _ => (.closed (k.advance 1).place, some (k.advance 1))
    | c :: _ =>
      if first then readItem fuel k
      else if c = ',' then
        let k := (k.advance 1).skipSpace
        match k.rest with
        | ']' :: _ => (.broken ⟨.located .trailingComma k.peek, .located .valueExpected k.peek⟩, none)
        | _ => if k.rest.isEmpty then (.broken (.both .endInValue k.place), none) else readItem fuel k
      else (.broken (.both .listEndExpected k.peek), none)

/-- A member whose name starts at `k` and the members behind it. -/
def readMember (fuel : Nat) (k : Cursor) : Members × Option Cursor :=
  match fuel with
  | 0 => (.broken unread, none)
  | fuel + 1 =>
    match k.rest with
    | '"' :: text =>
      match scanString (k.place.after '"') none (.ok []) text with
      | .broken fault => (.broken fault, none)
      | .closed name k =>
        let name := name.map String.ofList
        let k := k.skipSpace
        match k.rest with
        | ':' :: _ =>
          let r := readValue fuel (k.advance 1).skipSpace
          match r.after with
          | none => (.member name k.place r.value (.broken unread), none)
          | some after =>
            let (rest, after) := readMembers fuel false after
            (.member name k.place r.value rest, after)
        | [] => (.member name k.place (.broken (.both .endInObject k.place)) (.broken unread), none)
        | '\x7d' :: _ =>
          (.member name (k.advance 1).place (.broken (.both .colonExpected k.peek)) (.broken unread), none)
        | _ :: _ => (.member name k.place (.broken (.both .colonExpected k.peek)) (.broken unread), none)
    | _ => (.broken (.both .nameExpected k.peek), none)

/-- The members up to the end of an object; a comma stands before each but the first. -/
def readMembers (fuel : Nat) (first : Bool) (k : Cursor) : Members × Option Cursor :=
  match fuel with
  | 0 => (.broken unread, none)
  | fuel + 1 =>
    let k := k.skipSpace
    match k.rest with
    | [] => (.broken (.both .endInObject k.place), none)
    | '\x7d' :: _ => (.closed (k.advance 1).place, some (k.advance 1))
    | c :: _ =>
      if first then readMember fuel k
      else if c = ',' then
        let k := (k.advance 1).skipSpace
        match k.rest with
        | '\x7d' :: _ => (.broken ⟨.located .trailingComma k.peek, .located .nameExpected k.peek⟩, none)
        | [] => (.broken ⟨.located .endInValue k.place, .located .endInObject k.place⟩, none)
        | _ :: _ => readMember fuel k
      else (.broken (.both .objectEndExpected k.peek), none)

end

namespace Document

/-- The tree of a text. -/
def read (text : List Char) : Document :=
  let r := readValue (3 * text.length + 1) (Cursor.mk text .start).skipSpace
  let trailing := r.after.bind fun k =>
    let k := k.skipSpace
    if k.rest.isEmpty then none else some (.located .trailingCharacters k.peek)
  ⟨r.value, trailing⟩

end Document

def parse (text : String) : Except Error Json := (Document.read text.toList).toJson

end VaultUsage.Json
