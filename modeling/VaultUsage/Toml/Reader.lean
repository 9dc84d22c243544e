import VaultUsage.Toml.Quoted
import VaultUsage.Toml.Word

/-!
# Reading TOML

A document is read line by line: a key with its value, or the header of the table that the keys below it
belong to. Readers that call themselves have a fuel that falls by one with each call, so the length of
the text is enough. Arrays and inline tables are at most 79 deep, and keys have at most 79 parts.
-/

namespace VaultUsage.Toml

def maxDepth : Nat := 79

def skipBlank (text : List Char) : List Char := text.dropWhile isBlank

def skipComment (text : List Char) : List Char :=
  match text with
  | '#' :: rest => rest.dropWhile isPlain
  | _ => text

def endLine (text : List Char) : Except Fault (List Char) :=
  match skipComment (skipBlank text) with
  | [] => .ok []
  | '\n' :: rest => .ok rest
  | _ => .error .malformed

/-- What follows the blanks, line breaks and comments between the items of an array. -/
def skipGap (fuel : Nat) (text : List Char) : List Char :=
  match fuel with
  | 0 => text
  | fuel + 1 =>
    match skipBlank text with
    | '\n' :: rest => skipGap fuel rest
    | '#' :: rest => skipGap fuel (rest.dropWhile isPlain)
    | text => text

/-! ## Keys -/

def isBareKey (c : Char) : Bool :=
  Text.isDigit c || ('a' ≤ c && c ≤ 'z') || ('A' ≤ c && c ≤ 'Z') || c == '-' || c == '_'

def readKeyPart (text : List Char) : Except Fault (String × List Char) :=
  match text with
  | '"' :: rest => readBasic rest
  | '\x27' :: rest => readLiteral rest
  | _ =>
    let (name, rest) := text.span isBareKey
    if name.isEmpty then .error .malformed else .ok (String.ofList name, rest)

def readKeyParts (fuel : Nat) (text : List Char) : Except Fault (List String × List Char) :=
  match fuel with
  | 0 => .error .tooDeep
  | fuel + 1 =>
    match skipBlank text with
    | '.' :: rest => do
      let (part, rest) ← readKeyPart (skipBlank rest)
      let (parts, rest) ← readKeyParts fuel rest
      pure (part :: parts, rest)
    | text => .ok ([], text)

/-- A key, as its first part and the others. -/
def readKey (text : List Char) : Except Fault (String × List String × List Char) := do
  let (part, rest) ← readKeyPart (skipBlank text)
  let (parts, rest) ← readKeyParts maxDepth rest
  pure (part, parts, rest)

def expect (c : Char) (text : List Char) : Except Fault (List Char) :=
  match text with
  | d :: rest => if d = c then .ok rest else .error .malformed
  | [] => .error .malformed

/-! ## Values -/

mutual

/-- A value inside of which others can be `depth` deep. -/
def readValue (fuel depth : Nat) (text : List Char) : Except Fault (Value × List Char) :=
  match fuel with
  | 0 => .error .malformed
  | fuel + 1 =>
    match text, depth with
    | '[' :: rest, depth + 1 => readItems fuel depth [] rest
    | '[' :: _, 0 => .error .tooDeep
    | '\x7b' :: rest, depth + 1 =>
      match skipBlank rest with
      | '\x7d' :: rest => .ok (.table .inline [], rest)
      | rest => readPairs fuel depth [] rest
    | '\x7b' :: _, 0 => .error .tooDeep
    | text, _ =>
      match readQuoted? text with
      | some r => r.map fun (s, rest) => (.text s, rest)
      | none => readWord text

/-- The items of an array that are still to come; `reversed` holds those before, the last one first. -/
def readItems (fuel depth : Nat) (reversed : List Value) (text : List Char) : Except Fault (Value × List Char) :=
  match fuel with
  | 0 => .error .malformed
  | fuel + 1 =>
    match skipGap text.length text with
    | ']' :: rest => .ok (.array reversed.reverse, rest)
    | text => do
      let (item, rest) ← readValue fuel depth text
      match skipGap rest.length rest with
      | ',' :: rest => readItems fuel depth (item :: reversed) rest
      | rest => do
        let rest ← expect ']' rest
        pure (.array (item :: reversed).reverse, rest)

/-- The members of an inline table that are still to come; there is at least one. -/
def readPairs (fuel depth : Nat) (members : Members) (text : List Char) : Except Fault (Value × List Char) :=
  match fuel with
  | 0 => .error .malformed
  | fuel + 1 => do
    let (key, path, rest) ← readKey text
    let rest ← expect '=' rest
    let (value, rest) ← readValue fuel depth (skipBlank rest)
    let members ← members.assign key path value
    match skipBlank rest with
    | ',' :: rest => readPairs fuel depth members rest
    | rest => do
      let rest ← expect '\x7d' rest
      pure (.table .inline members, rest)

end

/-! ## Documents -/

/-- The last part of a key, and the parts before it. -/
def splitLast (key : String) : List String → List String × String
  | [] => ([], key)
  | next :: path =>
    let (before, last) := splitLast next path
    (key :: before, last)

/-- The lines that are still to come, below the header of the table at `path`. -/
def readLines (fuel : Nat) (path : List String) (root : Members) (text : List Char) : Except Fault Members :=
  match fuel with
  | 0 => .error .malformed
  | fuel + 1 =>
    match skipBlank text with
    | [] => .ok root
    | '\n' :: rest => readLines fuel path root rest
    | '#' :: rest => do
      let rest ← endLine ('#' :: rest)
      readLines fuel path root rest
    | '[' :: '[' :: rest => do
      let (key, more, rest) ← readKey rest
      let rest ← endLine (← expect ']' (← expect ']' rest))
      let (before, last) := splitLast key more
      let root ← root.inTable before (Members.extend last)
      readLines fuel (key :: more) root rest
    | '[' :: rest => do
      let (key, more, rest) ← readKey rest
      let rest ← endLine (← expect ']' rest)
      let (before, last) := splitLast key more
      let root ← root.inTable before (Members.define last)
      readLines fuel (key :: more) root rest
    | text => do
      let (key, more, rest) ← readKey text
      let rest ← expect '=' rest
      let (value, rest) ← readValue rest.length maxDepth (skipBlank rest)
      let rest ← endLine rest
      let root ← root.inTable path (Members.assign key more value)
      readLines fuel path root rest

/-- Line breaks of two characters become one. -/
def unifyLineBreaks : List Char → List Char
  | '\r' :: '\n' :: rest => '\n' :: unifyLineBreaks rest
  | c :: rest => c :: unifyLineBreaks rest
  | [] => []

/-- A byte order mark at the start does not count. -/
def dropMark : List Char → List Char
  | '\ufeff' :: rest => rest
  | text => text

def read (text : String) : Except Fault Members :=
  let text := unifyLineBreaks (dropMark text.toList)
  readLines (text.length + 1) [] [] text

end VaultUsage.Toml
