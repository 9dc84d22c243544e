import VaultUsage.Json.Value

/-!
# Writing JSON

Two written forms of a value: `compact`, on one line without white space, and `pretty`, with every item
and member on a line of its own, two more blanks deep than the brackets around it. An empty array or
object has no inner line.
-/

namespace VaultUsage.Json

/-- Characters below the blank, the quote and the backslash are escaped. -/
def escapeChar (c : Char) : List Char :=
  if c = '"' then ['\\', '"']
  else if c = '\\' then ['\\', '\\']
  else if c = '\n' then ['\\', 'n']
  else if c = '\r' then ['\\', 'r']
  else if c = '\t' then ['\\', 't']
  else if c = '\x08' then ['\\', 'b']
  else if c = '\x0c' then ['\\', 'f']
  else if c < ' ' then '\\' :: 'u' :: Text.hex 4 c.toNat
  else [c]

def quoted (s : String) : String := "\"" ++ String.ofList (s.toList.flatMap escapeChar) ++ "\""

def scalarText : Json → String
  | .boolean true => "true"
  | .boolean false => "false"
  | .number n => n.render
  | .string s => quoted s
  | _ => "null"

mutual

def compact (v : Json) : String :=
  match v with
  | .array [] => "[]"
  | .array (v :: rest) => "[" ++ compact v ++ compactItems rest
  | .object [] => "\x7b\x7d"
  | .object ((n, v) :: rest) => "\x7b" ++ quoted n ++ ":" ++ compact v ++ compactMembers rest
  | v => scalarText v
termination_by structural v

/-- The items after the first one, and the end of the array. -/
def compactItems (items : List Json) : String :=
  match items with
  | [] => "]"
  | v :: rest => "," ++ compact v ++ compactItems rest
termination_by structural items

/-- The members after the first one, and the end of the object. -/
def compactMembers (members : List (String × Json)) : String :=
  match members with
  | [] => "\x7d"
  | (n, v) :: rest => "," ++ quoted n ++ ":" ++ compact v ++ compactMembers rest
termination_by structural members

end

def line (depth : Nat) : String := "\n" ++ String.ofList (List.replicate (2 * depth) ' ')

mutual

/-- The text of a value whose brackets stand at the given depth. -/
def pretty (depth : Nat) (v : Json) : String :=
  match v with
  | .array [] => "[]"
  | .array (v :: rest) => "[" ++ line (depth + 1) ++ pretty (depth + 1) v ++ prettyItems depth rest
  | .object [] => "\x7b\x7d"
  | .object ((n, v) :: rest) =>
    "\x7b" ++ line (depth + 1) ++ quoted n ++ ": " ++ pretty (depth + 1) v ++ prettyMembers depth rest
  | v => scalarText v
termination_by structural v

/-- The items after the first one, and the end of the array. -/
def prettyItems (depth : Nat) (items : List Json) : String :=
  match items with
  | [] => line depth ++ "]"
  | v :: rest => "," ++ line (depth + 1) ++ pretty (depth + 1) v ++ prettyItems depth rest
termination_by structural items

/-- The members after the first one, and the end of the object. -/
def prettyMembers (depth : Nat) (members : List (String × Json)) : String :=
  match members with
  | [] => line depth ++ "\x7d"
  | (n, v) :: rest =>
    "," ++ line (depth + 1) ++ quoted n ++ ": " ++ pretty (depth + 1) v ++ prettyMembers depth rest
termination_by structural members

end

end VaultUsage.Json
