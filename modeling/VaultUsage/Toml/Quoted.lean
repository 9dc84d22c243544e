import VaultUsage.Text.Digits
import VaultUsage.Toml.Table

/-!
# Quoted text in TOML

Between double quotes a backslash starts an escape; between single quotes it stands for itself. Three
quotes open a block, which may have line breaks: the first is dropped if it comes first, and up to two
quotes before the closing three belong to the text. A backslash at the end of a line of a block in double
quotes joins it to the next line that is not blank.
-/

namespace VaultUsage.Toml

/-- Characters that stand for themselves: no controls but the tab. -/
def isPlain (c : Char) : Bool := c == '\t' || (' ' ≤ c && c != '\x7f')

def escaped? (c : Char) : Option Char :=
  if c = 'b' then some '\x08'
  else if c = 't' then some '\t'
  else if c = 'n' then some '\n'
  else if c = 'f' then some '\x0c'
  else if c = 'r' then some '\r'
  else if c = '"' then some '"'
  else if c = '\\' then some '\\'
  else none

/-- What is read next between double quotes: a character, the letter of an escape, the end of a line behind
a backslash, or more digits of a character that is given by number. While lines are joined, blanks and
line breaks are dropped. -/
inductive Expecting where
  | character (joining : Bool)
  | escape
  | lineEnd
  | digits (left value : Nat)
  deriving DecidableEq, Repr

/-- The end of a block, behind three quotes that close it if at most two more follow. -/
def closeBlock (quote : Char) (reversed rest : List Char) : Except Fault (String × List Char) :=
  let (more, rest) := rest.span (· == quote)
  if more.length ≤ 2 then .ok (String.ofList (reversed.reverse ++ more), rest) else .error .malformed

/-- Reads on between double quotes; `reversed` holds the characters so far, the last one first. -/
def scanBasic (block : Bool) (e : Expecting) (reversed text : List Char) : Except Fault (String × List Char) :=
  match text with
  | [] => .error .malformed
  | c :: rest =>
    match e with
    | .character joining =>
      if joining && (c == ' ' || c == '\t' || c == '\n') then scanBasic block (.character true) reversed rest
      else if c = '"' then
        if block then
          match rest with
          | '"' :: '"' :: rest => closeBlock '"' reversed rest
          | _ => scanBasic block (.character false) (c :: reversed) rest
        else .ok (String.ofList reversed.reverse, rest)
      else if c = '\\' then scanBasic block .escape reversed rest
      else if isPlain c || (block && c == '\n') then scanBasic block (.character false) (c :: reversed) rest
      else .error .malformed
    | .escape =>
      match escaped? c with
      | some d => scanBasic block (.character false) (d :: reversed) rest
      | none =>
        if c = 'u' then scanBasic block (.digits 4 0) reversed rest
        else if c = 'U' then scanBasic block (.digits 8 0) reversed rest
        else if block && c == '\n' then scanBasic block (.character true) reversed rest
        else if block && (c == ' ' || c == '\t') then scanBasic block .lineEnd reversed rest
        else .error .malformed
    | .lineEnd =>
      if c = '\n' then scanBasic block (.character true) reversed rest
      else if c = ' ' ∨ c = '\t' then scanBasic block .lineEnd reversed rest
      else .error .malformed
    | .digits left value =>
      match Text.hexValue? c with
      | none => .error .malformed
      | some d =>
        let value := value * 16 + d
        if 1 < left then scanBasic block (.digits (left - 1) value) reversed rest
        else if value.isValidChar then scanBasic block (.character false) (Char.ofNat value :: reversed) rest
        else .error .malformed
termination_by structural text

/-- Reads on in a block between single quotes. -/
def scanLiteralBlock (reversed text : List Char) : Except Fault (String × List Char) :=
  match text with
  | [] => .error .malformed
  | c :: rest =>
    if c = '\x27' then
      match rest with
      | '\x27' :: '\x27' :: rest => closeBlock '\x27' reversed rest
      | _ => scanLiteralBlock (c :: reversed) rest
    else if isPlain c || c == '\n' then scanLiteralBlock (c :: reversed) rest
    else .error .malformed
termination_by structural text

def dropLineBreak : List Char → List Char
  | '\n' :: rest => rest
  | text => text

/-- Text on one line between single quotes, behind the opening one. -/
def readLiteral (text : List Char) : Except Fault (String × List Char) :=
  let (content, rest) := text.span fun c => isPlain c && c != '\x27'
  match rest with
  | '\x27' :: rest => .ok (String.ofList content, rest)
  | _ => .error .malformed

/-- Text on one line between double quotes, behind the opening one. -/
def readBasic (text : List Char) : Except Fault (String × List Char) := scanBasic false (.character false) [] text

def readQuoted? (text : List Char) : Option (Except Fault (String × List Char)) :=
  match text with
  | '"' :: '"' :: '"' :: rest => some (scanBasic true (.character false) [] (dropLineBreak rest))
  | '"' :: rest => some (readBasic rest)
  | '\x27' :: '\x27' :: '\x27' :: rest => some (scanLiteralBlock [] (dropLineBreak rest))
  | '\x27' :: rest => some (readLiteral rest)
  | _ => none

end VaultUsage.Toml
