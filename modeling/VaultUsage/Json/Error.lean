import VaultUsage.Instant.Reader
import VaultUsage.Json.Number
import VaultUsage.Text.Quoted

/-!
# Errors of reading JSON

An error is a cause and, when the JSON was text, a position: the line, and the number of bytes up to and
including the byte that the error points at. The cause is either bad syntax or a value of the wrong kind.
-/

namespace VaultUsage.Json

/-- A place between two bytes of a text: its line, counted from one, and the bytes before it in that line. -/
structure Position where
  line : Nat
  column : Nat
  deriving DecidableEq, Repr

namespace Position

def start : Position := ⟨1, 0⟩

def after (p : Position) (c : Char) : Position :=
  if c = '\n' then ⟨p.line + 1, 0⟩ else { p with column := p.column + c.utf8Size }

/-- The place after the first byte of the text that follows. -/
def peek (p : Position) : List Char → Position
  | [] => p
  | c :: _ => if c = '\n' then p.after c else { p with column := p.column + 1 }

def afterAll (p : Position) (text : List Char) : Position := text.foldl after p

end Position

inductive Found where
  | null
  | boolean (value : Bool)
  | number (value : Number)
  | string (value : String)
  | sequence
  | map
  deriving DecidableEq, Repr

namespace Found

def message : Found → String
  | .null => "null"
  | .boolean b => "boolean `" ++ (if b then "true" else "false") ++ "`"
  | .number (.integer i) => "integer `" ++ toString i ++ "`"
  | .number (.real x) => "floating point `" ++ Number.realText x ++ "`"
  | .string s => "string " ++ Text.quote s
  | .sequence => "sequence"
  | .map => "map"

end Found

inductive Cause where
  | endInValue
  | endInList
  | endInObject
  | endInString
  | valueExpected
  | wordExpected
  | colonExpected
  | listEndExpected
  | objectEndExpected
  | nameExpected
  | trailingComma
  | trailingCharacters
  | invalidNumber
  | numberTooLarge
  | invalidEscape
  | unfinishedPair
  | lonePairMember
  | controlCharacter
  | tooDeep
  | wrongType (found : Found) (expected : String)
  | wrongValue (found : Found) (expected : String)
  | missingField (name : String)
  | repeatedField (name : String)
  | wrongLength (length : Nat) (expected : String)
  | badInstant (fault : Instant.Fault)
  deriving DecidableEq, Repr

def Cause.message : Cause → String
  | .endInValue => "EOF while parsing a value"
  | .endInList => "EOF while parsing a list"
  | .endInObject => "EOF while parsing an object"
  | .endInString => "EOF while parsing a string"
  | .valueExpected => "expected value"
  | .wordExpected => "expected ident"
  | .colonExpected => "expected `:`"
  | .listEndExpected => "expected `,` or `]`"
  | .objectEndExpected => "expected `,` or `\x7d`"
  | .nameExpected => "key must be a string"
  | .trailingComma => "trailing comma"
  | .trailingCharacters => "trailing characters"
  | .invalidNumber => "invalid number"
  | .numberTooLarge => "number out of range"
  | .invalidEscape => "invalid escape"
  | .unfinishedPair => "unexpected end of hex escape"
  | .lonePairMember => "lone leading surrogate in hex escape"
  | .controlCharacter => "control character (\\u0000-\\u001F) found while parsing a string"
  | .tooDeep => "recursion limit exceeded"
  | .wrongType found expected => "invalid type: " ++ found.message ++ ", expected " ++ expected
  | .wrongValue found expected => "invalid value: " ++ found.message ++ ", expected " ++ expected
  | .missingField name => "missing field `" ++ name ++ "`"
  | .repeatedField name => "duplicate field `" ++ name ++ "`"
  | .wrongLength n expected => "invalid length " ++ toString n ++ ", expected " ++ expected
  | .badInstant fault => fault.message

structure Error where
  cause : Cause
  position : Option Position
  deriving DecidableEq, Repr

namespace Error

def located (cause : Cause) (p : Position) : Error := ⟨cause, some p⟩

def message (e : Error) : String :=
  match e.position with
  | none => e.cause.message
  | some p =>
    e.cause.message ++ " at line " ++ toString p.line ++ " column " ++ toString p.column

end Error

end VaultUsage.Json
