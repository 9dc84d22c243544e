import VaultUsage.Json.Error
import VaultUsage.Json.Value

/-!
# JSON text as a tree

`Source` is the tree of a JSON text as far as its syntax is good, with the places that error messages
need. A text with an error has a `broken` part where the error is met and nothing after it, so whoever
walks the tree in text order meets a wrong value before a syntax error that comes later.

A reader that skips a value asks less of it than one that wants it: names and strings may hold single
halves of a surrogate pair, numbers may be too large and nesting is not limited. Some syntax errors have
another cause or place when skipped, so a `Fault` has both forms.
-/

namespace VaultUsage.Json

structure Fault where
  wanted : Error
  skipped : Error
  deriving DecidableEq, Repr

def Fault.both (cause : Cause) (p : Position) : Fault := ⟨.located cause p, .located cause p⟩

mutual

inductive Source where
  | null (stop : Position)
  | boolean (value : Bool) (stop : Position)
  | number (value : Except Error Number) (stop : Position)
  | string (value : Except Error String) (stop : Position)
  | array (start : Position) (items : Items)
  | object (start : Position) (members : Members)
  | broken (fault : Fault)

inductive Items where
  | item (start : Position) (value : Source) (rest : Items)
  | closed (stop : Position)
  | broken (fault : Fault)

/-- `resume` is where reading goes on when the name of a member is refused: after the white space behind
it, and after the end of the object if that comes next. -/
inductive Members where
  | member (name : Except Error String) (resume : Position) (value : Source) (rest : Members)
  | closed (stop : Position)
  | broken (fault : Fault)

end

instance : Inhabited Source := ⟨.null .start⟩

/-! ## Skipping -/

mutual

/-- Whether the value can be skipped: its syntax is good. -/
def Source.skip (s : Source) : Except Error Unit :=
  match s with
  | .array _ items => items.skip
  | .object _ members => members.skip
  | .broken fault => .error fault.skipped
  | _ => .ok ()
termination_by structural s

def Items.skip (items : Items) : Except Error Unit :=
  match items with
  | .item _ value rest =>
    match value.skip with
    | .ok () => rest.skip
    | .error e => .error e
  | .closed _ => .ok ()
  | .broken fault => .error fault.skipped
termination_by structural items

def Members.skip (members : Members) : Except Error Unit :=
  match members with
  | .member _ _ value rest =>
    match value.skip with
    | .ok () => rest.skip
    | .error e => .error e
  | .closed _ => .ok ()
  | .broken fault => .error fault.skipped
termination_by structural members

end

/-! ## Reading any value -/

/-- Arrays and objects may be nested this deep in a value that is read whole. -/
def maxDepth : Nat := 127

def Position.firstByte (p : Position) : Position := { p with column := p.column + 1 }

mutual

/-- The value, in which arrays and objects are nested at most `depth` deep. -/
def Source.toJson (depth : Nat) (s : Source) : Except Error Json :=
  match s with
  | .null _ => .ok .null
  | .boolean b _ => .ok (.boolean b)
  | .number n _ => n.map .number
  | .string t _ => t.map .string
  | .array start items =>
    if depth = 0 then .error (.located .tooDeep start.firstByte)
    else (items.toJson (depth - 1)).map .array
  | .object start members =>
    if depth = 0 then .error (.located .tooDeep start.firstByte)
    else (members.toJson (depth - 1) []).map .object
  | .broken fault => .error fault.wanted
termination_by structural s

def Items.toJson (depth : Nat) (items : Items) : Except Error (List Json) :=
  match items with
  | .item _ value rest =>
    match value.toJson depth with
    | .ok v => (rest.toJson depth).map (v :: ·)
    | .error e => .error e
  | .closed _ => .ok []
  | .broken fault => .error fault.wanted
termination_by structural items

/-- The members after those already `read`; the last of several with one name counts. -/
def Members.toJson (depth : Nat) (members : Members) (read : List (String × Json)) :
    Except Error (List (String × Json)) :=
  match members with
  | .member name _ value rest =>
    match name with
    | .error e => .error e
    | .ok n =>
      match value.toJson depth with
      | .ok v => rest.toJson depth (putMember n v read)
      | .error e => .error e
  | .closed _ => .ok read
  | .broken fault => .error fault.wanted
termination_by structural members

end

/-- A whole text: one value, and the error of having more text after it. -/
structure Document where
  value : Source
  trailing : Option Error

def Document.toJson (d : Document) : Except Error Json := do
  let v ← d.value.toJson maxDepth
  match d.trailing with
  | none => .ok v
  | some e => .error e

end VaultUsage.Json
