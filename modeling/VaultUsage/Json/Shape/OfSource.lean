import VaultUsage.Json.Shape

/-!
# Reading text as data

Walks the tree of a text along a shape, in text order. The first error met is the result.
-/

namespace VaultUsage.Json

namespace Source

/-- What stands here, and the place where a message about it points: behind a scalar, before an array or
object. Text that cannot be read as the scalar it starts as is an error of its own. -/
def found : Source → Except Error (Found × Position)
  | null stop => .ok (.null, stop)
  | boolean b stop => .ok (.boolean b, stop)
  | number n stop => n.map fun n => (.number n, stop)
  | string t stop => t.map fun t => (.string t, stop)
  | array start _ => .ok (.sequence, start)
  | object start _ => .ok (.map, start)
  | broken fault => .error fault.wanted

def mismatch (s : Source) (expected : String) : Error :=
  match s.found with
  | .ok (found, p) => .located (.wrongType found expected) p
  | .error e => e

def readText : Source → Except Error String
  | string t _ => t
  | s => .error (s.mismatch "a string")

def readWhole (name : String) : Source → Except Error UInt64
  | number (.ok (.integer i)) stop =>
    if 0 ≤ i then .ok (.ofNat i.toNat) else .error (.located (.wrongValue (.number (.integer i)) name) stop)
  | s => .error (s.mismatch name)

def readReal : Source → Except Error Binary64
  | number (.ok (.integer i)) _ => .ok (.ofInt i)
  | number (.ok (.real x)) _ => .ok x
  | s => .error (s.mismatch "f64")

def readInstant : Source → Except Error Instant
  | string (.ok t) stop =>
    match Instant.read t.toList with
    | .ok i => .ok i
    | .error fault => .error (.located (.badInstant fault) stop)
  | s => .error (s.mismatch Shape.instant.expectation)

end Source

/-! ## Lists, tables and records -/

namespace Items

def readAll {α : Type} (read : Source → Except Error α) : Items → Except Error (List α)
  | item _ value rest =>
    match read value with
    | .ok a => (rest.readAll read).map (a :: ·)
    | .error e => .error e
  | closed _ => .ok []
  | broken fault => .error fault.wanted

/-- Checks that an array ends here, behind the last field of a record. -/
def finish : Items → Except Error Unit
  | closed _ => .ok ()
  | item start _ _ => .error (.located .trailingCharacters start.firstByte)
  | broken fault =>
    match fault.wanted.cause with
    | .trailingComma => .error fault.wanted
    | .endInList => .error fault.wanted
    | _ => .error { fault.wanted with cause := .trailingCharacters }

end Items

namespace Members

def readTable {α : Type} (read : Source → Except Error α) : Members → NameMap α → Except Error (NameMap α)
  | member name _ value rest, table =>
    match name with
    | .error e => .error e
    | .ok n =>
      match read value with
      | .ok a => rest.readTable read (table.insert n a)
      | .error e => .error e
  | closed _, table => .ok table
  | broken fault, _ => .error fault.wanted

/-- Gives each member to `assign`, with the place for a refusal of its name. -/
def readFields {σ : Type} (assign : String → Position → Source → σ → Except Error σ) :
    Members → σ → Except Error (σ × Position)
  | member name resume value rest, slots =>
    match name with
    | .error e => .error e
    | .ok n =>
      match assign n resume value slots with
      | .ok slots => rest.readFields assign slots
      | .error e => .error e
  | closed stop, slots => .ok (slots, stop)
  | broken fault, _ => .error fault.wanted

end Members

def Fields.close : (fields : Fields) → fields.Slots → Except Cause fields.Value
  | .nil, _ => .ok ()
  | .cons name shape rest, (slot, slots) =>
    match slot, shape.missing? with
    | some v, _ => (rest.close slots).map (v, ·)
    | none, some v => (rest.close slots).map (v, ·)
    | none, none => .error (.missingField name)

mutual

def Shape.ofSource (shape : Shape) (s : Source) : Except Error shape.Value :=
  match shape with
  | .text => s.readText
  | .whole name => s.readWhole name
  | .real => s.readReal
  | .instant => s.readInstant
  | .list item =>
    match s with
    | .array _ items => items.readAll item.ofSource
    | s => .error (s.mismatch (Shape.list item).expectation)
  | .table item =>
    match s with
    | .object _ members => members.readTable item.ofSource .empty
    | s => .error (s.mismatch (Shape.table item).expectation)
  | .optional item =>
    match s with
    | .null _ => .ok none
    | s => (item.ofSource s).map some
  | .record name fields =>
    match s with
    | .object _ members =>
      match members.readFields fields.assignSource fields.noSlots with
      | .ok (slots, stop) => (fields.close slots).mapError (Error.located · stop)
      | .error e => .error e
    | .array _ items =>
      match fields.rowOfSource (Shape.lengthExpectation name fields) 0 items with
      | .ok (value, rest) => rest.finish.map fun _ => value
      | .error e => .error e
    | s => .error (s.mismatch (Shape.record name fields).expectation)
termination_by structural shape

/-- Reads a member into the slot of its field; a member of another name is skipped. -/
def Fields.assignSource (fields : Fields) (name : String) (resume : Position) (s : Source) (slots : fields.Slots) :
    Except Error fields.Slots :=
  match fields with
  | .nil => s.skip
  | .cons n shape rest =>
    if name = n then
      match slots.1 with
      | some _ => .error (.located (.repeatedField name) resume)
      | none => (shape.ofSource s).map fun v => (some v, slots.2)
    else (rest.assignSource name resume s slots.2).map fun r => (slots.1, r)
termination_by structural fields

/-- Reads a record given as an array, from its field number `index` on. -/
def Fields.rowOfSource (fields : Fields) (expected : String) (index : Nat) (items : Items) :
    Except Error (fields.Value × Items) :=
  match fields with
  | .nil => .ok ((), items)
  | .cons _ shape rest =>
    match items with
    | .item _ value more =>
      match shape.ofSource value with
      | .ok v => (rest.rowOfSource expected (index + 1) more).map fun r => ((v, r.1), r.2)
      | .error e => .error e
    | .closed stop =>
      match shape.missing? with
      | some v => (rest.rowOfSource expected (index + 1) (.closed stop)).map fun r => ((v, r.1), r.2)
      | none => .error (.located (.wrongLength index expected) stop)
    | .broken fault => .error fault.wanted
termination_by structural fields

end

def Shape.read (shape : Shape) (text : String) : Except Error shape.Value := do
  let d := Document.read text.toList
  let v ← shape.ofSource d.value
  match d.trailing with
  | none => .ok v
  | some e => .error e

end VaultUsage.Json
