import VaultUsage.Json.Shape.OfSource

/-!
# Reading values as data

Walks a JSON value along a shape. Members come in the order of the value, which is ascending when the value
was read from text, and members of other names are passed over whatever they hold.
-/

namespace VaultUsage.Json

def found : Json → Found
  | null => .null
  | boolean b => .boolean b
  | number n => .number n
  | string s => .string s
  | array _ => .sequence
  | object _ => .map

def mismatch (v : Json) (expected : String) : Cause := .wrongType v.found expected

def toText : Json → Except Cause String
  | string s => .ok s
  | v => .error (v.mismatch "a string")

def toWhole (name : String) : Json → Except Cause UInt64
  | number (.integer i) =>
    if 0 ≤ i then .ok (.ofNat i.toNat) else .error (.wrongValue (.number (.integer i)) name)
  | v => .error (v.mismatch name)

def toReal : Json → Except Cause Binary64
  | number (.integer i) => .ok (.ofInt i)
  | number (.real x) => .ok x
  | v => .error (v.mismatch "f64")

def toInstant : Json → Except Cause Instant
  | string s => (Instant.read s.toList).mapError .badInstant
  | v => .error (v.mismatch Shape.instant.expectation)

def readTable {α : Type} (read : Json → Except Cause α) :
    List (String × Json) → NameMap α → Except Cause (NameMap α)
  | [], table => .ok table
  | (n, v) :: rest, table =>
    match read v with
    | .ok a => readTable read rest (table.insert n a)
    | .error e => .error e

mutual

def Shape.ofJson (shape : Shape) (v : Json) : Except Cause shape.Value :=
  match shape with
  | .text => v.toText
  | .whole name => v.toWhole name
  | .real => v.toReal
  | .instant => v.toInstant
  | .list item =>
    match v with
    | .array items => items.mapM item.ofJson
    | v => .error (v.mismatch (Shape.list item).expectation)
  | .table item =>
    match v with
    | .object members => readTable item.ofJson members .empty
    | v => .error (v.mismatch (Shape.table item).expectation)
  | .optional item =>
    match v with
    | .null => .ok none
    | v => (item.ofJson v).map some
  | .record name fields =>
    match v with
    | .object members => do
      let slots ← members.foldlM (fun slots m => fields.assignJson m.1 m.2 slots) fields.noSlots
      fields.close slots
    | .array items =>
      match fields.rowOfJson (Shape.lengthExpectation name fields) 0 items with
      | .ok (value, []) => .ok value
      | .ok (_, _ :: _) => .error (.wrongLength items.length "fewer elements in array")
      | .error e => .error e
    | v => .error (v.mismatch (Shape.record name fields).expectation)
termination_by structural shape

/-- Reads a member into the slot of its field; a member of another name is passed over. -/
def Fields.assignJson (fields : Fields) (name : String) (v : Json) (slots : fields.Slots) :
    Except Cause fields.Slots :=
  match fields with
  | .nil => .ok ()
  | .cons n shape rest =>
    if name = n then
      match slots.1 with
      | some _ => .error (.repeatedField name)
      | none => (shape.ofJson v).map fun a => (some a, slots.2)
    else (rest.assignJson name v slots.2).map fun r => (slots.1, r)
termination_by structural fields

/-- Reads a record given as an array, from its field number `index` on. -/
def Fields.rowOfJson (fields : Fields) (expected : String) (index : Nat) (items : List Json) :
    Except Cause (fields.Value × List Json) :=
  match fields with
  | .nil => .ok ((), items)
  | .cons _ shape rest =>
    match items with
    | v :: more =>
      match shape.ofJson v with
      | .ok a => (rest.rowOfJson expected (index + 1) more).map fun r => ((a, r.1), r.2)
      | .error e => .error e
    | [] =>
      match shape.missing? with
      | some a => (rest.rowOfJson expected (index + 1) []).map fun r => ((a, r.1), r.2)
      | none => .error (.wrongLength index expected)
termination_by structural fields

end

def Shape.readValue (shape : Shape) (v : Json) : Except Error shape.Value :=
  (shape.ofJson v).mapError (Error.mk · none)

end VaultUsage.Json
