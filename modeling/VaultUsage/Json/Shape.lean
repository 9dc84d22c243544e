import VaultUsage.Json.Reader
import VaultUsage.NameMap

/-!
# Shapes of JSON values

A `Shape` says what a JSON value must look like to be read as data, and `Shape.Value` what it is read as.
There are two ways to read: from the tree of a text, where names come in text order and errors have a
place, and from a value, where they come in ascending order and have none. Writing is their inverse.

A record is an object whose members are its fields, or an array of the fields in order. Other members are
skipped. A field may be left out when its shape is optional, and `null` counts as left out.
-/

namespace VaultUsage.Json

mutual

inductive Shape where
  | text
  | whole (name : String)
  | real
  | instant
  | list (item : Shape)
  | table (item : Shape)
  | optional (item : Shape)
  | record (name : String) (fields : Fields)

inductive Fields where
  | nil
  | cons (name : String) (shape : Shape) (rest : Fields)

end

mutual

def Shape.Value (s : Shape) : Type :=
  match s with
  | .text => String
  | .whole _ => UInt64
  | .real => Binary64
  | .instant => Instant
  | .list item => List item.Value
  | .table item => NameMap item.Value
  | .optional item => Option item.Value
  | .record _ fields => fields.Value
termination_by structural s

def Fields.Value (fields : Fields) : Type :=
  match fields with
  | .nil => Unit
  | .cons _ shape rest => shape.Value × rest.Value
termination_by structural fields

end

namespace Fields

def length : Fields → Nat
  | nil => 0
  | cons _ _ rest => rest.length + 1

def Slots : Fields → Type
  | nil => Unit
  | cons _ shape rest => Option shape.Value × rest.Slots

def noSlots : (fields : Fields) → fields.Slots
  | nil => ()
  | cons _ _ rest => (none, rest.noSlots)

end Fields

namespace Shape

def expectation : Shape → String
  | text => "a string"
  | whole name => name
  | real => "f64"
  | instant => "an RFC 3339 formatted date and time string"
  | list _ => "a sequence"
  | table _ => "a map"
  | optional item => item.expectation
  | record name _ => "struct " ++ name

/-- How messages name a record that is given as an array. -/
def lengthExpectation (name : String) (fields : Fields) : String :=
  "struct " ++ name ++ " with " ++ toString fields.length ++ " elements"

/-- What a field is when nothing is given for it, if it may be left out. -/
def missing? : (s : Shape) → Option s.Value
  | optional _ => some none
  | _ => none

end Shape

end VaultUsage.Json
