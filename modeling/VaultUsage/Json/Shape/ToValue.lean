import VaultUsage.Json.Shape.OfValue

/-!
# Writing data as values

A record becomes an object with its fields in order; an optional field that is not there is left out.
-/

namespace VaultUsage.Json

def Shape.isAbsent : (shape : Shape) → shape.Value → Bool
  | .optional _, none => true
  | _, _ => false

mutual

def Shape.toJson (shape : Shape) (value : shape.Value) : Json :=
  match shape with
  | .text => .string value
  | .whole _ => .natural value.toNat
  | .real => .number (.real value)
  | .instant => .string (Instant.render value)
  | .list item => .array (List.map item.toJson value)
  | .table item => .object (List.map (fun e => (e.1, item.toJson e.2)) (NameMap.entries value))
  | .optional item => Option.elim value .null item.toJson
  | .record _ fields => .object (fields.toMembers value)
termination_by structural shape

def Fields.toMembers (fields : Fields) (value : fields.Value) : List (String × Json) :=
  match fields with
  | .nil => []
  | .cons name shape rest =>
    let others := rest.toMembers value.2
    if shape.isAbsent value.1 then others else (name, shape.toJson value.1) :: others
termination_by structural fields

end

end VaultUsage.Json
