import VaultUsage.Json.Number

/-!
# JSON values

A JSON value as data. An object is a list of members; one that is read from text has them in ascending
order of their names, each name once, and one that is written keeps the order it is given.
-/

namespace VaultUsage

inductive Json where
  | null
  | boolean (value : Bool)
  | number (value : Json.Number)
  | string (value : String)
  | array (items : List Json)
  | object (members : List (String × Json))
  deriving Repr

namespace Json

instance : Inhabited Json := ⟨.null⟩

def natural (n : Nat) : Json := .number (.integer n)

/-- The members with `name` bound to `value`, in its place in the order; an earlier binding is replaced. -/
def putMember (name : String) (value : Json) : List (String × Json) → List (String × Json)
  | [] => [(name, value)]
  | (n, v) :: rest =>
    if n = name then (name, value) :: rest
    else if name < n then (name, value) :: (n, v) :: rest
    else (n, v) :: putMember name value rest

def ofMembers (members : List (String × Json)) : Json :=
  .object (members.foldl (fun l m => putMember m.1 m.2 l) [])

def member? (name : String) : Json → Option Json
  | .object members => (members.find? fun m => m.1 == name).map Prod.snd
  | _ => none

end Json

end VaultUsage
