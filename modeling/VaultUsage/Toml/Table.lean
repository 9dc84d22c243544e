/-!
# TOML tables

A document is a table that is filled line by line. What a line may still add to a table depends on where
the table comes from: a header can define a table once, a dotted key can only reach tables that dotted
keys made, and an inline table is complete where it stands.
-/

namespace VaultUsage.Toml

/-- Where a table comes from: braces, a header of its own, the header of a table below it, or a dotted key. -/
inductive Origin where
  | inline
  | header
  | implied
  | dotted
  deriving DecidableEq, Repr

/-- The numbers of floats and the parts of date-times are not kept: no setting is one. -/
inductive Value where
  | text (value : String)
  | integer (value : Int)
  | boolean (value : Bool)
  | float
  | moment
  | array (items : List Value)
  | table (origin : Origin) (members : List (String × Value))
  | tables (earlier : List (List (String × Value))) (last : List (String × Value))
  deriving Repr

abbrev Members := List (String × Value)

inductive Fault where
  | malformed
  | repeated (key : String)
  | notOpen (key : String)
  | tooDeep
  deriving DecidableEq, Repr

namespace Members

def put (key : String) (value : Value) : Members → Members
  | [] => [(key, value)]
  | m :: rest => if m.1 = key then (key, value) :: rest else m :: put key value rest

/-- Changes the table that a header names; the last one if there are several, and an implied one if
there is none. -/
def within (key : String) (change : Members → Except Fault Members) (members : Members) : Except Fault Members :=
  match members.lookup key with
  | none => (change []).map fun t => members.put key (.table .implied t)
  | some (.table .inline _) => .error (.notOpen key)
  | some (.table origin t) => (change t).map fun t => members.put key (.table origin t)
  | some (.tables earlier last) => (change last).map fun t => members.put key (.tables earlier t)
  | some _ => .error (.notOpen key)

/-- Changes the table at the end of a path of headers. -/
def inTable (path : List String) (change : Members → Except Fault Members) (members : Members) :
    Except Fault Members :=
  match path with
  | [] => change members
  | key :: path => members.within key (inTable path change)

/-- A table gets its header. -/
def define (key : String) (members : Members) : Except Fault Members :=
  match members.lookup key with
  | none => .ok (members.put key (.table .header []))
  | some (.table .implied t) => .ok (members.put key (.table .header t))
  | some _ => .error (.repeated key)

/-- One more table under the same header. -/
def extend (key : String) (members : Members) : Except Fault Members :=
  match members.lookup key with
  | none => .ok (members.put key (.tables [] []))
  | some (.tables earlier last) => .ok (members.put key (.tables (earlier ++ [last]) []))
  | some _ => .error (.repeated key)

/-- Changes the table that a part of a dotted key names. A `direct` change sets a member of it, which only
a table that dotted keys made allows. -/
def under (key : String) (direct : Bool) (change : Members → Except Fault Members) (members : Members) :
    Except Fault Members :=
  match members.lookup key with
  | none => (change []).map fun t => members.put key (.table .dotted t)
  | some (.table .dotted t) => (change t).map fun t => members.put key (.table .dotted t)
  | some (.table .implied t) =>
    if direct then .error (.repeated key) else (change t).map fun t => members.put key (.table .implied t)
  | some (.tables earlier last) =>
    if direct then .error (.repeated key) else (change last).map fun t => members.put key (.tables earlier t)
  | some _ => .error (.notOpen key)

def assign (key : String) (path : List String) (value : Value) (members : Members) : Except Fault Members :=
  match path with
  | [] => if (members.lookup key).isSome then .error (.repeated key) else .ok (members.put key value)
  | next :: path => members.under key path.isEmpty (assign next path value)

end Members

end VaultUsage.Toml
