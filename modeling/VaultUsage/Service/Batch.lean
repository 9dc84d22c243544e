/-!
# Batches

Results of things done at the same time, as a list by place, with the order in which they end. A batch
succeeds when all of its parts do, with their values by place; otherwise its error is that of the part
that fails first.
-/

namespace VaultUsage.Batch

/-- All places below `n`: those that `order` names, then the others in ascending order. -/
def places (order : List Nat) (n : Nat) : List Nat := ((order.filter (· < n)) ++ List.range n).eraseDups

/-- Batches above this size are awaited by place. -/
def maxConcurrent : Nat := 30

def awaited (order : List Nat) (n : Nat) : List Nat := if n ≤ maxConcurrent then places order n else List.range n

variable {ε α : Type}

def error? (r : Except ε α) : Option ε :=
  match r with
  | .error e => some e
  | .ok _ => none

/-- The values by place, or the first error in the given order of places. -/
def collect (order : List Nat) (results : List (Except ε α)) : Except ε (List α) :=
  match order.findSome? fun place => results[place]?.bind error? with
  | some e => .error e
  | none => results.mapM id

end VaultUsage.Batch
