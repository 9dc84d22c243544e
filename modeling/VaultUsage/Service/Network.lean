import VaultUsage.Service.Request

/-!
# Networks

A network answers requests or fails to. Its answers can differ from one request to the next, even for the
same URL, so they go by the number of requests that the client asked for before. Getting an answer can take
further requests, if it is found at another address. Of requests that are under way at the same time, the
network also decides which one ends first.
-/

namespace VaultUsage

/-- The status and the body that a request ends with. -/
structure Reply where
  status : Nat := 200
  body : String
  deriving DecidableEq, Repr

structure Network where
  /-- The reply to a request, or what kept it from coming. -/
  answer : (before : Nat) → Request → Except String Reply
  /-- The further requests that are made for that reply, in their order. -/
  hops : (before : Nat) → Request → List Request := fun _ _ => []
  /-- The places of requests made together, in the order in which they end. Places that are not there do
  not count, and requests whose place is missing end after the others. -/
  order : List Request → List Nat := fun _ => []

namespace Network

/-- All requests that are made when some are asked for together, after `before` others. -/
def sent (n : Network) (before : Nat) (asked : List Request) : List Request :=
  asked ++ (asked.zipIdx before).flatMap fun p => n.hops p.2 p.1

def unreachable (detail : String) : Network := { answer := fun _ _ => .error detail }

def dropMark (text : String) : String :=
  match text.toList with
  | '\ufeff' :: rest => String.ofList rest
  | _ => text

/-- The same network, with bodies taken for text: a byte order mark at the start is no part of it. -/
def decoded (n : Network) : Network :=
  { n with answer := fun before r => (n.answer before r).map fun reply => { reply with body := dropMark reply.body } }

end Network

end VaultUsage
