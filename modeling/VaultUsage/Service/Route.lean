import VaultUsage.Service.Network

/-!
# Routes

A network that is given by a table: what each URL is answered with, and how long that takes.
-/

namespace VaultUsage

structure Route where
  url : String
  answer : Except String Reply
  delay : Nat := 0

namespace Route

/-- The last route of a URL counts. -/
def find? (routes : List Route) (url : String) : Option Route := routes.reverse.find? fun r => r.url == url

def noSuchRoute : Reply := ⟨404, "no such route"⟩

def answerTo (routes : List Route) (r : Request) : Except String Reply :=
  match find? routes r.url.render with
  | some route => route.answer
  | none => .ok noSuchRoute

def delayOf (routes : List Route) (r : Request) : Nat :=
  match find? routes r.url.render with
  | some route => route.delay
  | none => 0

/-- The network that answers by routes: what takes less time ends first. -/
def network (routes : List Route) : Network where
  answer _ r := answerTo routes r
  order requests :=
    let timed := requests.zipIdx.map fun (r, place) => (delayOf routes r, place)
    (timed.mergeSort fun a b => decide (a.1 ≤ b.1)).map Prod.snd

end Route

end VaultUsage
