import VaultUsage.Service.Network

/-!
# Redirects

An answer can point to another address. What asks the servers then asks there by itself, so that a client never sees
such an answer but the one at the end of the way. It does so ten times for a request and no more. The authorization
goes along as long as the host and the port stay the same.
-/

namespace VaultUsage

def Url.effectivePort (u : Url) : Nat := u.port.getD u.scheme.defaultPort

/-- Where an answer points to. -/
structure Location where
  url : Url
  query : Option String := none
  deriving DecidableEq, Repr

/-- One answer of a server. -/
structure Answer where
  reply : Reply
  /-- What the header of that name says, if it is an address of the web. -/
  location : Option Location := none
  deriving DecidableEq, Repr

/-- The statuses that have to do with a location. -/
def Answer.redirects : List Nat := [301, 302, 303, 307, 308]

def Answer.next? (a : Answer) : Option Location := if a.reply.status ∈ redirects then a.location else none

namespace Request

/-- The address without user information. -/
def sender (r : Request) : String :=
  { r.url with user := {} }.render ++ (match r.query with
    | some query => "?" ++ query
    | none => "")

/-- The request that is made when an answer points to a location. -/
def redirected (r : Request) (l : Location) : Request :=
  { r with
    url := l.url
    query := l.query
    authorization :=
      if l.url.host = r.url.host ∧ l.url.effectivePort = r.url.effectivePort then r.authorization else none
    -- what was asked for in private is not told in public
    referer := if r.url.scheme = .https ∧ l.url.scheme = .http then r.referer else some r.sender }

end Request

structure Servers where
  /-- The answer to a request, after the requests that a client asked for before and the redirects behind it. -/
  answer : (before redirects : Nat) → Request → Except String Answer
  order : List Request → List Nat := fun _ => []

namespace Servers

def maxRedirects : Nat := 10

/-- Where the answer to a request points to, if it has to be followed. -/
def location? (s : Servers) (before redirects : Nat) (r : Request) : Option Location :=
  match s.answer before redirects r with
  | .ok a => a.next?
  | .error _ => none

/-- The reply that a request ends with, and the further requests on the way to it. So many more redirects can be
followed, and so many are behind the request. -/
def follow (s : Servers) (before : Nat) : (more redirects : Nat) → Request → Except String Reply × List Request
  | 0, redirects, r =>
    match s.location? before redirects r with
    | none => ((s.answer before redirects r).map Answer.reply, [])
    | some _ => (.error "too many redirects", [])
  | more + 1, redirects, r =>
    match s.location? before redirects r with
    | none => ((s.answer before redirects r).map Answer.reply, [])
    | some l =>
      let (result, hops) := s.follow before more (redirects + 1) (r.redirected l)
      (result, r.redirected l :: hops)

/-- The network that servers make up, with redirects followed. -/
def network (s : Servers) : Network where
  answer before r := (s.follow before maxRedirects 0 r).1
  hops before r := (s.follow before maxRedirects 0 r).2
  order := s.order

end Servers

end VaultUsage
