import VaultUsage.Url.Basic

/-!
# The base URL of the service

The address of everything the service offers is below its base URL. The path of a base URL ends in a slash,
so that endpoints are added to it and replace nothing.
-/

namespace VaultUsage

structure BaseUrl where
  url : Url
  isDirectory : url.path.getLast? = some ""
  deriving DecidableEq, Repr

namespace BaseUrl

inductive Fault where
  | unreadable (fault : Url.Fault)
  | otherScheme
  deriving DecidableEq, Repr

def Fault.message : Fault → String
  | .unreadable fault => fault.message
  | .otherScheme => "scheme must be http or https"

theorem getLast?_toDirectory (path : Url.Path) : path.toDirectory.getLast? = some "" := by
  unfold Url.Path.toDirectory
  split
  · assumption
  · simp

def ofUrl (u : Url) : BaseUrl := ⟨{ u with path := u.path.toDirectory }, getLast?_toDirectory u.path⟩

/-- Reads a base URL; white space around it does not count. -/
def read (text : String) : Except Fault BaseUrl :=
  match Url.read (Text.trim text.toList) with
  | .error fault => .error (.unreadable fault)
  | .ok none => .error .otherScheme
  | .ok (some u) => .ok (ofUrl u)

def render (b : BaseUrl) : String := b.url.render

/-- The URL of an endpoint: the base URL with more segments, each percent-encoded. -/
def endpoint (b : BaseUrl) (segments : List String) : Url := { b.url with path := b.url.path.extend segments }

def catalogUrl (b : BaseUrl) : Url := b.endpoint ["api", "vault"]

def summaryUrl (b : BaseUrl) (project vault : String) : Url :=
  b.endpoint ["api", "vault", vault, "projectSummary", project]

end BaseUrl

end VaultUsage
