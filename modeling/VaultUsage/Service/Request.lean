import VaultUsage.Text.Base64
import VaultUsage.Url.Basic

/-!
# Requests

Every request is a GET that asks for JSON. It is authorized by the user information of its URL or, if there
is none, by a token. A query and a referer come in with redirects only.
-/

namespace VaultUsage

/-- A text that can stand in a header: without controls, but for tabs. -/
def isHeaderText (s : String) : Bool := s.toList.all fun c => c == '\t' || (' ' ≤ c && c != '\x7f')

structure Token where
  text : String
  valid : isHeaderText text = true
  deriving DecidableEq, Repr

def Token.read? (text : String) : Option Token := if h : isHeaderText text = true then some ⟨text, h⟩ else none

namespace Url.UserInfo

/-- The bytes that a percent-encoded part stands for, if they are UTF-8. -/
def decode? (part : String) : Option (List UInt8) :=
  let bytes := (decodeBytes part.toList).map fun c => UInt8.ofNat c.toNat
  if (ByteArray.mk bytes.toArray).validateUTF8 then some bytes else none

/-- Name and password with a colon between them; a password that cannot be decoded counts as empty. -/
def credentials? (u : UserInfo) : Option (List UInt8) :=
  match decode? u.name with
  | none => none
  | some name =>
    match u.password.bind decode? with
    | some password => some (name ++ ':'.toUInt8 :: password)
    | none => if name.isEmpty then none else some (name ++ [':'.toUInt8])

end Url.UserInfo

structure Request where
  url : Url
  query : Option String := none
  authorization : Option String := none
  accept : String := "application/json"
  agent : String := "vaultsummary/1.0.0"
  referer : Option String := none
  deriving DecidableEq, Repr

namespace Request

def authorizationFor (token : Option Token) (user : Url.UserInfo) : Option String :=
  match user.credentials? with
  | some credentials => some ("Basic " ++ String.ofList (Text.Base64.encode credentials))
  | none => token.map fun t => "Bearer " ++ t.text

def get (token : Option Token) (url : Url) : Request := { url, authorization := authorizationFor token url.user }

end Request

end VaultUsage
