import VaultUsage.Url.Path
import VaultUsage.Text.Blank

/-!
# URLs of the web

A URL here is absolute, its scheme is http or https, and it has no query and no fragment: reading drops
them. Reading accepts what browsers accept: white space around the URL, tabs and line breaks in it, missing
and superfluous slashes, backslashes, numbers for addresses and dot segments. Other schemes are read as far
as errors in their host and port go.
-/

namespace VaultUsage

inductive Url.Scheme where
  | http
  | https
  deriving DecidableEq, Repr

namespace Url.Scheme

def name : Scheme → String
  | http => "http"
  | https => "https"

def defaultPort : Scheme → Nat
  | http => 80
  | https => 443

end Url.Scheme

/-- A user name and, unless it is empty, a password. -/
structure Url.UserInfo where
  name : String := ""
  password : Option String := none
  deriving DecidableEq, Repr

structure Url where
  scheme : Url.Scheme
  user : Url.UserInfo
  host : Url.Host
  /-- The port, unless it is the default one of the scheme. -/
  port : Option Nat
  path : Url.Path
  deriving DecidableEq, Repr

namespace Url

namespace UserInfo

def render (u : UserInfo) : String :=
  match u.password with
  | some password => u.name ++ ":" ++ password ++ "@"
  | none => if u.name = "" then "" else u.name ++ "@"

/-- Reads what stands before the last at sign; the first colon starts the password. -/
def read (text : List Char) : UserInfo :=
  let part (text : List Char) : String := String.ofList (encode isUserChar text)
  let name := text.takeWhile (· != ':')
  match text.drop (name.length + 1) with
  | [] => ⟨part name, none⟩
  | password => ⟨part name, some (part password)⟩

end UserInfo

def render (u : Url) : String :=
  u.scheme.name ++ "://" ++ u.user.render ++ u.host.render ++
    (match u.port with
      | some port => ":" ++ toString port
      | none => "") ++ u.path.render

/-! ## Reading -/

/-- What is left of a text when controls and blanks around it and tabs and line breaks in it are dropped. -/
def clean (text : List Char) : List Char :=
  let isEdge (c : Char) : Bool := c ≤ ' '
  (Text.dropEnd isEdge (text.dropWhile isEdge)).filter fun c => !Path.isDropped c

/-- The scheme in lower case and the text behind its colon. -/
def readScheme (text : List Char) : Except Fault (String × List Char) :=
  let isSchemeChar (c : Char) : Bool := c.isAlphanum || c == '+' || c == '-' || c == '.'
  let name := text.takeWhile isSchemeChar
  match name, text.drop name.length with
  | c :: _, ':' :: rest => if c.isAlpha then .ok (String.ofList (name.map Char.toLower), rest) else .error .noScheme
  | _, _ => .error .noScheme

/-- Whether a character ends the authority. A backslash does in the schemes that take it for a slash. -/
def endsAuthority (backslash : Bool) (c : Char) : Bool :=
  c == '/' || c == '?' || c == '#' || (backslash && c == '\\')

/-- The text of a host: up to a colon outside of brackets. -/
def hostText (bracket : Bool) : List Char → List Char
  | [] => []
  | c :: rest =>
    if c == ':' && !bracket then []
    else c :: hostText (if c == '[' then true else if c == ']' then false else bracket) rest

structure Authority where
  user : UserInfo
  host : List Char
  port : Option (List Char)
  rest : List Char

/-- Divides a text into the authority that it starts with and the rest. The last at sign ends the user
information; if nothing stands before it, there must be something behind it. -/
def readAuthority (backslash : Bool) (text : List Char) : Except Fault Authority :=
  let authority := text.takeWhile fun c => !endsAuthority backslash c
  let rest := text.drop authority.length
  let place := (authority.reverse.takeWhile (· != '@')).reverse
  let user := authority.take (authority.length - place.length - 1)
  if place.length < authority.length && user.isEmpty && place.isEmpty && !rest.isEmpty then .error .emptyHost
  else
    let host := hostText false place
    let port := match place.drop host.length with
      | [] => none
      | _ :: digits => some digits
    .ok ⟨UserInfo.read user, host, port, rest⟩

def readPort (text : List Char) : Except Fault (Option Nat) :=
  let n := Text.ofDigits 10 text
  if !text.all Text.isDigit || 65535 < n then .error .invalidPort
  else .ok (if text.isEmpty then none else some n)

/-- Reads host and port of a web-like scheme, behind any number of slashes. -/
def readWebAuthority (text : List Char) : Except Fault (UserInfo × Host × Option Nat × List Char) := do
  let a ← readAuthority true (text.dropWhile fun c => c == '/' || c == '\\')
  let host ← if a.host.isEmpty then .error .emptyHost else Host.read a.host
  let port ← match a.port with
    | some digits => readPort digits
    | none => .ok none
  pure (a.user, host, port, a.rest)

def readWeb (scheme : Scheme) (text : List Char) : Except Fault Url := do
  let (user, host, port, rest) ← readWebAuthority text
  let path := rest.takeWhile fun c => c != '?' && c != '#'
  pure ⟨scheme, user, host, if port = some scheme.defaultPort then none else port, Path.read path⟩

/-- Checks the authority of a scheme without special rules, if there is one. -/
def checkOpaque (text : List Char) : Except Fault Unit :=
  match text with
  | '/' :: '/' :: rest => do
    let a ← readAuthority false rest
    Host.checkOpaque a.host
    if a.host.isEmpty && (a.port.isSome || a.user != {}) then .error .emptyHost
    match a.port with
    | some digits => (readPort (digits.takeWhile (· != '\\'))).map fun _ => ()
    | none => .ok ()
  | _ => .ok ()

/-- Checks the host of a file URL, if there is one. -/
def checkFile (text : List Char) : Except Fault Unit :=
  let isSlash (c : Char) : Bool := c == '/' || c == '\\'
  match text with
  | a :: b :: rest =>
    let host := rest.takeWhile fun c => !endsAuthority true c
    if isSlash a && isSlash b && !host.isEmpty && !Path.isDriveLetter (String.ofList host) then
      (Host.read host).map fun _ => ()
    else .ok ()
  | _ => .ok ()

/-- A URL of the web, or nothing for a good URL of another scheme. -/
def read (text : List Char) : Except Fault (Option Url) := do
  let (scheme, rest) ← readScheme (clean text)
  match scheme with
  | "http" => (readWeb .http rest).map some
  | "https" => (readWeb .https rest).map some
  | "file" => (checkFile rest).map fun _ => none
  | "ftp" => (readWebAuthority rest).map fun _ => none
  | "ws" => (readWebAuthority rest).map fun _ => none
  | "wss" => (readWebAuthority rest).map fun _ => none
  | _ => (checkOpaque rest).map fun _ => none

end Url

end VaultUsage
