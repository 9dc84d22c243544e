import VaultUsage.Url.Label
import VaultUsage.Url.Percent

/-!
# Hosts

A host is a domain name in lower case, an IPv4 address or an IPv6 address. A name whose last label is a
number is an IPv4 address, with one to four parts in decimal, octal or hexadecimal. Domain names are
ASCII: international names are read in their ASCII form only.
-/

namespace VaultUsage.Url

inductive Fault where
  | noScheme
  | emptyHost
  | invalidPort
  | invalidIpv4
  | invalidIpv6
  | invalidDomain
  | invalidOpaqueHost
  deriving DecidableEq, Repr

def Fault.message : Fault → String
  | .noScheme => "relative URL without a base"
  | .emptyHost => "empty host"
  | .invalidPort => "invalid port number"
  | .invalidIpv4 => "invalid IPv4 address"
  | .invalidIpv6 => "invalid IPv6 address"
  | .invalidDomain => "invalid international domain name"
  | .invalidOpaqueHost => "invalid domain character"

inductive Host where
  | domain (name : String)
  | ipv4 (address : Nat)
  | ipv6 (groups : List Nat)
  deriving DecidableEq, Repr

/-- The parts of a text between the characters that satisfy `p`. -/
def splitAt (p : Char → Bool) : List Char → List (List Char)
  | [] => [[]]
  | c :: rest =>
    if p c then [] :: splitAt p rest
    else
      match splitAt p rest with
      | [] => [[c]]
      | part :: parts => (c :: part) :: parts

/-! ## IPv4 -/

def ipv4Number? (text : List Char) : Option Nat :=
  let digits (base : Nat) (text : List Char) : Option Nat :=
    if text.all fun c => (Text.hexValue? c).any (· < base) then some (Text.ofDigits base text) else none
  match text with
  | [] => none
  | '0' :: 'x' :: rest => digits 16 rest
  | '0' :: 'X' :: rest => digits 16 rest
  | '0' :: d :: rest => digits 8 (d :: rest)
  | text => digits 10 text

/-- The labels of a name, without an empty one at the end. -/
def labels (name : List Char) : List (List Char) :=
  let parts := splitAt (· == '.') name
  if parts.getLast? = some [] then parts.dropLast else parts

def endsInNumber (name : List Char) : Bool :=
  match (labels name).getLast? with
  | none => false
  | some label => (!label.isEmpty && label.all Text.isDigit) || (ipv4Number? label).isSome

/-- The address of one to four numbers: the last one fills the bytes that the others leave. -/
def ipv4OfNumbers? (numbers : List Nat) : Option Nat :=
  match numbers.getLast? with
  | none => none
  | some last =>
    let leading := numbers.dropLast
    if 3 < leading.length || leading.any (255 < ·) || Nat.pow 256 (4 - leading.length) ≤ last then none
    else some (leading.foldl (fun n x => n * 256 + x) 0 * Nat.pow 256 (4 - leading.length) + last)

def readIpv4 (name : List Char) : Except Fault Nat :=
  match (labels name).mapM ipv4Number? with
  | none => .error .invalidIpv4
  | some numbers =>
    match ipv4OfNumbers? numbers with
    | some address => .ok address
    | none => .error .invalidIpv4

def ipv4Text (n : Nat) : String :=
  ".".intercalate ([n / 0x1000000 % 256, n / 0x10000 % 256, n / 256 % 256, n % 256].map toString)

/-! ## IPv6 -/

/-- A group of one to four hexadecimal digits. -/
def ipv6Group? (text : List Char) : Option Nat :=
  if 1 ≤ text.length && text.length ≤ 4 && text.all Text.isHexDigit then some (Text.ofDigits 16 text) else none

def decimalByte? (text : List Char) : Option Nat :=
  match text with
  | [] => none
  | '0' :: _ :: _ => none
  | text =>
    let n := Text.ofDigits 10 text
    if text.length ≤ 3 && text.all Text.isDigit && n ≤ 255 then some n else none

/-- The two groups of an IPv4 address in dotted form. -/
def ipv4Groups? (text : List Char) : Option (List Nat) :=
  match (splitAt (· == '.') text).mapM decimalByte? with
  | some [a, b, c, d] => some [256 * a + b, 256 * c + d]
  | _ => none

/-- Groups with colons between them; the last one may be an IPv4 address if `mixed`. -/
def ipv6Groups? (mixed : Bool) : List (List Char) → Option (List Nat)
  | [] => some []
  | [last] =>
    match ipv6Group? last with
    | some n => some [n]
    | none => if mixed then ipv4Groups? last else none
  | group :: rest =>
    match ipv6Group? group, ipv6Groups? mixed rest with
    | some n, some l => some (n :: l)
    | _, _ => none

/-- A text cut at its first double colon. -/
def cutDoubleColon : List Char → List Char × Option (List Char)
  | ':' :: ':' :: rest => ([], some rest)
  | c :: rest =>
    let (before, after) := cutDoubleColon rest
    (c :: before, after)
  | [] => ([], none)

def groupTexts (text : List Char) : List (List Char) := if text.isEmpty then [] else splitAt (· == ':') text

/-- The eight groups of an address; a double colon stands for as many zeros as are missing. -/
def readIpv6 (text : List Char) : Except Fault (List Nat) :=
  match cutDoubleColon text with
  | (whole, none) =>
    match ipv6Groups? true (groupTexts whole) with
    | some groups => if groups.length = 8 then .ok groups else .error .invalidIpv6
    | none => .error .invalidIpv6
  | (before, some after) =>
    match ipv6Groups? false (groupTexts before), ipv6Groups? true (groupTexts after) with
    | some left, some right =>
      if left.length + right.length < 8 then
        .ok (left ++ List.replicate (8 - left.length - right.length) 0 ++ right)
      else .error .invalidIpv6
    | _, _ => .error .invalidIpv6

/-- Start and length of the first of the longest runs of zeros. -/
def longestZeros (groups : List Nat) : Nat × Nat :=
  (List.range groups.length).foldl (fun best i =>
    let run := ((groups.drop i).takeWhile (· == 0)).length
    if best.2 < run then (i, run) else best) (0, 0)

def groupsText (groups : List Nat) : String :=
  ":".intercalate (groups.map fun n => String.ofList (Text.hex 1 n))

/-- The longest run of at least two zeros is written as a double colon. -/
def ipv6Text (groups : List Nat) : String :=
  let (start, run) := longestZeros groups
  if run < 2 then groupsText groups
  else groupsText (groups.take start) ++ "::" ++ groupsText (groups.drop (start + run))

/-! ## Any host -/

namespace Host

def render : Host → String
  | domain name => name
  | ipv4 address => ipv4Text address
  | ipv6 groups => "[" ++ ipv6Text groups ++ "]"

def isForbidden (c : Char) : Bool :=
  c ≤ ' ' || '\x7f' ≤ c || ['%', '#', '/', ':', '<', '>', '?', '@', '[', '\\', ']', '^', '|'].contains c

def readBracketed (text : List Char) : Except Fault Host :=
  if text.getLast? = some ']' then (readIpv6 text.dropLast).map ipv6 else .error .invalidIpv6

def read (text : List Char) : Except Fault Host :=
  match text with
  | '[' :: rest => readBracketed rest
  | text =>
    let name := (decodeBytes text).map Char.toLower
    if name.any isForbidden || !Label.areGood (splitAt (· == '.') name) then .error .invalidDomain
    else if name.isEmpty then .error .emptyHost
    else if endsInNumber name then (readIpv4 name).map ipv4
    else .ok (domain (String.ofList name))

/-- Checks the host of a URL that is not for the web; it has no parts of interest. -/
def checkOpaque (text : List Char) : Except Fault Unit :=
  match text with
  | '[' :: rest => (readBracketed rest).map fun _ => ()
  | text =>
    if text.any fun c => ['\x00', '\t', '\n', '\r', ' ', '#', '/', ':', '<', '>', '?', '@', '[', '\\', ']',
      '^', '|'].contains c then .error .invalidOpaqueHost
    else .ok ()

end Host

end VaultUsage.Url
