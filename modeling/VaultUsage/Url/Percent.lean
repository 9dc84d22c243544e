import VaultUsage.Text.Digits

/-!
# Percent-encoding

A character outside a part's set is written as its UTF-8 bytes, each a percent sign and two digits.
-/

namespace VaultUsage.Url

def hexDigit (n : Nat) : Char := if n < 10 then Char.ofNat ('0'.toNat + n) else Char.ofNat ('A'.toNat + (n - 10))

def escapeByte (b : UInt8) : List Char := ['%', hexDigit (b.toNat / 16), hexDigit (b.toNat % 16)]

def escape (c : Char) : List Char := (String.utf8EncodeChar c).flatMap escapeByte

def encode (keep : Char → Bool) (text : List Char) : List Char :=
  text.flatMap fun c => if keep c then [c] else escape c

def isPathChar (c : Char) : Bool :=
  '!' ≤ c && c ≤ '~' && !(['"', '#', '<', '>', '?', '\x60', '\x7b', '\x7d'].contains c)

/-- Characters that a single segment keeps: those of a path that mean nothing in it. -/
def isSegmentChar (c : Char) : Bool := isPathChar c && !(['/', '%', '\\'].contains c)

def isUserChar (c : Char) : Bool :=
  isPathChar c && !(['/', ':', ';', '=', '@', '[', '\\', ']', '^', '|'].contains c)

/-- Percent-encoded bytes as characters of the same number; anything else as it is. -/
def decodeBytes : List Char → List Char
  | '%' :: a :: b :: rest =>
    match Text.hexValue? a, Text.hexValue? b with
    | some x, some y => Char.ofNat (16 * x + y) :: decodeBytes rest
    | _, _ => '%' :: decodeBytes (a :: b :: rest)
  | c :: rest => c :: decodeBytes rest
  | [] => []

end VaultUsage.Url
