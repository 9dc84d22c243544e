import VaultUsage.Text.Digits
import VaultUsage.Text.Unprintable

/-!
# Quoted text in messages

Text between double quotes, on one line and without invisible characters: quotes and backslashes
are escaped, line breaks and the like have short escapes, and other unprintable characters are
written by number.
-/

namespace VaultUsage.Text

def quoteChar (c : Char) : String :=
  match c with
  | '"' => "\\\""
  | '\\' => "\\\\"
  | '\n' => "\\n"
  | '\r' => "\\r"
  | '\t' => "\\t"
  | '\x00' => "\\0"
  | c => if isUnprintable c then "\\u\x7b" ++ String.ofList (hex 1 c.toNat) ++ "\x7d" else c.toString

def quote (s : String) : String :=
  "\"" ++ s.toList.foldl (fun t c => t ++ quoteChar c) "" ++ "\""

end VaultUsage.Text
