import VaultUsage.Json.Scanner

/-!
# The grammar of JSON

What texts stand for which values. Each relation takes a text from some place on, says what stands there, and
takes the text behind it. A text is cut where a scanner cuts it: no digit stands behind digits, and neither a point
nor an exponent behind a numeral that has none. Members keep the order of the text, and names may repeat.
-/

namespace VaultUsage.Json

/-! ## White space -/

inductive IsGap : List Char → List Char → Prop where
  | none {text : List Char} : IsGap text text
  | space {c : Char} {text rest : List Char} :
    Cursor.isSpace c = true → IsGap text rest → IsGap (c :: text) rest

/-! ## Numerals -/

/-- Nonempty, and no digit behind it. -/
structure IsDigits (text digits rest : List Char) : Prop where
  text_eq : text = digits ++ rest
  nonempty : digits ≠ []
  all : ∀ c ∈ digits, Text.isDigit c = true
  ends : ∀ c ∈ rest.head?, Text.isDigit c = false

inductive IsSign : List Char → Bool → List Char → Prop where
  | minus {rest : List Char} : IsSign ('-' :: rest) true rest
  | plus {rest : List Char} : IsSign ('+' :: rest) false rest
  | none {rest : List Char} : rest.head? ≠ some '-' → rest.head? ≠ some '+' → IsSign rest false rest

inductive IsFraction : List Char → Option (List Char) → List Char → Prop where
  | none {rest : List Char} : rest.head? ≠ some '.' → IsFraction rest none rest
  | some {text digits rest : List Char} : IsDigits text digits rest → IsFraction ('.' :: text) (some digits) rest

inductive IsExponent : List Char → Option (Bool × List Char) → List Char → Prop where
  | none {rest : List Char} : rest.head? ≠ some 'e' → rest.head? ≠ some 'E' → IsExponent rest none rest
  | some {c : Char} {negative : Bool} {text unsigned digits rest : List Char} :
    c = 'e' ∨ c = 'E' → IsSign text negative unsigned → IsDigits unsigned digits rest →
      IsExponent (c :: text) (some (negative, digits)) rest

/-- A numeral behind its sign. A zero is not followed by more digits. -/
inductive IsUnsigned : List Char → Numeral → List Char → Prop where
  | mk {negative : Bool} {whole : List Char} {fraction : Option (List Char)} {exponent : Option (Bool × List Char)}
    {text text' text'' rest : List Char} :
    IsDigits text whole text' → (whole.head? = some '0' → whole = ['0']) → IsFraction text' fraction text'' →
      IsExponent text'' exponent rest → IsUnsigned text ⟨negative, whole, fraction, exponent⟩ rest

inductive IsNumeral : List Char → Numeral → List Char → Prop where
  | positive {text rest : List Char} {l : Numeral} :
    l.negative = false → IsUnsigned text l rest → IsNumeral text l rest
  | negative {text rest : List Char} {l : Numeral} :
    l.negative = true → IsUnsigned text l rest → IsNumeral ('-' :: text) l rest

/-! ## Strings -/

/-- The characters of a string up to its closing quote. -/
inductive IsString : List Char → List Char → List Char → Prop where
  | closed {rest : List Char} : IsString ('"' :: rest) [] rest
  | plain {c : Char} {text s rest : List Char} :
    c ≠ '"' → c ≠ '\\' → ¬c < ' ' → IsString text s rest → IsString (c :: text) (c :: s) rest
  | short {e c : Char} {text s rest : List Char} :
    shortEscape? e = some c → IsString text s rest → IsString ('\\' :: e :: text) (c :: s) rest
  | unit {a b c d : Char} {unit : Nat} {text s rest : List Char} :
    hexUnit? a b c d = some unit → isLeading unit = false → isTrailing unit = false → IsString text s rest →
      IsString ('\\' :: 'u' :: a :: b :: c :: d :: text) (Char.ofNat unit :: s) rest
  | pair {a b c d a' b' c' d' : Char} {high low : Nat} {text s rest : List Char} :
    hexUnit? a b c d = some high → isLeading high = true → hexUnit? a' b' c' d' = some low → isTrailing low = true →
      IsString text s rest →
      IsString ('\\' :: 'u' :: a :: b :: c :: d :: '\\' :: 'u' :: a' :: b' :: c' :: d' :: text)
        (Char.ofNat (0x10000 + (high - 0xd800) * 0x400 + (low - 0xdc00)) :: s) rest

/-! ## Values -/

/-- What stands before an item or a member: white space, with a comma unless it is the first one. -/
inductive IsLead : Bool → List Char → List Char → Prop where
  | first {text rest : List Char} : IsGap text rest → IsLead true text rest
  | next {text text' rest : List Char} : IsGap text (',' :: text') → IsGap text' rest → IsLead false text rest

mutual

inductive IsValue : List Char → Json → List Char → Prop where
  | null {rest : List Char} : IsValue ('n' :: 'u' :: 'l' :: 'l' :: rest) .null rest
  | trueWord {rest : List Char} : IsValue ('t' :: 'r' :: 'u' :: 'e' :: rest) (.boolean true) rest
  | falseWord {rest : List Char} : IsValue ('f' :: 'a' :: 'l' :: 's' :: 'e' :: rest) (.boolean false) rest
  | number {text rest : List Char} {l : Numeral} {n : Number} :
    IsNumeral text l rest → l.value = .ok n → IsValue text (.number n) rest
  | string {text s rest : List Char} : IsString text s rest → IsValue ('"' :: text) (.string (String.ofList s)) rest
  | array {text rest : List Char} {items : List Json} :
    IsItems true text items rest → IsValue ('[' :: text) (.array items) rest
  | object {text rest : List Char} {members : List (String × Json)} :
    IsMembers true text members rest → IsValue ('\x7b' :: text) (.object members) rest

/-- The items up to the end of an array, with the first one in front or without it. -/
inductive IsItems : Bool → List Char → List Json → List Char → Prop where
  | closed {first : Bool} {text rest : List Char} : IsGap text (']' :: rest) → IsItems first text [] rest
  | item {first : Bool} {text text' text'' rest : List Char} {v : Json} {items : List Json} :
    IsLead first text text' → IsValue text' v text'' → IsItems false text'' items rest →
      IsItems first text (v :: items) rest

/-- The members up to the end of an object, with the first one in front or without it. -/
inductive IsMembers : Bool → List Char → List (String × Json) → List Char → Prop where
  | closed {first : Bool} {text rest : List Char} : IsGap text ('\x7d' :: rest) → IsMembers first text [] rest
  | member {first : Bool} {text name s colon value value' text' rest : List Char} {v : Json}
    {members : List (String × Json)} :
    IsLead first text ('"' :: name) → IsString name s colon → IsGap colon (':' :: value) → IsGap value value' →
      IsValue value' v text' → IsMembers false text' members rest →
      IsMembers first text ((String.ofList s, v) :: members) rest

end

/-- A whole text that stands for one value. -/
def IsText (text : List Char) (v : Json) : Prop :=
  ∃ start stop, IsGap text start ∧ IsValue start v stop ∧ IsGap stop []

end VaultUsage.Json
