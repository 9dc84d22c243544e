import VaultUsage.Url.Label.CombiningClass
import VaultUsage.Url.Label.Composites

/-!
# Composition

A label has one written form: the marks of a letter stand in the order of their classes, and characters that
have a composite are written as that.
-/

namespace VaultUsage.Url.Label

/-- The characters that `c` stands for. Composites are made of composites at most `depth` levels down. -/
def decompose : (depth : Nat) → Char → List Char
  | 0, c => [c]
  | depth + 1, c =>
    match parts? c with
    | some (a, b) => decompose depth a ++ decompose depth b
    | none => [c]

/-- `c` before the marks in order, moved behind those of a lower class. -/
def insertMark (c : Char) : List Char → List Char
  | [] => [c]
  | d :: rest =>
    if 0 < combiningClass d ∧ combiningClass d < combiningClass c then d :: insertMark c rest else c :: d :: rest

def arrange (text : List Char) : List Char := text.foldr insertMark []

/-- A letter with the marks after it so far and the rest of the text. A character is joined to the letter
if there is a composite for it and no mark between the two keeps it from there. -/
def joinTo (letter : Char) (marks : List Char) : List Char → List Char
  | [] => letter :: marks
  | c :: rest =>
    let near := marks.getLast?.all fun m => combiningClass m < combiningClass c
    match if near then composite? letter c else none with
    | some whole => joinTo whole marks rest
    | none =>
      if combiningClass c = 0 then letter :: marks ++ joinTo c [] rest
      else joinTo letter (marks ++ [c]) rest

def compose : List Char → List Char
  | [] => []
  | c :: rest => if combiningClass c = 0 then joinTo c [] rest else c :: compose rest

/-- The one written form. -/
def composed (text : List Char) : List Char := compose (arrange (text.flatMap (decompose 2)))

end VaultUsage.Url.Label
