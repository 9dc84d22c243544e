import VaultUsage.Url.Label.Composition
import VaultUsage.Url.Label.Direction
import VaultUsage.Url.Label.Joining
import VaultUsage.Url.Label.Permitted
import VaultUsage.Url.Punycode

/-!
# Labels

The parts of a domain name. A label in ASCII that starts with `xn--` stands for one in other characters, and
is good only if it stands for a label in its one written form.
-/

namespace VaultUsage.Url.Label

def isSound (text : List Char) : Bool :=
  text.all isPermitted && !text.head?.any isMark && joinersFit [] text && composed text == text &&
    text.length ≤ 1000

/-- The text that a label in ASCII stands for. -/
def meaning? (label : List Char) : Option (List Char) :=
  match label with
  | 'x' :: 'n' :: '-' :: '-' :: code =>
    if code.isEmpty || code.getLast? == some '-' || 2000 < code.length then none
    else (Punycode.decode? code).filter isSound
  | label => some label

/-- Whether labels in ASCII and lower case make a name together. -/
def areGood (labels : List (List Char)) : Bool :=
  match labels.mapM meaning? with
  | some texts => !texts.any turns || texts.all runsOneWay
  | none => false

end VaultUsage.Url.Label
