import VaultUsage.Proofs.Json.Trees

/-!
# Places in a text

A context is a tree with one value left out. Where that value stands in a text is told by what the text is like around
it; any value may stand there (`StandsAt.isWellFormed`).
-/

namespace VaultUsage.Json

/-! ## Contexts -/

inductive Context where
  | here
  | item (before : List Tree) (inner : Context) (after : List Tree)
  | member (before : List (Option String × Tree)) (name : Option String) (inner : Context)
    (after : List (Option String × Tree))

namespace Context

def plug : Context → Tree → Tree
  | here, t => t
  | item before inner after, t => .array (before ++ inner.plug t :: after)
  | member before name inner after, t => .object (before ++ (name, inner.plug t) :: after)

/-- The place is reached by fields of records: each by its name in an object, or by its number in an array. -/
def Follows : Context → List (String × Nat) → Prop
  | here, path => path = []
  | item before inner _, path => ∃ field more, path = field :: more ∧ before.length = field.2 ∧ inner.Follows more
  | member _ name inner _, path => ∃ field more, path = field :: more ∧ name = some field.1 ∧ inner.Follows more

theorem eq_here {c : Context} (h : c.Follows []) : c = .here := by
  cases c with
  | here => rfl
  | item =>
    obtain ⟨_, _, h, -⟩ := h
    cases h
  | member =>
    obtain ⟨_, _, h, -⟩ := h
    cases h

end Context

/-! ## Up to a value -/

/-- The items up to one that starts where the second text does. -/
inductive ItemsTo : Bool → List Char → List Tree → List Char → Prop where
  | here {first : Bool} {text start : List Char} : IsLead first text start → ItemsTo first text [] start
  | next {first : Bool} {text text' text'' start : List Char} {t : Tree} {before : List Tree} :
    IsLead first text text' → HasTree text' t text'' → ItemsTo false text'' before start →
      ItemsTo first text (t :: before) start

/-- The members up to one with the name, whose value starts where the second text does. -/
inductive MembersTo : Bool → List Char → List (Option String × Tree) → Option String → List Char → Prop where
  | here {first : Bool} {text quoted colon value start : List Char} {name : Option String} :
    IsLead first text ('"' :: quoted) → HasString quoted name colon → IsGap colon (':' :: value) → IsGap value start →
      MembersTo first text [] name start
  | next {first : Bool} {text quoted colon value value' text' start : List Char} {n name : Option String} {t : Tree}
    {before : List (Option String × Tree)} :
    IsLead first text ('"' :: quoted) → HasString quoted n colon → IsGap colon (':' :: value) → IsGap value value' →
      HasTree value' t text' → MembersTo false text' before name start →
      MembersTo first text ((n, t) :: before) name start

theorem ItemsTo.hasItems {first : Bool} {text start stop rest : List Char} {before after : List Tree} {t : Tree}
    (h : ItemsTo first text before start) (ht : HasTree start t stop) (hafter : HasItems false stop after rest) :
    HasItems first text (before ++ t :: after) rest := by
  induction h with
  | here hl => exact .item hl ht hafter
  | next hl hv _ ih => exact .item hl hv (ih ht)

theorem MembersTo.hasMembers {first : Bool} {text start stop rest : List Char} {name : Option String}
    {before after : List (Option String × Tree)} {t : Tree} (h : MembersTo first text before name start)
    (ht : HasTree start t stop) (hafter : HasMembers false stop after rest) :
    HasMembers first text (before ++ (name, t) :: after) rest := by
  induction h with
  | here hl hs hc hg => exact .member hl hs hc hg ht hafter
  | next hl hs hc hg hv _ ih => exact .member hl hs hc hg hv (ih ht)

/-! ## Around a value -/

/-- A value from `text` to `rest`, with the place of the context from `hole` to `stop`. -/
inductive Encloses : List Char → Context → List Char → List Char → List Char → Prop where
  | here {text rest : List Char} : Encloses text .here text rest rest
  | item {text start hole stop next rest : List Char} {before after : List Tree} {inner : Context} :
    ItemsTo true text before start → Encloses start inner hole stop next → HasItems false next after rest →
      Encloses ('[' :: text) (.item before inner after) hole stop rest
  | member {text start hole stop next rest : List Char} {before after : List (Option String × Tree)}
    {name : Option String} {inner : Context} :
    MembersTo true text before name start → Encloses start inner hole stop next → HasMembers false next after rest →
      Encloses ('\x7b' :: text) (.member before name inner after) hole stop rest

theorem Encloses.hasTree {text hole stop rest : List Char} {c : Context} {t : Tree}
    (h : Encloses text c hole stop rest) (ht : HasTree hole t stop) : HasTree text (c.plug t) rest := by
  induction h with
  | here => exact ht
  | item hto _ hafter ih => exact .array (hto.hasItems (ih ht) hafter)
  | member hto _ hafter ih => exact .object (hto.hasMembers (ih ht) hafter)

/-! ## Whole texts -/

/-- In the text, the place of the context is from `hole` to `stop`. -/
def StandsAt (text : List Char) (c : Context) (hole stop : List Char) : Prop :=
  ∃ start rest, IsGap text start ∧ Encloses start c hole stop rest ∧ IsGap rest []

theorem StandsAt.isWellFormed {text hole stop : List Char} {c : Context} {t : Tree} (h : StandsAt text c hole stop)
    (ht : HasTree hole t stop) : IsWellFormed text (c.plug t) := by
  obtain ⟨start, rest, hstart, hencloses, hrest⟩ := h
  exact ⟨start, rest, hstart, hencloses.hasTree ht, hrest⟩

end VaultUsage.Json
