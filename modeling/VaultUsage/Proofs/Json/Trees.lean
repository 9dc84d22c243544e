import VaultUsage.Proofs.Json.Grammar
import VaultUsage.Proofs.Results

/-!
# Trees of JSON texts

What is well-formed, whether it can be read or not. A tree says of each numeral and each string what it is read as,
if it is read as anything: a numeral can be too large, and in a string or a name half of a surrogate pair can stand
alone. Whoever skips a value takes no notice of that. The texts that stand for a value are those with the tree of
that value (`hasTree_iff`).
-/

namespace VaultUsage.Json

inductive Tree where
  | null
  | boolean (value : Bool)
  | number (value : Option Number)
  | string (value : Option String)
  | array (items : List Tree)
  | object (members : List (Option String × Tree))

/-! ## Strings -/

/-- A character, as it is or by a short escape, or an escaped unit of UTF-16. -/
inductive Piece where
  | char (c : Char)
  | unit (value : Nat)

/-- The characters that the pieces stand for, behind the first half `lead` of a pair. No half stands alone. -/
def Piece.decode : Option Nat → List Piece → Option (List Char)
  | none, [] => some []
  | none, .char c :: pieces => (decode none pieces).map (c :: ·)
  | none, .unit u :: pieces =>
    if isTrailing u then none
    else if isLeading u then decode (some u) pieces
    else (decode none pieces).map (Char.ofNat u :: ·)
  | some high, .unit low :: pieces =>
    if isTrailing low then
      (decode none pieces).map (Char.ofNat (0x10000 + (high - 0xd800) * 0x400 + (low - 0xdc00)) :: ·)
    else none
  | some _, _ => none

/-- The pieces of a string up to its closing quote. -/
inductive HasPieces : List Char → List Piece → List Char → Prop where
  | closed {rest : List Char} : HasPieces ('"' :: rest) [] rest
  | plain {c : Char} {text rest : List Char} {pieces : List Piece} :
    c ≠ '"' → c ≠ '\\' → ¬c < ' ' → HasPieces text pieces rest → HasPieces (c :: text) (.char c :: pieces) rest
  | short {e c : Char} {text rest : List Char} {pieces : List Piece} :
    shortEscape? e = some c → HasPieces text pieces rest → HasPieces ('\\' :: e :: text) (.char c :: pieces) rest
  | unit {a b c d : Char} {unit : Nat} {text rest : List Char} {pieces : List Piece} :
    hexUnit? a b c d = some unit → HasPieces text pieces rest →
      HasPieces ('\\' :: 'u' :: a :: b :: c :: d :: text) (.unit unit :: pieces) rest

/-- A string behind its opening quote, with what it is read as. -/
def HasString (text : List Char) (s : Option String) (rest : List Char) : Prop :=
  ∃ pieces, HasPieces text pieces rest ∧ (Piece.decode none pieces).map String.ofList = s

/-! ## Values -/

mutual

inductive HasTree : List Char → Tree → List Char → Prop where
  | null {rest : List Char} : HasTree ('n' :: 'u' :: 'l' :: 'l' :: rest) .null rest
  | trueWord {rest : List Char} : HasTree ('t' :: 'r' :: 'u' :: 'e' :: rest) (.boolean true) rest
  | falseWord {rest : List Char} : HasTree ('f' :: 'a' :: 'l' :: 's' :: 'e' :: rest) (.boolean false) rest
  | number {text rest : List Char} {l : Numeral} {n : Option Number} :
    IsNumeral text l rest → l.value.toOption = n → HasTree text (.number n) rest
  | string {text rest : List Char} {s : Option String} :
    HasString text s rest → HasTree ('"' :: text) (.string s) rest
  | array {text rest : List Char} {items : List Tree} :
    HasItems true text items rest → HasTree ('[' :: text) (.array items) rest
  | object {text rest : List Char} {members : List (Option String × Tree)} :
    HasMembers true text members rest → HasTree ('\x7b' :: text) (.object members) rest

inductive HasItems : Bool → List Char → List Tree → List Char → Prop where
  | closed {first : Bool} {text rest : List Char} : IsGap text (']' :: rest) → HasItems first text [] rest
  | item {first : Bool} {text text' text'' rest : List Char} {t : Tree} {items : List Tree} :
    IsLead first text text' → HasTree text' t text'' → HasItems false text'' items rest →
      HasItems first text (t :: items) rest

inductive HasMembers : Bool → List Char → List (Option String × Tree) → List Char → Prop where
  | closed {first : Bool} {text rest : List Char} : IsGap text ('\x7d' :: rest) → HasMembers first text [] rest
  | member {first : Bool} {text quoted colon value value' text' rest : List Char} {name : Option String} {t : Tree}
    {members : List (Option String × Tree)} :
    IsLead first text ('"' :: quoted) → HasString quoted name colon → IsGap colon (':' :: value) →
      IsGap value value' → HasTree value' t text' → HasMembers false text' members rest →
      HasMembers first text ((name, t) :: members) rest

end

/-- A whole text that is well-formed. -/
def IsWellFormed (text : List Char) (t : Tree) : Prop :=
  ∃ start stop, IsGap text start ∧ HasTree start t stop ∧ IsGap stop []

/-! ## Trees of values -/

mutual

/-- The tree of what stands for the value. -/
def tree (v : Json) : Tree :=
  match v with
  | .null => .null
  | .boolean b => .boolean b
  | .number n => .number (some n)
  | .string s => .string (some s)
  | .array items => .array (itemTrees items)
  | .object members => .object (memberTrees members)
termination_by structural v

def itemTrees (items : List Json) : List Tree :=
  match items with
  | [] => []
  | v :: rest => v.tree :: itemTrees rest
termination_by structural items

def memberTrees (members : List (String × Json)) : List (Option String × Tree) :=
  match members with
  | [] => []
  | (name, v) :: rest => (some name, v.tree) :: memberTrees rest
termination_by structural members

end

theorem itemTrees_eq_map (items : List Json) : itemTrees items = items.map tree := by
  induction items with
  | nil => rfl
  | cons v items ih => rw [itemTrees, ih, List.map_cons]

theorem memberTrees_eq_map (members : List (String × Json)) :
    memberTrees members = members.map fun m => (some m.1, m.2.tree) := by
  induction members with
  | nil => rfl
  | cons m members ih => rw [memberTrees, ih, List.map_cons]

theorem named_memberTrees {members : List (String × Json)} : ∀ m ∈ memberTrees members, m.1 ≠ none := by
  rw [memberTrees_eq_map]
  intro m hm
  obtain ⟨member, -, rfl⟩ := List.mem_map.mp hm
  exact nofun

theorem isTrailing_of_isLeading {unit : Nat} (h : isLeading unit = true) : isTrailing unit = false := by
  simp only [isLeading, isTrailing, Bool.and_eq_true, Bool.and_eq_false_iff, decide_eq_true_eq,
    decide_eq_false_iff_not] at h ⊢
  omega

theorem IsString.hasPieces {text s rest : List Char} (h : IsString text s rest) :
    ∃ pieces, HasPieces text pieces rest ∧ Piece.decode none pieces = some s := by
  induction h with
  | closed => exact ⟨[], .closed, rfl⟩
  | plain hquote hback hlow _ ih =>
    obtain ⟨pieces, hp, hd⟩ := ih
    exact ⟨_, .plain hquote hback hlow hp, by rw [Piece.decode, hd]; rfl⟩
  | short he _ ih =>
    obtain ⟨pieces, hp, hd⟩ := ih
    exact ⟨_, .short he hp, by rw [Piece.decode, hd]; rfl⟩
  | unit hunit hlead htrail _ ih =>
    obtain ⟨pieces, hp, hd⟩ := ih
    exact ⟨_, .unit hunit hp, by simp [Piece.decode, htrail, hlead, hd]⟩
  | pair hhigh hlead hlow htrail _ ih =>
    obtain ⟨pieces, hp, hd⟩ := ih
    exact ⟨_, .unit hhigh (.unit hlow hp), by
      simp [Piece.decode, isTrailing_of_isLeading hlead, hlead, htrail, hd]⟩

/-- The two parts are for a text that starts between pairs and for one that starts inside of a pair. -/
theorem HasPieces.isString {text rest : List Char} {pieces : List Piece} (h : HasPieces text pieces rest) :
    (∀ s, Piece.decode none pieces = some s → IsString text s rest) ∧
      ∀ a b c d high s, hexUnit? a b c d = some high → isLeading high = true →
        Piece.decode (some high) pieces = some s → IsString ('\\' :: 'u' :: a :: b :: c :: d :: text) s rest := by
  induction h with
  | closed =>
    refine ⟨fun s hs => ?_, fun a b c d high s hhigh hlead hs => ?_⟩
    · cases hs
      exact .closed
    · cases hs
  | plain hquote hback hlow _ ih =>
    refine ⟨fun s hs => ?_, fun a b c d high s hhigh hlead hs => ?_⟩
    · obtain ⟨s, hd, rfl⟩ := Option.map_eq_some_iff.mp hs
      exact .plain hquote hback hlow (ih.1 s hd)
    · cases hs
  | short he _ ih =>
    refine ⟨fun s hs => ?_, fun a b c d high s hhigh hlead hs => ?_⟩
    · obtain ⟨s, hd, rfl⟩ := Option.map_eq_some_iff.mp hs
      exact .short he (ih.1 s hd)
    · cases hs
  | unit hunit _ ih =>
    refine ⟨fun s hs => ?_, fun a b c d high s hhigh hlead hs => ?_⟩
    · rw [Piece.decode] at hs
      split at hs
      · cases hs
      next htrail =>
      split at hs
      · next hlead => exact ih.2 _ _ _ _ _ s hunit hlead hs
      · next hlead =>
        obtain ⟨s, hd, rfl⟩ := Option.map_eq_some_iff.mp hs
        exact .unit hunit (Bool.not_eq_true _ ▸ hlead) (Bool.not_eq_true _ ▸ htrail) (ih.1 s hd)
    · rw [Piece.decode] at hs
      split at hs
      · next htrail =>
        obtain ⟨s, hd, rfl⟩ := Option.map_eq_some_iff.mp hs
        exact .pair hhigh hlead hunit htrail (ih.1 s hd)
      · cases hs

theorem hasString_iff {text rest : List Char} {s : String} :
    HasString text (some s) rest ↔ IsString text s.toList rest := by
  constructor
  · rintro ⟨pieces, hp, hs⟩
    obtain ⟨chars, hd, rfl⟩ := Option.map_eq_some_iff.mp hs
    rw [String.toList_ofList]
    exact hp.isString.1 chars hd
  · intro h
    obtain ⟨pieces, hp, hd⟩ := h.hasPieces
    exact ⟨pieces, hp, by rw [hd, Option.map_some, String.ofList_toList]⟩

mutual

theorem IsValue.hasTree {text rest : List Char} {v : Json} (h : IsValue text v rest) : HasTree text v.tree rest := by
  cases h with
  | null => exact .null
  | trueWord => exact .trueWord
  | falseWord => exact .falseWord
  | number h hv => exact .number h (toOption_eq_some.mpr hv)
  | string h => exact .string (hasString_iff.mpr (by rwa [String.toList_ofList]))
  | array h => exact .array h.hasItems
  | object h => exact .object h.hasMembers

theorem IsItems.hasItems {first : Bool} {text rest : List Char} {items : List Json}
    (h : IsItems first text items rest) : HasItems first text (itemTrees items) rest := by
  cases h with
  | closed h => exact .closed h
  | item hl hv hr => exact .item hl hv.hasTree hr.hasItems

theorem IsMembers.hasMembers {first : Bool} {text rest : List Char} {members : List (String × Json)}
    (h : IsMembers first text members rest) : HasMembers first text (memberTrees members) rest := by
  cases h with
  | closed h => exact .closed h
  | member hl hs hc hg hv hr =>
    exact .member hl (hasString_iff.mpr (by rwa [String.toList_ofList])) hc hg hv.hasTree hr.hasMembers

end

mutual

theorem HasTree.isValue {text rest : List Char} {v : Json} (h : HasTree text v.tree rest) : IsValue text v rest := by
  cases v with
  | null =>
    cases h
    exact .null
  | boolean b =>
    cases h with
    | trueWord => exact .trueWord
    | falseWord => exact .falseWord
  | number n =>
    cases h with
    | number h hv => exact .number h (toOption_eq_some.mp hv)
  | string s =>
    cases h with
    | string h =>
      have := IsValue.string (hasString_iff.mp h)
      rwa [String.ofList_toList] at this
  | array items =>
    cases h with
    | array h => exact .array h.isItems
  | object members =>
    cases h with
    | object h => exact .object h.isMembers

theorem HasItems.isItems {first : Bool} {text rest : List Char} {items : List Json}
    (h : HasItems first text (itemTrees items) rest) : IsItems first text items rest := by
  cases items with
  | nil =>
    cases h with
    | closed h => exact .closed h
  | cons v items =>
    cases h with
    | item hl hv hr => exact .item hl hv.isValue hr.isItems

theorem HasMembers.isMembers {first : Bool} {text rest : List Char} {members : List (String × Json)}
    (h : HasMembers first text (memberTrees members) rest) : IsMembers first text members rest := by
  cases members with
  | nil =>
    cases h with
    | closed h => exact .closed h
  | cons m members =>
    cases h with
    | member hl hs hc hg hv hr =>
      have := IsMembers.member hl (hasString_iff.mp hs) hc hg hv.isValue hr.isMembers
      rwa [String.ofList_toList] at this

end

/-- A value is in a text where its tree is. -/
theorem hasTree_iff {text rest : List Char} {v : Json} : HasTree text v.tree rest ↔ IsValue text v rest :=
  ⟨fun h => h.isValue, fun h => h.hasTree⟩

theorem isWellFormed_tree {text : List Char} {v : Json} : IsWellFormed text v.tree ↔ IsText text v := by
  simp only [IsWellFormed, IsText, hasTree_iff]

end VaultUsage.Json
