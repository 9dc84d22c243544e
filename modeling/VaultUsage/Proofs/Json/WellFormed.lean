import Mathlib.Data.List.TakeWhile
import VaultUsage.Proofs.Json.Reading

/-!
# What is read is well-formed

Whatever a scanner takes off a text is a piece of the grammar, and a text is well-formed if all of it is read and can
be skipped (`Document.isWellFormed`). With the other direction (`Document.read_shows`), the texts that are read are
those of the grammar.
-/

namespace VaultUsage.Json

/-! ## White space and words -/

theorem isGap_skipSpace (k : Cursor) : IsGap k.rest k.skipSpace.rest := by
  obtain ⟨text, p⟩ := k
  unfold Cursor.skipSpace
  dsimp only
  induction text generalizing p with
  | nil => exact .none
  | cons c text ih =>
    rw [Cursor.skipSpaceFrom]
    split
    · next h => exact .space h (ih _)
    · exact .none

theorem scanWord_ok {word : List Char} : ∀ {k k' : Cursor}, scanWord word k = .ok k' → k.rest = word ++ k'.rest := by
  induction word with
  | nil =>
    intro k k' h
    cases h
    rfl
  | cons w word ih =>
    intro k k' h
    rw [scanWord] at h
    split at h
    · cases h
    · next c rest hr =>
      split at h
      · next hc =>
        have hrest := ih h
        rw [hr, hc, List.cons_append, ← hrest, Cursor.advance, hr]
        rfl
      · cases h

theorem rest_advance {k : Cursor} {c : Char} {rest : List Char} (h : k.rest = c :: rest) :
    (k.advance 1).rest = rest := by
  rw [Cursor.advance, h]
  rfl

theorem isGap_advance {k : Cursor} {c : Char} {rest : List Char} (h : k.rest = c :: rest) :
    IsGap rest (k.advance 1).skipSpace.rest := by
  have := isGap_skipSpace (k.advance 1)
  rwa [rest_advance h] at this

theorem isLead_comma {k : Cursor} {rest : List Char} (h : k.skipSpace.rest = ',' :: rest) :
    IsLead false k.rest (k.skipSpace.advance 1).skipSpace.rest :=
  .next (h ▸ isGap_skipSpace k) (isGap_advance h)

/-! ## Numerals -/

theorem isDigits_takeWhile {text : List Char} (h : text.takeWhile Text.isDigit ≠ []) :
    IsDigits text (text.takeWhile Text.isDigit) (text.dropWhile Text.isDigit) where
  text_eq := List.takeWhile_append_dropWhile.symm
  nonempty := h
  all _ hc := List.mem_takeWhile_imp hc
  ends c hc := by
    have := List.head?_dropWhile_not Text.isDigit text
    rw [Option.mem_def.mp hc] at this
    exact this

theorem scanDigits_ok {k k' : Cursor} {digits : List Char} (h : scanDigits k = .ok (digits, k')) :
    IsDigits k.rest digits k'.rest := by
  unfold scanDigits at h
  split at h
  · cases h
  · next hne =>
    cases h
    have hrest : (k.advance k.digits.length).rest = k.rest.dropWhile Text.isDigit := by
      have hdrop := @List.drop_left _ (k.rest.takeWhile Text.isDigit) (k.rest.dropWhile Text.isDigit)
      rwa [List.takeWhile_append_dropWhile] at hdrop
    rw [hrest]
    exact isDigits_takeWhile hne

theorem scanWhole_ok {k k' : Cursor} {digits : List Char} (h : scanWhole k = .ok (digits, k')) :
    IsDigits k.rest digits k'.rest ∧ (digits.head? = some '0' → digits = ['0']) := by
  obtain ⟨⟨ds, after⟩, hd, h⟩ := bind_eq_ok.mp h
  dsimp only at h
  split at h
  · cases h
  · next hzero =>
    cases h
    refine ⟨scanDigits_ok hd, fun hhead => ?_⟩
    cases digits with
    | nil => cases hhead
    | cons c rest =>
      cases hhead
      cases rest with
      | nil => rfl
      | cons d rest => exact absurd rfl (hzero d rest)

theorem scanFraction_ok {k k' : Cursor} {fraction : Option (List Char)} (h : scanFraction k = .ok (fraction, k')) :
    IsFraction k.rest fraction k'.rest := by
  unfold scanFraction at h
  split at h
  · next rest hr =>
    obtain ⟨⟨digits, after⟩, hd, h⟩ := bind_eq_ok.mp h
    cases h
    have hdigits := scanDigits_ok hd
    rw [rest_advance hr] at hdigits
    rw [hr]
    exact .some hdigits
  · next hne =>
    cases h
    refine .none fun hhead => ?_
    obtain ⟨rest, hr⟩ := List.head?_eq_some_iff.mp hhead
    exact hne rest hr

theorem scanExponent_ok {k k' : Cursor} {exponent : Option (Bool × List Char)}
    (h : scanExponent k = .ok (exponent, k')) : IsExponent k.rest exponent k'.rest := by
  unfold scanExponent at h
  split at h
  · next c rest hr =>
    split at h
    · next hc =>
      obtain ⟨⟨digits, after⟩, hd, h⟩ := bind_eq_ok.mp h
      cases h
      have hdigits := scanDigits_ok hd
      rw [Cursor.advance, hr] at hdigits
      rw [hr]
      refine .some hc ?_ hdigits
      split
      · exact .minus
      · exact .plus
      · next hminus hplus =>
        refine .none (fun hhead => ?_) fun hhead => ?_
        · obtain ⟨rest, rfl⟩ := List.head?_eq_some_iff.mp hhead
          exact hminus rest rfl
        · obtain ⟨rest, rfl⟩ := List.head?_eq_some_iff.mp hhead
          exact hplus rest rfl
    · next hc =>
      cases h
      rw [not_or] at hc
      rw [hr]
      exact .none (by simpa using hc.1) (by simpa using hc.2)
  · next hr =>
    cases h
    rw [hr]
    exact .none (by decide) (by decide)

theorem scanNumeral_ok {negative : Bool} {k k' : Cursor} {l : Numeral} (h : scanNumeral negative k = .ok (l, k')) :
    l.negative = negative ∧ IsUnsigned k.rest l k'.rest := by
  obtain ⟨⟨whole, k₁⟩, hw, h⟩ := bind_eq_ok.mp h
  obtain ⟨⟨fraction, k₂⟩, hf, h⟩ := bind_eq_ok.mp h
  obtain ⟨⟨exponent, k₃⟩, he, h⟩ := bind_eq_ok.mp h
  cases h
  obtain ⟨hdigits, hzero⟩ := scanWhole_ok hw
  exact ⟨rfl, .mk hdigits hzero (scanFraction_ok hf) (scanExponent_ok he)⟩

/-! ## Strings -/

theorem breakString_ne_closed (read : Except Error (List Char)) (fault : Fault) (value : Except Error (List Char))
    (k : Cursor) : breakString read fault ≠ .closed value k := by
  cases read <;> exact nofun

theorem exists_pieces {p : Position} {lead : Option Nat} {read value : Except Error (List Char)} {text : List Char}
    {k : Cursor} (h : scanString p lead read text = .closed value k) : ∃ pieces, HasPieces text pieces k.rest := by
  have hunit {a b c d : Char} {u : Nat} {text : List Char} (hu : hexUnit? a b c d = some u)
      (ht : ∃ pieces, HasPieces text pieces k.rest) :
      ∃ pieces, HasPieces ('\\' :: 'u' :: a :: b :: c :: d :: text) pieces k.rest :=
    ht.elim fun _ hp => ⟨_, .unit hu hp⟩
  fun_induction scanString p lead read text with
  | case1 | case2 | case3 | case9 | case11 | case13 => exact absurd h (breakString_ne_closed _ _ _ _)
  | case4 p read q a b c d rest unit hu r high htrail ih => exact hunit hu (ih h)
  | case5 p read q a b c d rest unit hu r high htrail ih => exact hunit hu (ih h)
  | case6 p read q a b c d rest unit hu r htrail ih => exact hunit hu (ih h)
  | case7 p read q a b c d rest unit hu r htrail hlead ih => exact hunit hu (ih h)
  | case8 p read q a b c d rest unit hu r htrail hlead ih => exact hunit hu (ih h)
  | case10 p lead read e rest hne q awaited c he ih =>
    obtain ⟨pieces, hp⟩ := ih h
    exact ⟨_, .short he hp⟩
  | case12 =>
    cases h
    exact ⟨_, .closed⟩
  | case14 p lead read c rest hend _ hescape awaited hquote hlow ih =>
    obtain ⟨pieces, hp⟩ := ih h
    have hback : c ≠ '\\' := by
      intro hc
      cases rest with
      | nil => exact hend hc rfl
      | cons e rest => exact hescape e rest hc rfl
    exact ⟨_, .plain hquote hback hlow hp⟩

theorem scanString_closed {p : Position} {value : Except Error (List Char)} {text : List Char} {k : Cursor}
    (h : scanString p none (.ok []) text = .closed value k) :
    HasString text (value.map String.ofList).toOption k.rest := by
  obtain ⟨pieces, hp⟩ := exists_pieces h
  have hs : HasString text ((Piece.decode none pieces).map String.ofList) k.rest := ⟨pieces, hp, rfl⟩
  obtain ⟨value', q, hq, hv⟩ := scanString_shows hs p
  cases (ScannedString.closed.inj (h.symm.trans hq)).1
  rwa [hv]

/-! ## Values -/

/-- What each reader does with the given fuel: where it ends with good syntax, it has taken off a piece of the
grammar. An item or a member has what leads to it in front. -/
structure ReadsOnly (fuel : Nat) : Prop where
  value {k : Cursor} {s : Source} {after : Option Cursor} (h : readValue fuel k = ⟨s, after⟩) (hs : s.skip = .ok ()) :
    ∃ k' t, after = some k' ∧ HasTree k.rest t k'.rest ∧ s.Shows t
  item {k : Cursor} {items : Items} {after : Option Cursor} (h : readItem fuel k = (items, after))
    (hs : items.skip = .ok ()) :
    ∃ k' trees, after = some k' ∧ items.Show trees ∧
      ∀ first text, IsLead first text k.rest → HasItems first text trees k'.rest
  items {first : Bool} {k : Cursor} {items : Items} {after : Option Cursor}
    (h : readItems fuel first k = (items, after)) (hs : items.skip = .ok ()) :
    ∃ k' trees, after = some k' ∧ items.Show trees ∧ HasItems first k.rest trees k'.rest
  member {k : Cursor} {members : Members} {after : Option Cursor} (h : readMember fuel k = (members, after))
    (hs : members.skip = .ok ()) :
    ∃ k' trees, after = some k' ∧ members.Show trees ∧
      ∀ first text, IsLead first text k.rest → HasMembers first text trees k'.rest
  members {first : Bool} {k : Cursor} {members : Members} {after : Option Cursor}
    (h : readMembers fuel first k = (members, after)) (hs : members.skip = .ok ()) :
    ∃ k' trees, after = some k' ∧ members.Show trees ∧ HasMembers first k.rest trees k'.rest

theorem readsOnly_zero : ReadsOnly 0 where
  value h hs := by
    cases h
    cases hs
  item h hs := by
    cases h
    cases hs
  items h hs := by
    cases h
    cases hs
  member h hs := by
    cases h
    cases hs
  members h hs := by
    cases h
    cases hs

theorem skip_item {p : Position} {s : Source} {rest : Items} (h : (Items.item p s rest).skip = .ok ()) :
    s.skip = .ok () ∧ rest.skip = .ok () := by
  rw [Items.skip] at h
  split at h
  · next hs => exact ⟨hs, h⟩
  · cases h

theorem skip_member {name : Except Error String} {p : Position} {s : Source} {rest : Members}
    (h : (Members.member name p s rest).skip = .ok ()) : s.skip = .ok () ∧ rest.skip = .ok () := by
  rw [Members.skip] at h
  split at h
  · next hs => exact ⟨hs, h⟩
  · cases h

theorem ofWord_ok {value : Position → Source} {r : Except Error Cursor} {s : Source} {after : Option Cursor}
    (h : ReadValue.ofWord value r = ⟨s, after⟩) (hs : s.skip = .ok ()) :
    ∃ k, r = .ok k ∧ s = value k.place ∧ after = some k := by
  cases r with
  | error e =>
    cases h
    cases hs
  | ok k =>
    cases h
    exact ⟨k, rfl, rfl, rfl⟩

theorem ofNumeral_ok {negative : Bool} {k : Cursor} {s : Source} {after : Option Cursor}
    (h : ReadValue.ofNumeral (scanNumeral negative k) = ⟨s, after⟩) (hs : s.skip = .ok ()) :
    ∃ l k', IsUnsigned k.rest l k'.rest ∧ l.negative = negative ∧ after = some k' ∧
      s.Shows (.number l.value.toOption) := by
  cases hscan : scanNumeral negative k with
  | error fault =>
    rw [hscan] at h
    cases h
    cases hs
  | ok r =>
    obtain ⟨l, k'⟩ := r
    rw [hscan] at h
    cases h
    obtain ⟨hsign, hl⟩ := scanNumeral_ok hscan
    exact ⟨l, k', hl, hsign, rfl, .number (numberAt_toOption l _)⟩

theorem ofString_ok {p : Position} {text : List Char} {s : Source} {after : Option Cursor}
    (h : ReadValue.ofString (scanString p none (.ok []) text) = ⟨s, after⟩) (hs : s.skip = .ok ()) :
    ∃ k' t, HasString text t k'.rest ∧ after = some k' ∧ s.Shows (.string t) := by
  cases hscan : scanString p none (.ok []) text with
  | broken fault =>
    rw [hscan] at h
    cases h
    cases hs
  | closed value k' =>
    rw [hscan] at h
    cases h
    exact ⟨k', _, scanString_closed hscan, rfl, .string rfl⟩

section
variable {fuel : Nat} (ih : ReadsOnly fuel)
include ih

theorem ReadsOnly.readItem {k : Cursor} {items : Items} {after : Option Cursor}
    (h : readItem (fuel + 1) k = (items, after)) (hs : items.skip = .ok ()) :
    ∃ k' trees, after = some k' ∧ items.Show trees ∧
      ∀ first text, IsLead first text k.rest → HasItems first text trees k'.rest := by
  rw [Json.readItem] at h
  dsimp only at h
  split at h
  · cases h
    cases (skip_item hs).2
  · next next hnext =>
    cases h
    obtain ⟨hvalue, hrest⟩ := skip_item hs
    obtain ⟨k₁, t, h₁, htree, hshows⟩ := ih.value rfl hvalue
    obtain ⟨k₂, trees, h₂, hshow, hitems⟩ := ih.items rfl hrest
    cases hnext.symm.trans h₁
    exact ⟨k₂, t :: trees, h₂, .item hshows hshow, fun first text hl => .item hl htree hitems⟩

theorem ReadsOnly.readItems {first : Bool} {k : Cursor} {items : Items} {after : Option Cursor}
    (h : readItems (fuel + 1) first k = (items, after)) (hs : items.skip = .ok ()) :
    ∃ k' trees, after = some k' ∧ items.Show trees ∧ HasItems first k.rest trees k'.rest := by
  have hgap := isGap_skipSpace k
  rw [Json.readItems] at h
  dsimp only at h
  split at h
  · cases h
    cases hs
  · next rest hr =>
    cases h
    rw [hr] at hgap
    exact ⟨_, [], rfl, .closed, .closed (by rwa [rest_advance hr])⟩
  next c rest hend hr =>
  split at h
  · next hfirst =>
    obtain ⟨k', trees, hk, hshow, hitems⟩ := ih.item h hs
    exact ⟨k', trees, hk, hshow, hitems first _ (hfirst ▸ .first hgap)⟩
  next hfirst =>
  split at h
  · next hcomma =>
    rw [hcomma] at hr
    split at h
    · cases h
      cases hs
    split at h
    · cases h
      cases hs
    · obtain ⟨k', trees, hk, hshow, hitems⟩ := ih.item h hs
      rw [Bool.not_eq_true] at hfirst
      exact ⟨k', trees, hk, hshow, hitems first _ (hfirst ▸ isLead_comma hr)⟩
  · cases h
    cases hs

theorem ReadsOnly.readMember {k : Cursor} {members : Members} {after : Option Cursor}
    (h : readMember (fuel + 1) k = (members, after)) (hs : members.skip = .ok ()) :
    ∃ k' trees, after = some k' ∧ members.Show trees ∧
      ∀ first text, IsLead first text k.rest → HasMembers first text trees k'.rest := by
  rw [Json.readMember] at h
  split at h
  · next text hr =>
    split at h
    · cases h
      cases hs
    next name k₁ hname =>
    have hstring := scanString_closed hname
    have hcolon := isGap_skipSpace k₁
    dsimp only at h
    split at h
    · next rest hrest =>
      have hgap := isGap_advance hrest
      rw [hrest] at hcolon
      split at h
      · cases h
        cases (skip_member hs).2
      · next next hnext =>
        cases h
        obtain ⟨hvalue, hmore⟩ := skip_member hs
        obtain ⟨k₂, t, h₂, htree, hshows⟩ := ih.value rfl hvalue
        obtain ⟨k₃, trees, h₃, hshow, hmembers⟩ := ih.members rfl hmore
        cases hnext.symm.trans h₂
        refine ⟨k₃, _ :: trees, h₃, .member rfl hshows hshow, fun first text hl => ?_⟩
        rw [hr] at hl
        exact .member hl hstring hcolon hgap htree hmembers
    · cases h
      cases (skip_member hs).1
    · cases h
      cases (skip_member hs).1
    · cases h
      cases (skip_member hs).1
  · cases h
    cases hs

theorem ReadsOnly.readMembers {first : Bool} {k : Cursor} {members : Members} {after : Option Cursor}
    (h : readMembers (fuel + 1) first k = (members, after)) (hs : members.skip = .ok ()) :
    ∃ k' trees, after = some k' ∧ members.Show trees ∧ HasMembers first k.rest trees k'.rest := by
  have hgap := isGap_skipSpace k
  rw [Json.readMembers] at h
  dsimp only at h
  split at h
  · cases h
    cases hs
  · next rest hr =>
    cases h
    rw [hr] at hgap
    exact ⟨_, [], rfl, .closed, .closed (by rwa [rest_advance hr])⟩
  next c rest hend hr =>
  split at h
  · next hfirst =>
    obtain ⟨k', trees, hk, hshow, hmembers⟩ := ih.member h hs
    exact ⟨k', trees, hk, hshow, hmembers first _ (hfirst ▸ .first hgap)⟩
  next hfirst =>
  split at h
  · next hcomma =>
    rw [hcomma] at hr
    split at h
    · cases h
      cases hs
    · cases h
      cases hs
    · obtain ⟨k', trees, hk, hshow, hmembers⟩ := ih.member h hs
      rw [Bool.not_eq_true] at hfirst
      exact ⟨k', trees, hk, hshow, hmembers first _ (hfirst ▸ isLead_comma hr)⟩
  · cases h
    cases hs

theorem ReadsOnly.readValue {k : Cursor} {s : Source} {after : Option Cursor}
    (h : readValue (fuel + 1) k = ⟨s, after⟩) (hs : s.skip = .ok ()) :
    ∃ k' t, after = some k' ∧ HasTree k.rest t k'.rest ∧ s.Shows t := by
  rw [Json.readValue] at h
  split at h
  · cases h
    cases hs
  · next rest hr =>
    obtain ⟨k', hword, rfl, rfl⟩ := ofWord_ok h hs
    rw [hr, ← rest_advance hr, scanWord_ok hword]
    exact ⟨k', _, rfl, .null, .null⟩
  · next rest hr =>
    obtain ⟨k', hword, rfl, rfl⟩ := ofWord_ok h hs
    rw [hr, ← rest_advance hr, scanWord_ok hword]
    exact ⟨k', _, rfl, .trueWord, .boolean⟩
  · next rest hr =>
    obtain ⟨k', hword, rfl, rfl⟩ := ofWord_ok h hs
    rw [hr, ← rest_advance hr, scanWord_ok hword]
    exact ⟨k', _, rfl, .falseWord, .boolean⟩
  · next rest hr =>
    obtain ⟨l, k', hl, hnegative, rfl, hshows⟩ := ofNumeral_ok h hs
    rw [rest_advance hr] at hl
    rw [hr]
    exact ⟨k', _, rfl, .number (.negative hnegative hl) rfl, hshows⟩
  · next rest hr =>
    obtain ⟨k', t, hstring, rfl, hshows⟩ := ofString_ok h hs
    rw [hr]
    exact ⟨k', _, rfl, .string hstring, hshows⟩
  · next rest hr =>
    cases h
    obtain ⟨k', trees, hk, hshow, hitems⟩ := ih.items rfl hs
    rw [rest_advance hr] at hitems
    rw [hr]
    exact ⟨k', _, hk, .array hitems, .array hshow⟩
  · next rest hr =>
    cases h
    obtain ⟨k', trees, hk, hshow, hmembers⟩ := ih.members rfl hs
    rw [rest_advance hr] at hmembers
    rw [hr]
    exact ⟨k', _, hk, .object hmembers, .object hshow⟩
  · split at h
    · obtain ⟨l, k', hl, hpositive, rfl, hshows⟩ := ofNumeral_ok h hs
      exact ⟨k', _, rfl, .number (.positive hpositive hl) rfl, hshows⟩
    · cases h
      cases hs

end

theorem readsOnly (fuel : Nat) : ReadsOnly fuel := by
  induction fuel with
  | zero => exact readsOnly_zero
  | succ fuel ih => exact ⟨ih.readValue, ih.readItem, ih.readItems, ih.readMember, ih.readMembers⟩

/-! ## Whole texts -/

/-- A text that is read to its end, with good syntax, is well-formed. -/
theorem Document.isWellFormed {text : List Char} {s : Source} (h : read text = ⟨s, none⟩) (hs : s.skip = .ok ()) :
    ∃ t, IsWellFormed text t ∧ s.Shows t := by
  rw [read, Document.mk.injEq] at h
  obtain ⟨hvalue, htrailing⟩ := h
  obtain ⟨k, t, hk, htree, hshows⟩ := (readsOnly _).value rfl (hvalue ▸ hs)
  rw [hvalue] at hshows
  rw [hk, Option.bind_some] at htrailing
  dsimp only at htrailing
  have hend : k.skipSpace.rest = [] := by
    split at htrailing
    · next h => exact List.isEmpty_iff.mp h
    · cases htrailing
  exact ⟨t, ⟨_, _, isGap_skipSpace ⟨text, .start⟩, htree, hend ▸ isGap_skipSpace k⟩, hshows⟩

/-! ## Deciding -/

mutual

def Source.showsTree (s : Source) (t : Tree) : Bool :=
  match s with
  | .null _ =>
    match t with
    | .null => true
    | _ => false
  | .boolean b _ =>
    match t with
    | .boolean b' => decide (b = b')
    | _ => false
  | .number n _ =>
    match t with
    | .number m => decide (n.toOption = m)
    | _ => false
  | .string s _ =>
    match t with
    | .string s' => decide (s.toOption = s')
    | _ => false
  | .array _ items =>
    match t with
    | .array trees => items.showTrees trees
    | _ => false
  | .object _ members =>
    match t with
    | .object trees => members.showTrees trees
    | _ => false
  | .broken _ => false
termination_by structural s

def Items.showTrees (items : Items) (trees : List Tree) : Bool :=
  match items with
  | .closed _ => trees.isEmpty
  | .item _ s rest =>
    match trees with
    | t :: trees => s.showsTree t && rest.showTrees trees
    | [] => false
  | .broken _ => false
termination_by structural items

def Members.showTrees (members : Members) (trees : List (Option String × Tree)) : Bool :=
  match members with
  | .closed _ => trees.isEmpty
  | .member name _ s rest =>
    match trees with
    | (n, t) :: trees => decide (name.toOption = n) && s.showsTree t && rest.showTrees trees
    | [] => false
  | .broken _ => false
termination_by structural members

end

mutual

theorem Source.showsTree_iff {s : Source} {t : Tree} : s.showsTree t = true ↔ s.Shows t := by
  cases s with
  | null =>
    cases t with
    | null => exact ⟨fun _ => .null, fun _ => rfl⟩
    | _ => exact ⟨nofun, nofun⟩
  | boolean =>
    cases t with
    | boolean =>
      rw [Source.showsTree, decide_eq_true_iff]
      exact ⟨fun h => h ▸ .boolean, fun h => by cases h; rfl⟩
    | _ => exact ⟨nofun, nofun⟩
  | number =>
    cases t with
    | number =>
      rw [Source.showsTree, decide_eq_true_iff]
      exact ⟨.number, fun h => by cases h; assumption⟩
    | _ => exact ⟨nofun, nofun⟩
  | string =>
    cases t with
    | string =>
      rw [Source.showsTree, decide_eq_true_iff]
      exact ⟨.string, fun h => by cases h; assumption⟩
    | _ => exact ⟨nofun, nofun⟩
  | array p items =>
    cases t with
    | array => exact items.showTrees_iff.trans ⟨.array, fun h => by cases h; assumption⟩
    | _ => exact ⟨nofun, nofun⟩
  | object p members =>
    cases t with
    | object => exact members.showTrees_iff.trans ⟨.object, fun h => by cases h; assumption⟩
    | _ => exact ⟨nofun, nofun⟩
  | broken => exact ⟨nofun, nofun⟩

theorem Items.showTrees_iff {items : Items} {trees : List Tree} : items.showTrees trees = true ↔ items.Show trees := by
  cases items with
  | closed =>
    cases trees with
    | nil => exact ⟨fun _ => .closed, fun _ => rfl⟩
    | cons => exact ⟨nofun, nofun⟩
  | item p s rest =>
    cases trees with
    | nil => exact ⟨nofun, nofun⟩
    | cons =>
      rw [Items.showTrees, Bool.and_eq_true, s.showsTree_iff, rest.showTrees_iff]
      exact ⟨fun ⟨hs, hrest⟩ => .item hs hrest, fun h => by cases h; exact ⟨‹_›, ‹_›⟩⟩
  | broken => exact ⟨nofun, nofun⟩

theorem Members.showTrees_iff {members : Members} {trees : List (Option String × Tree)} :
    members.showTrees trees = true ↔ members.Show trees := by
  cases members with
  | closed =>
    cases trees with
    | nil => exact ⟨fun _ => .closed, fun _ => rfl⟩
    | cons => exact ⟨nofun, nofun⟩
  | member name p s rest =>
    cases trees with
    | nil => exact ⟨nofun, nofun⟩
    | cons =>
      rw [Members.showTrees, Bool.and_eq_true, Bool.and_eq_true, decide_eq_true_iff, s.showsTree_iff,
        rest.showTrees_iff]
      exact ⟨fun ⟨⟨hn, hs⟩, hrest⟩ => .member hn hs hrest, fun h => by cases h; exact ⟨⟨‹_›, ‹_›⟩, ‹_›⟩⟩
  | broken => exact ⟨nofun, nofun⟩

end

/-- The reader tells which texts are well-formed. -/
theorem isWellFormed_iff {text : List Char} {t : Tree} :
    IsWellFormed text t ↔
      (Document.read text).trailing = none ∧ (Document.read text).value.showsTree t = true := by
  constructor
  · intro h
    obtain ⟨s, hs, hshows⟩ := Document.read_shows h
    rw [hs]
    exact ⟨rfl, Source.showsTree_iff.mpr hshows⟩
  · rintro ⟨hnone, hshows⟩
    rw [Source.showsTree_iff] at hshows
    have hread : Document.read text = ⟨(Document.read text).value, none⟩ := by rw [← hnone]
    obtain ⟨t', ht', hshows'⟩ := Document.isWellFormed hread hshows.skip
    rwa [hshows.unique hshows']

instance (text : List Char) (t : Tree) : Decidable (IsWellFormed text t) := decidable_of_iff' _ isWellFormed_iff

instance (text : List Char) (v : Json) : Decidable (IsText text v) := decidable_of_iff _ isWellFormed_tree

end VaultUsage.Json
