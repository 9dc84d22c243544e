import VaultUsage.Proofs.Json.Trees
import VaultUsage.Proofs.Numerals

/-!
# Scanners follow the grammar

Each scanner, at the start of a piece of the grammar, reads that piece and stops behind it. Places in the text are
left open: what is read does not depend on them.
-/

namespace VaultUsage.Json

theorem advance_append (word rest : List Char) (p : Position) :
    ∃ q, (Cursor.mk (word ++ rest) p).advance word.length = ⟨rest, q⟩ := by
  simp [Cursor.advance]

theorem advance_cons (c : Char) (rest : List Char) (p : Position) :
    (Cursor.mk (c :: rest) p).advance 1 = ⟨rest, { p with column := p.column + 1 }⟩ :=
  rfl

/-! ## White space -/

theorem IsGap.length_le {text rest : List Char} (h : IsGap text rest) : rest.length ≤ text.length := by
  induction h with
  | none => exact Nat.le_refl _
  | space _ _ ih => exact Nat.le_succ_of_le ih

theorem skipSpace_eq {text rest : List Char} (h : IsGap text rest) (hr : ∀ c ∈ rest.head?, Cursor.isSpace c = false)
    (p : Position) : ∃ q, (Cursor.mk text p).skipSpace = ⟨rest, q⟩ := by
  unfold Cursor.skipSpace
  dsimp only
  induction h generalizing p with
  | none =>
    rename_i text
    cases text with
    | nil => exact ⟨p, rfl⟩
    | cons c rest => exact ⟨p, by rw [Cursor.skipSpaceFrom, hr c rfl]; rfl⟩
  | space hc _ ih =>
    rw [Cursor.skipSpaceFrom, if_pos hc]
    exact ih hr _

/-! ## Numerals -/

theorem scanDigits_eq {text digits rest : List Char} (h : IsDigits text digits rest) (p : Position) :
    ∃ q, scanDigits ⟨text, p⟩ = .ok (digits, ⟨rest, q⟩) := by
  obtain ⟨rfl, hne, hall, hends⟩ := h
  have hread : (Cursor.mk (digits ++ rest) p).digits = digits := Text.takeWhile_append_of_head hall hends
  obtain ⟨q, hq⟩ := advance_append digits rest p
  refine ⟨q, ?_⟩
  unfold scanDigits
  rw [hread]
  cases digits with
  | nil => exact absurd rfl hne
  | cons d digits => exact congrArg (fun k => Except.ok (d :: digits, k)) hq

theorem scanWhole_eq {text digits rest : List Char} (h : IsDigits text digits rest)
    (hzero : digits.head? = some '0' → digits = ['0']) (p : Position) :
    ∃ q, scanWhole ⟨text, p⟩ = .ok (digits, ⟨rest, q⟩) := by
  obtain ⟨q, hq⟩ := scanDigits_eq h p
  refine ⟨q, bind_eq_ok.mpr ⟨_, hq, ?_⟩⟩
  dsimp only
  split
  · cases hzero rfl
  · rfl

theorem scanFraction_eq {text rest : List Char} {fraction : Option (List Char)} (h : IsFraction text fraction rest)
    (p : Position) : ∃ q, scanFraction ⟨text, p⟩ = .ok (fraction, ⟨rest, q⟩) := by
  cases h with
  | none hne =>
    refine ⟨p, ?_⟩
    unfold scanFraction
    dsimp only
    split
    · exact absurd rfl hne
    · rfl
  | some h =>
    obtain ⟨q, hq⟩ := scanDigits_eq h { p with column := p.column + 1 }
    exact ⟨q, bind_eq_ok.mpr ⟨_, hq, rfl⟩⟩

theorem scanExponent_eq {text rest : List Char} {exponent : Option (Bool × List Char)}
    (h : IsExponent text exponent rest) (p : Position) :
    ∃ q, scanExponent ⟨text, p⟩ = .ok (exponent, ⟨rest, q⟩) := by
  cases h with
  | none hlower hupper =>
    refine ⟨p, ?_⟩
    unfold scanExponent
    dsimp only
    split
    · next c rest =>
      have hc : ¬(c = 'e' ∨ c = 'E') := by
        rintro (rfl | rfl)
        · exact hlower rfl
        · exact hupper rfl
      rw [if_neg hc]
    · rfl
  | some hc hsign hdigits =>
    unfold scanExponent
    dsimp only
    rw [if_pos hc]
    cases hsign with
    | minus =>
      obtain ⟨q, hq⟩ := scanDigits_eq hdigits { p with column := p.column + 2 }
      exact ⟨q, bind_eq_ok.mpr ⟨_, hq, rfl⟩⟩
    | plus =>
      obtain ⟨q, hq⟩ := scanDigits_eq hdigits { p with column := p.column + 2 }
      exact ⟨q, bind_eq_ok.mpr ⟨_, hq, rfl⟩⟩
    | none hminus hplus =>
      obtain ⟨q, hq⟩ := scanDigits_eq hdigits { p with column := p.column + 1 }
      refine ⟨q, ?_⟩
      split
      · exact absurd rfl hminus
      · exact absurd rfl hplus
      · exact bind_eq_ok.mpr ⟨_, hq, rfl⟩

theorem scanNumeral_eq {text rest : List Char} {l : Numeral} (h : IsUnsigned text l rest) (p : Position) :
    ∃ q, scanNumeral l.negative ⟨text, p⟩ = .ok (l, ⟨rest, q⟩) := by
  cases h with
  | mk hwhole hzero hfraction hexponent =>
    obtain ⟨p₁, h₁⟩ := scanWhole_eq hwhole hzero p
    obtain ⟨p₂, h₂⟩ := scanFraction_eq hfraction p₁
    obtain ⟨p₃, h₃⟩ := scanExponent_eq hexponent p₂
    exact ⟨p₃, bind_eq_ok.mpr ⟨_, h₁, bind_eq_ok.mpr ⟨_, h₂, bind_eq_ok.mpr ⟨_, h₃, rfl⟩⟩⟩⟩

/-! ## Strings -/

/-- The place behind an escaped unit. -/
def Position.afterUnit (p : Position) : Position :=
  { (p.after '\\').after 'u' with column := ((p.after '\\').after 'u').column + 4 }

/-- What is read of a string behind the characters `read`: nothing if they or the pieces cannot be read. -/
def readPieces (lead : Option Nat) (read : Except Error (List Char)) (pieces : List Piece) : Option (List Char) :=
  read.toOption.bind fun chars => (Piece.decode lead pieces).map (chars.reverse ++ ·)

theorem readPieces_of_decode {lead : Option Nat} {pieces : List Piece} (h : Piece.decode lead pieces = none)
    (read : Except Error (List Char)) : readPieces lead read pieces = none := by
  rw [readPieces, h]
  cases read.toOption <;> rfl

theorem readPieces_refuse (read : Except Error (List Char)) (e : Error) (pieces : List Piece) :
    readPieces none (refuse read e) pieces = none := by
  cases read <;> rfl

theorem readPieces_addChar {c : Char} {pieces more : List Piece} {lead : Option Nat}
    (h : Piece.decode lead more = (Piece.decode none pieces).map (c :: ·)) (read : Except Error (List Char)) :
    readPieces none (addChar read c) pieces = readPieces lead read more := by
  cases read with
  | error e => rfl
  | ok chars =>
    simp only [readPieces, addChar, Except.map, Except.toOption, Option.bind_some, h, Option.map_map]
    congr 1
    funext s
    simp

/-- A character refuses a string in which the second half of a pair is awaited. -/
theorem readPieces_char (lead : Option Nat) (read : Except Error (List Char)) (e : Error) (c : Char)
    (pieces : List Piece) :
    readPieces none (addChar (if lead.isSome then refuse read e else read) c) pieces =
      readPieces lead read (.char c :: pieces) := by
  cases lead with
  | none => exact readPieces_addChar rfl read
  | some high => cases read <;> rfl

/-- Whatever unit is escaped, scanning goes on behind it. -/
theorem scanString_unit {a b c d : Char} {unit : Nat} (hunit : hexUnit? a b c d = some unit) (p : Position)
    (lead : Option Nat) (read : Except Error (List Char)) (text : List Char) :
    ∃ lead' read', scanString p lead read ('\\' :: 'u' :: a :: b :: c :: d :: text) =
        scanString p.afterUnit lead' read' text ∧
      ∀ pieces, readPieces lead' read' pieces = readPieces lead read (.unit unit :: pieces) := by
  rw [scanString]
  simp only [hunit]
  cases lead with
  | none =>
    dsimp only
    split
    · next htrail =>
      refine ⟨_, _, rfl, fun pieces => ?_⟩
      rw [readPieces_refuse, readPieces_of_decode (by rw [Piece.decode, if_pos htrail])]
    next htrail =>
    split
    · next hlead =>
      refine ⟨_, _, rfl, fun pieces => ?_⟩
      rw [readPieces, readPieces, Piece.decode, if_neg htrail, if_pos hlead]
    · next hlead =>
      refine ⟨_, _, rfl, fun pieces => readPieces_addChar ?_ read⟩
      rw [Piece.decode, if_neg htrail, if_neg hlead]
  | some high =>
    dsimp only
    split
    · next htrail =>
      refine ⟨_, _, rfl, fun pieces => readPieces_addChar ?_ read⟩
      rw [Piece.decode, if_pos htrail]
    · next htrail =>
      refine ⟨_, _, rfl, fun pieces => ?_⟩
      rw [readPieces_refuse, readPieces_of_decode (by rw [Piece.decode, if_neg htrail])]

/-- The scanner stops behind the closing quote, whether the string can be read or not. -/
theorem scanString_eq {text rest : List Char} {pieces : List Piece} (h : HasPieces text pieces rest) :
    ∀ (p : Position) (lead : Option Nat) (read : Except Error (List Char)),
      ∃ value q, scanString p lead read text = .closed value ⟨rest, q⟩ ∧
        value.toOption = readPieces lead read pieces := by
  induction h with
  | @closed rest =>
    intro p lead read
    refine ⟨_, p.after '"', rfl, ?_⟩
    cases lead with
    | none => cases read <;> simp [readPieces, Piece.decode, Except.map, Except.toOption]
    | some high => cases read <;> rfl
  | @plain c text rest pieces hquote hback hlow _ ih =>
    intro p lead read
    obtain ⟨value, q, hq, hv⟩ := ih (p.after c)
      none (addChar (if lead.isSome then refuse read (.located .unfinishedPair (p.peek (c :: text))) else read) c)
    refine ⟨value, q, ?_, hv.trans (readPieces_char lead read _ c pieces)⟩
    rw [scanString]
    · simp only [hquote, hlow, if_false, hq]
    · exact fun h _ => hback h
    · exact fun _ h _ => hback h
    · exact fun _ _ h _ => hback h
  | @short e c text rest pieces he _ ih =>
    intro p lead read
    obtain ⟨value, q, hq, hv⟩ := ih ((p.after '\\').after e) none
      (addChar (if lead.isSome then refuse read (.located .unfinishedPair ((p.after '\\').peek (e :: text))) else read)
        c)
    refine ⟨value, q, ?_, hv.trans (readPieces_char lead read _ c pieces)⟩
    rw [scanString]
    · simp only [he, hq]
    · rintro rfl
      cases he
  | unit hunit _ ih =>
    intro p lead read
    obtain ⟨lead', read', hstep, hread⟩ := scanString_unit hunit p lead read _
    obtain ⟨value, q, hq, hv⟩ := ih p.afterUnit lead' read'
    exact ⟨value, q, hstep.trans hq, hv.trans (hread _)⟩

end VaultUsage.Json
