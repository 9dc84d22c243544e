import VaultUsage.Proofs.Json.Printing

/-!
# Numerals of integers

A numeral is read as a natural number if it is digits only and the number fits into 64 bits
(`Numeral.value_eq_natural`); any other one is read as a negative or as a real number, or is too large. The digits are
those that the number is written with (`toDigits_ofDigits`).
-/

namespace VaultUsage

/-! ## Digits of a number -/

namespace Text

theorem digitChar_ofDigits {c : Char} (hc : isDigit c = true) : (ofDigits 10 [c]).digitChar = c := by
  simp only [isDigit, Bool.and_eq_true, decide_eq_true_eq] at hc
  have hlow : 48 ≤ c.toNat := hc.1
  have hhigh : c.toNat ≤ 57 := hc.2
  have hvalue : ofDigits 10 [c] = c.toNat - 48 := by
    simp only [ofDigits, List.foldl_cons, List.foldl_nil, hexValue?, if_pos hc]
    simp
  apply Char.toNat_inj.mp
  rw [hvalue, Nat.toNat_digitChar_of_lt_ten (by omega)]
  omega

theorem toDigits_digit {c : Char} (hc : isDigit c = true) : Nat.toDigits 10 (ofDigits 10 [c]) = [c] := by
  have hle := ofDigits_digit_le hc
  rw [Nat.toDigits_of_lt_base (by omega), digitChar_ofDigits hc]

theorem toDigits_appendDigits {digits : List Char} (hd : ∀ c ∈ digits, isDigit c = true) : ∀ {n : Nat}, 0 < n →
    Nat.toDigits 10 (appendDigits n digits) = Nat.toDigits 10 n ++ digits := by
  induction digits with
  | nil => exact fun _ => (List.append_nil _).symm
  | cons c digits ih =>
    intro n hn
    rw [List.forall_mem_cons] at hd
    have hc := ofDigits_digit_le hd.1
    have hstep : Nat.toDigits 10 (n * 10 + ofDigits 10 [c]) = Nat.toDigits 10 n ++ [c] := by
      have happend := Nat.toDigits_append_toDigits (b := 10) (n := n) (d := ofDigits 10 [c]) (by decide) hn (by omega)
      rw [toDigits_digit hd.1, Nat.mul_comm] at happend
      exact happend.symm
    rw [appendDigits_cons, ih hd.2 (by omega), hstep, List.append_assoc, List.singleton_append]

/-- Digits without a zero in front are those that their number is written with. -/
theorem toDigits_ofDigits {digits : List Char} (hd : ∀ c ∈ digits, isDigit c = true) (hne : digits ≠ [])
    (hzero : digits.head? = some '0' → digits = ['0']) : Nat.toDigits 10 (ofDigits 10 digits) = digits := by
  obtain ⟨c, digits, rfl⟩ := List.exists_cons_of_ne_nil hne
  rw [List.forall_mem_cons] at hd
  by_cases hc : c = '0'
  · subst hc
    cases hzero rfl
    exact toDigits_digit hd.1
  · have hpos : 0 < ofDigits 10 [c] := by
      rw [Nat.pos_iff_ne_zero]
      intro h
      exact hc ((digitChar_ofDigits hd.1).symm.trans (by rw [h]; rfl))
    have happend : ofDigits 10 (c :: digits) = appendDigits (ofDigits 10 [c]) digits := rfl
    rw [happend, toDigits_appendDigits hd.2 hpos, toDigits_digit hd.1, List.singleton_append]

end Text

namespace Json

/-! ## What is read -/

theorem absorb_left {digits : List Char} : ∀ {n : Nat}, n < UInt64.size →
    UInt64.size ≤ Text.appendDigits n digits → (Numeral.absorb n digits).2.2 ≠ 0 := by
  induction digits with
  | nil => exact fun hn h => absurd h (Nat.not_le.mpr hn)
  | cons c digits ih =>
    intro n hn h
    rw [Text.appendDigits_cons] at h
    rw [Numeral.absorb]
    dsimp only
    split
    · next hm => exact ih hm h
    · exact Nat.succ_ne_zero _

theorem absorb_left_eq_zero {digits : List Char} :
    (Numeral.absorb 0 digits).2.2 = 0 ↔ Text.ofDigits 10 digits < UInt64.size := by
  constructor
  · intro h
    exact Nat.not_le.mp fun hle => absorb_left (by decide) hle h
  · intro h
    rw [absorb_eq digits h]

/-- What is read as an integer: digits only that fit into 64 bits, and a negative number that is not below the least
one. -/
def Numeral.isInteger (l : Numeral) : Bool :=
  l.fraction.isNone && l.exponent.isNone && (absorb 0 l.whole).2.2 == 0 &&
    (!l.negative || ((absorb 0 l.whole).1 != 0 && (absorb 0 l.whole).1 ≤ 0x8000000000000000))

theorem Numeral.value_of_isInteger {l : Numeral} (h : l.isInteger = true) :
    l.value = .ok (.integer (if l.negative then -((absorb 0 l.whole).1 : Int) else (absorb 0 l.whole).1)) :=
  if_pos h

theorem Numeral.value_ne_integer {l : Numeral} (h : ¬l.isInteger = true) (i : Int) : l.value ≠ .ok (.integer i) := by
  rw [value]
  dsimp only
  rw [isInteger] at h
  rw [if_neg h]
  split
  · split <;> simp
  · split
    · split <;> simp
    · split <;> simp

/-- The numerals that are read as natural numbers. -/
theorem Numeral.value_eq_natural {l : Numeral} {n : Nat} :
    l.value = .ok (.integer n) ↔ l.negative = false ∧ l.fraction = none ∧ l.exponent = none ∧
      Text.ofDigits 10 l.whole = n ∧ n < UInt64.size := by
  constructor
  · intro h
    by_cases hi : l.isInteger = true
    · have hvalue := Number.integer.inj (Except.ok.inj ((value_of_isInteger hi).symm.trans h))
      simp only [isInteger, Bool.and_eq_true, Bool.or_eq_true, Bool.not_eq_true', Option.isNone_iff_eq_none, beq_iff_eq,
        bne_iff_ne, decide_eq_true_eq] at hi
      obtain ⟨⟨⟨hfraction, hexponent⟩, hleft⟩, hsign⟩ := hi
      have hlt := absorb_left_eq_zero.mp hleft
      have habsorb : (absorb 0 l.whole).1 = Text.ofDigits 10 l.whole := by rw [absorb_eq _ hlt]; rfl
      rw [habsorb] at hvalue hsign
      have hpositive : l.negative = false := by
        cases hn : l.negative with
        | false => rfl
        | true =>
          rw [hn, if_pos rfl] at hvalue
          rcases hsign with hsign | ⟨hne, -⟩
          · rw [hn] at hsign
            cases hsign
          · omega
      rw [hpositive, if_neg Bool.false_ne_true] at hvalue
      have heq : Text.ofDigits 10 l.whole = n := by omega
      exact ⟨hpositive, hfraction, hexponent, heq, heq ▸ hlt⟩
    · exact absurd h (value_ne_integer hi n)
  · rintro ⟨hpositive, hfraction, hexponent, rfl, hlt⟩
    have habsorb := absorb_eq l.whole (n := 0) hlt
    have hi : l.isInteger = true := by
      simp [isInteger, hpositive, hfraction, hexponent, habsorb]
    rw [value_of_isInteger hi, hpositive, habsorb]
    rfl

/-! ## Texts of digits -/

theorem IsFraction.exists_piece {text rest : List Char} {fraction : Option (List Char)}
    (h : IsFraction text fraction rest) :
    ∃ piece, text = piece ++ rest ∧
      (fraction = .none ∧ piece = [] ∨ fraction ≠ .none ∧ ∃ c ∈ piece, Text.isDigit c = false) := by
  cases h with
  | none => exact ⟨[], rfl, .inl ⟨rfl, rfl⟩⟩
  | @some text digits rest hd =>
    exact ⟨'.' :: digits, by rw [hd.text_eq]; rfl, .inr ⟨nofun, '.', List.mem_cons_self, rfl⟩⟩

theorem IsExponent.exists_piece {text rest : List Char} {exponent : Option (Bool × List Char)}
    (h : IsExponent text exponent rest) :
    ∃ piece, text = piece ++ rest ∧
      (exponent = .none ∧ piece = [] ∨ exponent ≠ .none ∧ ∃ c ∈ piece, Text.isDigit c = false) := by
  cases h with
  | none => exact ⟨[], rfl, .inl ⟨rfl, rfl⟩⟩
  | @some c negative text unsigned digits rest hc hs hd =>
    have hletter : Text.isDigit c = false := by rcases hc with rfl | rfl <;> rfl
    obtain ⟨sign, hsign⟩ : ∃ sign, text = sign ++ unsigned := by
      cases hs with
      | minus => exact ⟨['-'], rfl⟩
      | plus => exact ⟨['+'], rfl⟩
      | none => exact ⟨[], rfl⟩
    refine ⟨c :: (sign ++ digits), ?_, .inr ⟨nofun, c, List.mem_cons_self, hletter⟩⟩
    rw [hsign, hd.text_eq, List.cons_append, List.append_assoc]

/-- Behind its digits a numeral has nothing, or a fraction or an exponent, and these are not all digits. -/
theorem IsUnsigned.exists_piece {text rest : List Char} {l : Numeral} (h : IsUnsigned text l rest) :
    ∃ piece, text = l.whole ++ piece ++ rest ∧ (∀ c ∈ l.whole, Text.isDigit c = true) ∧
      (l.fraction = none ∧ l.exponent = none ∧ piece = [] ∨
        ¬(l.fraction = none ∧ l.exponent = none) ∧ ∃ c ∈ piece, Text.isDigit c = false) := by
  cases h with
  | @mk negative whole fraction exponent text text' text'' rest hwhole _ hfraction hexponent =>
    obtain ⟨piece, rfl, hpiece⟩ := hfraction.exists_piece
    obtain ⟨piece', rfl, hpiece'⟩ := hexponent.exists_piece
    refine ⟨piece ++ piece', by rw [hwhole.text_eq]; simp, hwhole.all, ?_⟩
    rcases hpiece with ⟨hf, rfl⟩ | ⟨hf, c, hc, hd⟩
    · rcases hpiece' with ⟨he, rfl⟩ | ⟨he, c, hc, hd⟩
      · exact .inl ⟨hf, he, rfl⟩
      · exact .inr ⟨fun h => he h.2, c, hc, hd⟩
    · exact .inr ⟨fun h => hf h.1, c, List.mem_append_left _ hc, hd⟩

/-- A numeral is its digits, or it has more than digits: a sign, a fraction or an exponent. -/
theorem IsNumeral.plain_or {text rest : List Char} {l : Numeral} (h : IsNumeral (text ++ rest) l rest) :
    (l.negative = false ∧ l.fraction = none ∧ l.exponent = none) ∧ l.whole = text ∧
        (∀ c ∈ text, Text.isDigit c = true) ∨
      ¬(l.negative = false ∧ l.fraction = none ∧ l.exponent = none) ∧ ∃ c ∈ text, Text.isDigit c = false := by
  generalize htext : text ++ rest = whole at h
  cases h with
  | negative hnegative h =>
    obtain ⟨piece, rfl, -⟩ := h.exists_piece
    have hminus : text = '-' :: (l.whole ++ piece) := List.append_cancel_right htext
    refine .inr ⟨fun h => ?_, '-', hminus ▸ List.mem_cons_self, rfl⟩
    cases hnegative.symm.trans h.1
  | positive hpositive h =>
    obtain ⟨piece, rfl, hwhole, hpiece⟩ := h.exists_piece
    have heq : text = l.whole ++ piece := List.append_cancel_right htext
    rcases hpiece with ⟨hf, he, rfl⟩ | ⟨hne, c, hc, hd⟩
    · rw [List.append_nil] at heq
      exact .inl ⟨⟨hpositive, hf, he⟩, heq.symm, heq ▸ hwhole⟩
    · exact .inr ⟨fun h => hne h.2, c, heq ▸ List.mem_append_right _ hc, hd⟩

theorem IsNumeral.toDigits_whole {text rest : List Char} {l : Numeral} (h : IsNumeral text l rest) :
    Nat.toDigits 10 (Text.ofDigits 10 l.whole) = l.whole := by
  have hunsigned {text : List Char} (h : IsUnsigned text l rest) :
      Nat.toDigits 10 (Text.ofDigits 10 l.whole) = l.whole := by
    cases h with
    | mk hwhole hzero => exact Text.toDigits_ofDigits hwhole.all hwhole.nonempty hzero
  cases h with
  | negative _ h => exact hunsigned h
  | positive _ h => exact hunsigned h

/-- The numerals that are read as natural numbers: the digits that the number is written with, and the number fits
into 64 bits. -/
theorem IsNumeral.value_eq_natural {text rest : List Char} {l : Numeral} (h : IsNumeral (text ++ rest) l rest)
    {n : Nat} :
    l.value = .ok (.integer n) ↔ Nat.toDigits 10 n = text ∧ n < UInt64.size := by
  rw [Numeral.value_eq_natural]
  rcases h.plain_or with ⟨⟨hpositive, hf, he⟩, hwhole, -⟩ | ⟨hplain, c, hc, hd⟩
  · have hdigits := h.toDigits_whole
    constructor
    · rintro ⟨-, -, -, rfl, hlt⟩
      exact ⟨hdigits.trans hwhole, hlt⟩
    · rintro ⟨hn, hlt⟩
      refine ⟨hpositive, hf, he, ?_, hlt⟩
      rw [hwhole, ← hn, Text.ofDigits_toDigits (by decide) (by decide)]
  · constructor
    · rintro ⟨hpositive, hf, he, -⟩
      exact absurd ⟨hpositive, hf, he⟩ hplain
    · rintro ⟨rfl, -⟩
      cases (Text.isDigit_of_mem_toDigits hc).symm.trans hd

end Json

end VaultUsage
