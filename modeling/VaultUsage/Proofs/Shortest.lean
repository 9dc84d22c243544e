import Mathlib.Algebra.Group.Nat.Defs
import VaultUsage.Binary64.Shortest

/-!
# The size of the shortest digits

The shortest digits of a number up to 1e9 stand for a number below 1e11 (`shortest_lt`): the digits are cut off at some
place of the number, and the last one may be rounded up. When no digits are found there is a zero.
-/

namespace VaultUsage.Binary64

/-! ## The place of the first digit -/

theorem floorLog2_le {num den : Nat} (h : num ≤ 10 ^ 9 * den) : floorLog2 num den ≤ 30 := by
  have hlog : (Nat.log2 num : Int) - Nat.log2 den ≤ 30 := by
    by_cases hn : num = 0
    · rw [hn, Nat.log2_zero]
      omega
    have hlt : 2 ^ Nat.log2 num < 2 ^ (31 + Nat.log2 den) := by
      calc
        2 ^ Nat.log2 num ≤ num := Nat.log2_self_le hn
        _ ≤ 10 ^ 9 * den := h
        _ < 10 ^ 9 * 2 ^ (Nat.log2 den + 1) := Nat.mul_lt_mul_of_pos_left Nat.lt_log2_self (by decide)
        _ ≤ 2 ^ 30 * 2 ^ (Nat.log2 den + 1) := Nat.mul_le_mul_right _ (by decide)
        _ = 2 ^ (31 + Nat.log2 den) := by rw [← Nat.pow_add]; congr 1; omega
    have := (Nat.pow_lt_pow_iff_right (by decide)).mp hlt
    omega
  unfold floorLog2
  dsimp only
  split <;> omega

theorem floorLog10_le {x : Binary64} (h : x.num ≤ 10 ^ 9 * x.den) : floorLog10 x ≤ 10 := by
  have hlog := floorLog2_le h
  unfold floorLog10
  have hguess : (floorLog2 x.num x.den * 30103).fdiv 100000 ≤ 9 := by
    rw [Int.fdiv_eq_ediv_of_nonneg _ (by decide)]
    omega
  dsimp only
  split
  · omega
  · split <;> omega

/-! ## The digits -/

/-- Either no digits were found, or they stand for a number below 1e16. -/
def Decimal.IsModest (d : Decimal) : Prop :=
  d = ⟨0, 17⟩ ∨ d.digits ≠ 0 ∧ d.exponent + (Nat.toDigits 10 d.digits).length - 1 < 16

/-- The digits stop at the place that their number asks for, at most one above the value cut off there, and read
back. -/
theorem ofDigitCount?_some {x : Binary64} {count : Nat} {d : Decimal} (h : ofDigitCount? x count = some d) :
    d.exponent = floorLog10 x + 1 - count ∧
      d.digits ≤ x.num * power 10 (-d.exponent) / (x.den * power 10 d.exponent) + 1 ∧
      d.toBinary64 = { x with negative := false } := by
  unfold ofDigitCount? at h
  dsimp only at h
  split at h
  · next hlow hhigh =>
    cases h
    split
    · exact ⟨rfl, Nat.le_succ _, eq_of_beq hlow⟩
    · exact ⟨rfl, Nat.le_refl _, eq_of_beq hhigh⟩
  · next hlow _ =>
    cases h
    exact ⟨rfl, Nat.le_succ _, eq_of_beq hlow⟩
  · next _ hhigh =>
    cases h
    exact ⟨rfl, Nat.le_refl _, eq_of_beq hhigh⟩
  · cases h

theorem digits_ne_zero {x : Binary64} {d : Decimal} (hx : x.isZero = false)
    (h : d.toBinary64 = { x with negative := false }) : d.digits ≠ 0 := by
  intro hd
  have hzero : d.toBinary64 = zero false := by simp [Decimal.toBinary64, Decimal.num, hd, nearest]
  have hmantissa : x.mantissa = 0 := congrArg mantissa (h.symm.trans hzero)
  simp [isZero, hmantissa] at hx

theorem length_toDigits_le {x : Binary64} {count : Nat} {d : Decimal} (hx : x.num ≤ 10 ^ 9 * x.den) (hc : 0 < count)
    (h : ofDigitCount? x count = some d) : d.exponent + (Nat.toDigits 10 d.digits).length ≤ 11 := by
  obtain ⟨he, hd, -⟩ := ofDigitCount?_some h
  have hplace : d.exponent ≤ 10 := by
    have := floorLog10_le hx
    omega
  -- one of the two powers is 1: the exponent is positive or negative
  have hpower : 10 ^ 10 * power 10 (-d.exponent) = power 10 d.exponent * 10 ^ (10 - d.exponent).toNat := by
    show 10 ^ 10 * 10 ^ (-d.exponent).toNat = 10 ^ d.exponent.toNat * 10 ^ (10 - d.exponent).toNat
    rw [← Nat.pow_add, ← Nat.pow_add]
    congr 1
    omega
  have hcut : x.num * power 10 (-d.exponent) / (x.den * power 10 d.exponent) ≤ 10 ^ (10 - d.exponent).toNat := by
    apply Nat.div_le_of_le_mul
    calc
      x.num * power 10 (-d.exponent) ≤ 10 ^ 9 * x.den * power 10 (-d.exponent) := Nat.mul_le_mul_right _ hx
      _ ≤ 10 ^ 10 * x.den * power 10 (-d.exponent) :=
        Nat.mul_le_mul_right _ (Nat.mul_le_mul_right _ (by decide))
      _ = x.den * (10 ^ 10 * power 10 (-d.exponent)) := by rw [← Nat.mul_assoc, Nat.mul_comm x.den]
      _ = x.den * power 10 d.exponent * 10 ^ (10 - d.exponent).toNat := by rw [hpower, Nat.mul_assoc]
  have hlt : d.digits < 10 ^ (11 - d.exponent).toNat := by
    have hsucc : (11 - d.exponent).toNat = (10 - d.exponent).toNat + 1 := by omega
    have hpos : 0 < 10 ^ (10 - d.exponent).toNat := Nat.pow_pos (by decide)
    rw [hsucc, Nat.pow_succ]
    omega
  have := (Nat.length_toDigits_le_iff (by decide) (by omega)).mpr hlt
  omega

/-! ## Zeros at the end -/

theorem trimZeros_spec {n : Nat} : ∀ {d : Decimal}, d.digits ≠ 0 → (d.trimZeros n).digits ≠ 0 ∧
    (d.trimZeros n).exponent + (Nat.toDigits 10 (d.trimZeros n).digits).length =
      d.exponent + (Nat.toDigits 10 d.digits).length := by
  induction n with
  | zero => exact fun hd => ⟨hd, rfl⟩
  | succ n ih =>
    intro d hd
    rw [Decimal.trimZeros]
    split
    · next hmod =>
      have hdigits : (Nat.toDigits 10 d.digits).length = (Nat.toDigits 10 (d.digits / 10)).length + 1 := by
        rw [Nat.toDigits_of_base_le (by decide) (by omega), List.length_append]
        rfl
      obtain ⟨hne, hsum⟩ := @ih ⟨d.digits / 10, d.exponent + 1⟩ (by dsimp only; omega)
      refine ⟨hne, hsum.trans ?_⟩
      dsimp only
      omega
    · exact ⟨hd, rfl⟩

theorem shortest_isModest {x : Binary64} (hx : x.isZero = false) (h : x.num ≤ 10 ^ 9 * x.den) :
    x.shortest.IsModest := by
  have hfound {count : Nat} {d : Decimal} (hc : 0 < count) (hd : ofDigitCount? x count = some d) :
      (d.trimZeros 17).IsModest := by
    have hlen := length_toDigits_le h hc hd
    obtain ⟨hne, hsum⟩ := trimZeros_spec (n := 17) (digits_ne_zero hx (ofDigitCount?_some hd).2.2)
    exact .inr ⟨hne, by omega⟩
  unfold shortest
  dsimp only
  cases hs : (List.range 16).findSome? fun n => ofDigitCount? x (n + 1) with
  | some d =>
    obtain ⟨n, -, hn⟩ := List.exists_of_findSome?_eq_some hs
    exact hfound (Nat.succ_pos n) hn
  | none =>
    cases hl : ofDigitCount? x 17 with
    | some d => exact hfound (by decide) hl
    | none => exact .inl rfl

end VaultUsage.Binary64
