import Mathlib.Algebra.Order.Field.Power
import Mathlib.Algebra.Order.Floor.Semifield
import Mathlib.Data.Int.Log
import Mathlib.Data.Rat.Floor
import Mathlib.Tactic.FieldSimp
import Mathlib.Tactic.GCongr
import Mathlib.Tactic.Linarith
import Mathlib.Tactic.NormNum
import Mathlib.Tactic.Positivity
import Mathlib.Tactic.Ring
import VaultUsage.Binary64.Basic

/-!
# Rounding to binary64

What an operation gives is the representable number next to the exact result (`Rounds`): no other one is nearer, and
in the normal range it is off by one part in 2 ^ 53 at most. It depends on the exact result alone, and keeps the order.
The sign is left aside here, magnitudes are rational.
-/

namespace VaultUsage

/-! ## Powers -/

@[simp] theorem power_natCast (base n : Nat) : power base n = base ^ n := rfl

theorem power_pos {base : Nat} (hb : 0 < base) (e : Int) : 0 < power base e := Nat.pow_pos hb

theorem power_div_power_neg {base : Nat} (hb : 0 < base) (e : Int) :
    (power base e : ℚ) / power base (-e) = (base : ℚ) ^ e := by
  have hcast (f : Int) : (power base f : ℚ) = (base : ℚ) ^ (f.toNat : Int) := by
    rw [zpow_natCast]
    exact Nat.cast_pow base f.toNat
  have hne : (base : ℚ) ≠ 0 := by positivity
  rw [hcast, hcast, ← zpow_sub₀ hne]
  congr 1
  omega

/-! ## Integers next to a quotient -/

theorem natCast_div_eq {num den : Nat} (hd : 0 < den) :
    (num / den : ℚ) = (num / den : Nat) + (num % den : Nat) / den := by
  have hne : (den : ℚ) ≠ 0 := by positivity
  have hsplit : (num : ℚ) = den * (num / den : Nat) + (num % den : Nat) := by
    exact_mod_cast (Nat.div_add_mod num den).symm
  field_simp
  exact hsplit

theorem abs_roundHalfEven_sub_le {num den : Nat} (hd : 0 < den) :
    |(roundHalfEven num den : ℚ) - num / den| ≤ 1 / 2 := by
  have hdq : (0 : ℚ) < den := by exact_mod_cast hd
  have hlt : ((num % den : Nat) : ℚ) < den := by exact_mod_cast Nat.mod_lt num hd
  have hnonneg : (0 : ℚ) ≤ (num % den : Nat) / den := by positivity
  rw [natCast_div_eq hd, roundHalfEven]
  by_cases hlow : 2 * (num % den) < den
  · have hle : ((num % den : Nat) : ℚ) / den ≤ 1 / 2 := by
      rw [div_le_iff₀ hdq]
      have : (2 * (num % den : Nat) : ℚ) < den := by exact_mod_cast hlow
      linarith
    rw [if_pos hlow, abs_le]
    constructor <;> linarith
  · by_cases hhigh : den < 2 * (num % den)
    · have hge : 1 / 2 ≤ ((num % den : Nat) : ℚ) / den := by
        rw [le_div_iff₀ hdq]
        have : (den : ℚ) < 2 * (num % den : Nat) := by exact_mod_cast hhigh
        linarith
      have hone : ((num % den : Nat) : ℚ) / den < 1 := (div_lt_one hdq).mpr hlt
      rw [if_neg hlow, if_pos hhigh, Nat.cast_add, Nat.cast_one, abs_le]
      constructor <;> linarith
    · have hhalf : ((num % den : Nat) : ℚ) / den = 1 / 2 := by
        rw [div_eq_iff hdq.ne']
        have : (2 * (num % den : Nat) : ℚ) = den := by exact_mod_cast (by omega : 2 * (num % den) = den)
        linarith
      have hparity : ((num / den % 2 : Nat) : ℚ) ≤ 1 := by exact_mod_cast (by omega : num / den % 2 ≤ 1)
      have hparity' : (0 : ℚ) ≤ (num / den % 2 : Nat) := Nat.cast_nonneg _
      rw [if_neg hlow, if_neg hhigh, hhalf, Nat.cast_add, abs_le]
      constructor <;> linarith

theorem one_le_abs_sub {n k : Nat} (h : n ≠ k) : (1 : ℚ) ≤ |(n : ℚ) - k| := by
  have hint : (1 : ℤ) ≤ |(n : ℤ) - k| := Int.one_le_abs (by omega)
  exact_mod_cast hint

/-- An integer that is at most one half away is nearest. -/
theorem abs_sub_le_of_le_half {n : Nat} {x : ℚ} (h : |(n : ℚ) - x| ≤ 1 / 2) (k : Nat) :
    |(n : ℚ) - x| ≤ |(k : ℚ) - x| := by
  by_cases hk : n = k
  · rw [hk]
  · have htriangle := abs_sub_le (n : ℚ) x k
    rw [abs_sub_comm x] at htriangle
    have := one_le_abs_sub hk
    linarith

theorem eq_of_abs_lt_half {n k : Nat} {x : ℚ} (h : |(n : ℚ) - x| ≤ 1 / 2) (hk : |(k : ℚ) - x| < 1 / 2) : n = k := by
  by_contra hne
  have htriangle := abs_sub_le (n : ℚ) x k
  rw [abs_sub_comm x] at htriangle
  have := one_le_abs_sub hne
  linarith

theorem roundHalfUp_eq_floor {num den : Nat} (hd : 0 < den) : roundHalfUp num den = ⌊(num / den : ℚ) + 1 / 2⌋₊ := by
  have hne : (den : ℚ) ≠ 0 := by positivity
  have hcast : (num / den : ℚ) + 1 / 2 = ((2 * num + den : Nat) : ℚ) / ((2 * den : Nat) : ℚ) := by
    push_cast
    field_simp
  rw [hcast, Nat.floor_div_eq_div]
  rfl

theorem natCast_div_lt_half_iff {r den : Nat} (hd : 0 < den) : (r / den : ℚ) < 1 / 2 ↔ 2 * r < den := by
  have hdq : (0 : ℚ) < den := by exact_mod_cast hd
  rw [div_lt_div_iff₀ hdq two_pos, one_mul, mul_comm]
  exact_mod_cast Iff.rfl

theorem half_lt_natCast_div_iff {r den : Nat} (hd : 0 < den) : 1 / 2 < (r / den : ℚ) ↔ den < 2 * r := by
  have hdq : (0 : ℚ) < den := by exact_mod_cast hd
  rw [div_lt_div_iff₀ two_pos hdq, one_mul, mul_comm]
  exact_mod_cast Iff.rfl

/-- The integer next to a quotient depends on the quotient only, a tie included. -/
theorem roundHalfEven_congr {num den num' den' : Nat} (hd : 0 < den) (hd' : 0 < den')
    (h : (num / den : ℚ) = num' / den') : roundHalfEven num den = roundHalfEven num' den' := by
  have hwhole : num / den = num' / den' := by
    rw [← Nat.floor_div_eq_div (K := ℚ), h, Nat.floor_div_eq_div]
  have hrest : ((num % den : Nat) : ℚ) / den = (num' % den' : Nat) / den' := by
    rw [natCast_div_eq hd, natCast_div_eq hd', hwhole] at h
    exact add_left_cancel h
  have hlow : 2 * (num % den) < den ↔ 2 * (num' % den') < den' := by
    rw [← natCast_div_lt_half_iff hd, hrest, natCast_div_lt_half_iff hd']
  have hhigh : den < 2 * (num % den) ↔ den' < 2 * (num' % den') := by
    rw [← half_lt_natCast_div_iff hd, hrest, half_lt_natCast_div_iff hd']
  simp only [roundHalfEven, hwhole, hlow, hhigh]

namespace Binary64

/-! ## Values -/

/-- The value without its sign. -/
def magnitude (x : Binary64) : ℚ := x.mantissa * 2 ^ x.exponent

theorem den_pos (x : Binary64) : 0 < x.den := power_pos (by decide) _

theorem num_div_den (x : Binary64) : (x.num : ℚ) / x.den = x.magnitude := by
  unfold num den magnitude
  rw [Nat.cast_mul, mul_div_assoc, power_div_power_neg (by decide)]
  rfl

theorem magnitude_nonneg (x : Binary64) : 0 ≤ x.magnitude := by
  unfold magnitude
  positivity

theorem absLt_iff (x y : Binary64) : x.absLt y = true ↔ x.magnitude < y.magnitude := by
  have hx : (0 : ℚ) < x.den := by exact_mod_cast x.den_pos
  have hy : (0 : ℚ) < y.den := by exact_mod_cast y.den_pos
  rw [← num_div_den, ← num_div_den, div_lt_div_iff₀ hx hy, absLt, decide_eq_true_iff]
  exact_mod_cast Iff.rfl

/-! ## The binade of a quotient -/

theorem log2_bounds {n : Nat} (hn : 0 < n) : (2 : ℚ) ^ (n.log2 : ℤ) ≤ n ∧ (n : ℚ) < 2 ^ ((n.log2 : ℤ) + 1) := by
  constructor
  · exact_mod_cast Nat.log2_self_le hn.ne'
  · exact_mod_cast Nat.lt_log2_self

/-- The logarithms of both numbers give the exponent of the quotient up to one. -/
theorem log2_div_bounds {num den : Nat} (hn : 0 < num) (hd : 0 < den) :
    (2 : ℚ) ^ ((num.log2 : ℤ) - den.log2 - 1) ≤ num / den ∧
      (num / den : ℚ) < 2 ^ ((num.log2 : ℤ) - den.log2 + 1) := by
  have hdq : (0 : ℚ) < den := by exact_mod_cast hd
  obtain ⟨hnum, hnum'⟩ := log2_bounds hn
  obtain ⟨hden, hden'⟩ := log2_bounds hd
  constructor
  · rw [le_div_iff₀ hdq]
    calc
      (2 : ℚ) ^ ((num.log2 : ℤ) - den.log2 - 1) * den ≤
          2 ^ ((num.log2 : ℤ) - den.log2 - 1) * 2 ^ ((den.log2 : ℤ) + 1) := by gcongr
      _ = 2 ^ (num.log2 : ℤ) := by
        rw [← zpow_add₀ two_ne_zero]
        congr 1
        ring
      _ ≤ num := hnum
  · rw [div_lt_iff₀ hdq]
    calc
      (num : ℚ) < 2 ^ ((num.log2 : ℤ) + 1) := hnum'
      _ = 2 ^ ((num.log2 : ℤ) - den.log2 + 1) * 2 ^ (den.log2 : ℤ) := by
        rw [← zpow_add₀ two_ne_zero]
        congr 1
        ring
      _ ≤ 2 ^ ((num.log2 : ℤ) - den.log2 + 1) * den := by gcongr

theorem mul_power_lt_iff {num den : Nat} (hd : 0 < den) (e : Int) :
    num * power 2 (-e) < den * power 2 e ↔ (num / den : ℚ) < 2 ^ e := by
  have hdq : (0 : ℚ) < den := by exact_mod_cast hd
  have hpos : (0 : ℚ) < power 2 (-e) := by exact_mod_cast power_pos (by decide) _
  have hpower := @power_div_power_neg 2 (by decide) e
  rw [Nat.cast_ofNat] at hpower
  rw [← hpower, div_lt_div_iff₀ hdq hpos, mul_comm (power 2 _ : ℚ)]
  exact_mod_cast Iff.rfl

theorem floorLog2_spec {num den : Nat} (hn : 0 < num) (hd : 0 < den) :
    (2 : ℚ) ^ floorLog2 num den ≤ num / den ∧ (num / den : ℚ) < 2 ^ (floorLog2 num den + 1) := by
  obtain ⟨hlow, hhigh⟩ := log2_div_bounds hn hd
  unfold floorLog2
  dsimp only
  by_cases h : num * power 2 (-((num.log2 : ℤ) - den.log2)) < den * power 2 ((num.log2 : ℤ) - den.log2)
  · rw [if_pos h, sub_add_cancel]
    exact ⟨hlow, (mul_power_lt_iff hd _).mp h⟩
  · rw [if_neg h]
    exact ⟨not_lt.mp fun hlt => h ((mul_power_lt_iff hd _).mpr hlt), hhigh⟩

theorem floorLog2_eq_log {num den : Nat} (hn : 0 < num) (hd : 0 < den) :
    floorLog2 num den = Int.log 2 (num / den : ℚ) := by
  obtain ⟨hlow, hhigh⟩ := floorLog2_spec hn hd
  have hpos : (0 : ℚ) < num / den := lt_of_lt_of_le (by positivity) hlow
  apply le_antisymm
  · exact (Int.zpow_le_iff_le_log one_lt_two hpos).mp (by exact_mod_cast hlow)
  · exact Int.lt_add_one_iff.mp ((Int.lt_zpow_iff_log_lt one_lt_two hpos).mp (by exact_mod_cast hhigh))

/-! ## Representable numbers -/

/-- The magnitudes of binary64 values, without a largest one. -/
def IsRepresentable (r : ℚ) : Prop := ∃ (m : Nat) (e : Int), m < 2 ^ 53 ∧ -1074 ≤ e ∧ r = m * 2 ^ e

theorem isRepresentable_natCast {n : Nat} (h : n < 2 ^ 53) : IsRepresentable n :=
  ⟨n, 0, h, by decide, by simp⟩

/-- A mantissa of 54 bits is that of a power of two. -/
theorem isRepresentable_of_le {m : Nat} {e : Int} (hm : m ≤ 2 ^ 53) (he : -1074 ≤ e) :
    IsRepresentable (m * 2 ^ e) := by
  by_cases h : m < 2 ^ 53
  · exact ⟨m, e, h, he, rfl⟩
  · obtain rfl : m = 2 ^ 53 := by omega
    refine ⟨1, e + 53, by decide, by omega, ?_⟩
    rw [zpow_add₀ two_ne_zero]
    norm_num
    ring

/-- `y` is the representable number next to `x`. -/
structure Rounds (x y : ℚ) : Prop where
  representable : IsRepresentable y
  nearest (r : ℚ) (hr : IsRepresentable r) : |y - x| ≤ |r - x|
  close (hx : 2 ^ (-1022 : ℤ) ≤ x) : |y - x| ≤ x * 2 ^ (-53 : ℤ)

section
variable {x y : ℚ} (h : Rounds x y)
include h

theorem Rounds.eq_of_isRepresentable (hx : IsRepresentable x) : y = x := by
  have := h.nearest x hx
  rw [sub_self, abs_zero] at this
  exact sub_eq_zero.mp (abs_nonpos_iff.mp this)

theorem Rounds.le_of_le {r : ℚ} (hr : IsRepresentable r) (hx : r ≤ x) : r ≤ y := by
  by_contra hlt
  have hnear := h.nearest r hr
  rw [abs_of_nonpos (by linarith), abs_of_nonpos (by linarith)] at hnear
  linarith

end

/-! ## The nearest number -/

theorem magnitude_normalize (negative : Bool) (m : Nat) (e : Int) : (normalize negative m e).magnitude = m * 2 ^ e := by
  unfold normalize
  by_cases h : m = 0
  · simp [h, zero, magnitude]
  · by_cases h' : m = power 2 53
    · rw [if_neg h, if_pos h', magnitude, h', zpow_add₀ two_ne_zero]
      have hpower : (power 2 53 : ℚ) = power 2 52 * 2 := by exact_mod_cast (rfl : power 2 53 = power 2 52 * 2)
      rw [hpower]
      ring
    · rw [if_neg h, if_neg h', magnitude]

theorem scaled_quotient (num den : Nat) (e : Int) :
    ((num * power 2 (-e) : Nat) : ℚ) / (den * power 2 e : Nat) = num / den / 2 ^ e := by
  have hpower := @power_div_power_neg 2 (by decide) (-e)
  rw [neg_neg, Nat.cast_ofNat, zpow_neg] at hpower
  rw [Nat.cast_mul, Nat.cast_mul, mul_div_mul_comm, hpower]
  rfl

theorem abs_mul_sub {s : ℚ} (hs : 0 < s) (n x : ℚ) : |n * s - x| = |n - x / s| * s := by
  rw [← abs_of_pos hs, ← abs_mul, abs_of_pos hs, sub_mul, div_mul_cancel₀ x hs.ne']

theorem magnitude_nearest (negative : Bool) {num : Nat} (hn : num ≠ 0) (den : Nat) :
    (nearest negative num den).magnitude =
      roundHalfEven (num * power 2 (-lastPlace num den)) (den * power 2 (lastPlace num den)) *
        2 ^ lastPlace num den := by
  rw [nearest, if_neg hn]
  exact magnitude_normalize _ _ _

section
variable {x : ℚ} {e : Int} {n : Nat} (hn : |(n : ℚ) - x / 2 ^ e| ≤ 1 / 2)
include hn

theorem grid_nearest (k : Nat) : |(n : ℚ) * 2 ^ e - x| ≤ |(k : ℚ) * 2 ^ e - x| := by
  have hs : (0 : ℚ) < 2 ^ e := zpow_pos two_pos e
  rw [abs_mul_sub hs, abs_mul_sub hs]
  exact mul_le_mul_of_nonneg_right (abs_sub_le_of_le_half hn k) hs.le

theorem isRepresentable_grid (he : -1074 ≤ e) (hhigh : x < 2 ^ (e + 53)) : IsRepresentable (n * 2 ^ e) := by
  apply isRepresentable_of_le _ he
  have hscaled : x / 2 ^ e < 2 ^ 53 := by
    rw [div_lt_iff₀ (zpow_pos two_pos e)]
    calc
      x < 2 ^ (e + 53) := hhigh
      _ = 2 ^ 53 * 2 ^ e := by rw [zpow_add₀ two_ne_zero, mul_comm]; rfl
  have hle := (abs_le.mp hn).2
  have hlt : (n : ℚ) < (2 ^ 53 + 1 : Nat) := by
    push_cast
    linarith
  have : n < 2 ^ 53 + 1 := by exact_mod_cast hlt
  omega

theorem grid_close (hx : 2 ^ (e + 52) ≤ x) : |(n : ℚ) * 2 ^ e - x| ≤ x * 2 ^ (-53 : ℤ) := by
  have hs : (0 : ℚ) < 2 ^ e := zpow_pos two_pos e
  calc
    |(n : ℚ) * 2 ^ e - x| = |n - x / 2 ^ e| * 2 ^ e := abs_mul_sub hs _ _
    _ ≤ 1 / 2 * 2 ^ e := mul_le_mul_of_nonneg_right hn hs.le
    _ = 2 ^ (e + 52) * 2 ^ (-53 : ℤ) := by
      rw [← zpow_add₀ two_ne_zero, show e + 52 + -53 = e - 1 by omega, zpow_sub_one₀ two_ne_zero]
      ring
    _ ≤ x * 2 ^ (-53 : ℤ) := by gcongr

/-- What is representable but not a point of the grid is smaller than `x` by a whole binade. -/
theorem grid_nearest_of_lt {m : Nat} {f : Int} (hm : m < 2 ^ 53) (hf : f < e) (hx : 2 ^ (e + 52) ≤ x) :
    |(n : ℚ) * 2 ^ e - x| ≤ |(m : ℚ) * 2 ^ f - x| := by
  have hr : (m : ℚ) * 2 ^ f ≤ 2 ^ (e + 52) := by
    calc
      (m : ℚ) * 2 ^ f ≤ 2 ^ (53 : ℤ) * 2 ^ f := by
        gcongr
        exact_mod_cast hm.le
      _ = 2 ^ (53 + f) := (zpow_add₀ two_ne_zero _ _).symm
      _ ≤ 2 ^ (e + 52) := zpow_le_zpow_right₀ one_le_two (by omega)
  have hpoint := grid_nearest hn (2 ^ 52)
  have hbinade : ((2 ^ 52 : Nat) : ℚ) * 2 ^ e = 2 ^ (e + 52) := by
    rw [zpow_add₀ two_ne_zero, mul_comm]
    norm_num
  rw [hbinade, abs_of_nonpos (sub_nonpos.mpr hx)] at hpoint
  rw [abs_of_nonpos (a := (m : ℚ) * 2 ^ f - x) (by linarith)]
  linarith

/-- An integer next to `x` on the grid of its last place is next to it among all representable numbers. -/
theorem rounds_grid (he : -1074 ≤ e) (hlow : -1074 < e → 2 ^ (e + 52) ≤ x) (hhigh : x < 2 ^ (e + 53)) :
    Rounds x (n * 2 ^ e) where
  representable := isRepresentable_grid hn he hhigh
  nearest := by
    rintro r ⟨m, f, hm, hf, rfl⟩
    by_cases hef : e ≤ f
    · have hr : (m : ℚ) * 2 ^ f = (m * 2 ^ (f - e).toNat : Nat) * 2 ^ e := by
        push_cast
        rw [mul_assoc, ← zpow_natCast, ← zpow_add₀ two_ne_zero]
        congr 2
        omega
      rw [hr]
      exact grid_nearest hn _
    · exact grid_nearest_of_lt hn hm (by omega) (hlow (by omega))
  close hx := by
    apply grid_close hn
    by_cases h : -1074 < e
    · exact hlow h
    · obtain rfl : e = -1074 := by omega
      exact hx

end

theorem nearest_rounds (negative : Bool) (num : Nat) {den : Nat} (hd : 0 < den) :
    Rounds (num / den) (nearest negative num den).magnitude := by
  by_cases hn : num = 0
  · subst hn
    have hzero : (nearest negative 0 den).magnitude = 0 := by simp [nearest, zero, magnitude]
    rw [hzero, Nat.cast_zero, zero_div]
    exact ⟨by exact_mod_cast isRepresentable_natCast (n := 0) (by decide), by simp, by simp⟩
  rw [magnitude_nearest negative hn]
  have hplace : lastPlace num den = max (floorLog2 num den - 52) (-1074) := rfl
  obtain ⟨hlow, hhigh⟩ := floorLog2_spec (Nat.pos_of_ne_zero hn) hd
  refine rounds_grid ?_ (by omega) (fun hlt => ?_) ?_
  · rw [← scaled_quotient]
    exact abs_roundHalfEven_sub_le (Nat.mul_pos hd (power_pos (by decide) _))
  · rwa [show lastPlace num den + 52 = floorLog2 num den by omega]
  · exact hhigh.trans_le (zpow_le_zpow_right₀ one_le_two (by omega))

/-! ## Operations -/

@[simp] theorem negative_nearest (negative : Bool) (num den : Nat) :
    (nearest negative num den).negative = negative := by
  unfold nearest
  split
  · rfl
  · dsimp only [normalize]
    split
    · rfl
    · split <;> rfl

@[simp] theorem negative_ofNat (n : Nat) : (ofNat n).negative = false := negative_nearest _ _ _

@[simp] theorem negative_mul (x y : Binary64) : (x.mul y).negative = xor x.negative y.negative := negative_nearest _ _ _

@[simp] theorem negative_div (x y : Binary64) : (x.div y).negative = xor x.negative y.negative := negative_nearest _ _ _

@[simp] theorem negative_round (x : Binary64) : x.round.negative = x.negative := negative_nearest _ _ _

theorem ofNat_rounds (n : Nat) : Rounds n (ofNat n).magnitude := by
  have h := nearest_rounds false n Nat.one_pos
  rwa [Nat.cast_one, div_one] at h

theorem magnitude_ofNat {n : Nat} (h : n < 2 ^ 53) : (ofNat n).magnitude = n :=
  (ofNat_rounds n).eq_of_isRepresentable (isRepresentable_natCast h)

theorem natCast_mul_div (x y : Binary64) :
    ((x.num * y.num : Nat) : ℚ) / (x.den * y.den : Nat) = x.magnitude * y.magnitude := by
  rw [Nat.cast_mul, Nat.cast_mul, mul_div_mul_comm, num_div_den, num_div_den]

theorem natCast_div_div (x y : Binary64) :
    ((x.num * y.den : Nat) : ℚ) / (x.den * y.num : Nat) = x.magnitude / y.magnitude := by
  rw [Nat.cast_mul, Nat.cast_mul, mul_div_mul_comm, ← inv_div (y.num : ℚ), num_div_den, num_div_den,
    ← div_eq_mul_inv]

theorem num_pos {x : Binary64} (h : 0 < x.magnitude) : 0 < x.num := by
  rw [← num_div_den] at h
  by_contra hzero
  simp [Nat.eq_zero_of_not_pos hzero] at h

theorem mul_rounds (x y : Binary64) : Rounds (x.magnitude * y.magnitude) (x.mul y).magnitude := by
  rw [← natCast_mul_div]
  exact nearest_rounds _ _ (Nat.mul_pos x.den_pos y.den_pos)

theorem div_rounds (x : Binary64) {y : Binary64} (hy : 0 < y.magnitude) :
    Rounds (x.magnitude / y.magnitude) (x.div y).magnitude := by
  rw [← natCast_div_div]
  exact nearest_rounds _ _ (Nat.mul_pos x.den_pos (num_pos hy))

theorem round_rounds (x : Binary64) : Rounds (⌊x.magnitude + 1 / 2⌋₊ : Nat) x.round.magnitude := by
  have hfloor := @roundHalfUp_eq_floor x.num _ x.den_pos
  have h := nearest_rounds x.negative (roundHalfUp x.num x.den) Nat.one_pos
  rw [num_div_den] at hfloor
  rw [← hfloor]
  rwa [Nat.cast_one, div_one] at h

/-! ## Order -/

theorem Rounds.le_of_lt {x x' y y' : ℚ} (h : Rounds x y) (h' : Rounds x' y') (hx : x < x') : y ≤ y' := by
  by_contra hlt
  -- neither result is nearer to the other's number, so both numbers are past the middle
  have hmiddle : (y + y') / 2 ≤ x := by
    by_contra hbelow
    have hnearer : |y' - x| < y - x := abs_lt.mpr ⟨by linarith, by linarith⟩
    have hnear := h.nearest y' h'.representable
    have hself := le_abs_self (y - x)
    linarith
  have hmiddle' : x' ≤ (y + y') / 2 := by
    by_contra habove
    have hnearer : |y - x'| < x' - y' := abs_lt.mpr ⟨by linarith, by linarith⟩
    have hnear := h'.nearest y h.representable
    have hself := neg_le_abs (y' - x')
    linarith
  linarith

section
variable {num den num' den' : Nat} (hd : 0 < den) (hd' : 0 < den')
include hd hd'

theorem magnitude_nearest_congr (negative negative' : Bool) (h : (num / den : ℚ) = num' / den') :
    (nearest negative num den).magnitude = (nearest negative' num' den').magnitude := by
  have hdq : (den : ℚ) ≠ 0 := by positivity
  have hdq' : (den' : ℚ) ≠ 0 := by positivity
  have hzero : num = 0 ↔ num' = 0 := by
    have h := congrArg (· = 0) h
    simpa [div_eq_zero_iff, hdq, hdq'] using h
  by_cases hn : num = 0
  · simp [nearest, hn, hzero.mp hn, zero, magnitude]
  · have hn' : num' ≠ 0 := mt hzero.mpr hn
    have hplace : lastPlace num den = lastPlace num' den' := by
      unfold lastPlace
      rw [floorLog2_eq_log (Nat.pos_of_ne_zero hn) hd, floorLog2_eq_log (Nat.pos_of_ne_zero hn') hd', h]
    rw [magnitude_nearest negative hn, magnitude_nearest negative' hn', hplace]
    congr 2
    apply roundHalfEven_congr (Nat.mul_pos hd (power_pos (by decide) _)) (Nat.mul_pos hd' (power_pos (by decide) _))
    rw [scaled_quotient, scaled_quotient, h]

theorem magnitude_nearest_mono (negative negative' : Bool) (h : (num / den : ℚ) ≤ num' / den') :
    (nearest negative num den).magnitude ≤ (nearest negative' num' den').magnitude := by
  rcases h.lt_or_eq with hlt | heq
  · exact (nearest_rounds negative num hd).le_of_lt (nearest_rounds negative' num' hd') hlt
  · exact (magnitude_nearest_congr hd hd' negative negative' heq).le

end

theorem ofNat_mono {n m : Nat} (h : n ≤ m) : (ofNat n).magnitude ≤ (ofNat m).magnitude := by
  apply magnitude_nearest_mono Nat.one_pos Nat.one_pos
  rw [Nat.cast_one, div_one, div_one]
  exact_mod_cast h

theorem mul_mono {x x' : Binary64} (y : Binary64) (h : x.magnitude ≤ x'.magnitude) :
    (x.mul y).magnitude ≤ (x'.mul y).magnitude := by
  apply magnitude_nearest_mono (Nat.mul_pos x.den_pos y.den_pos) (Nat.mul_pos x'.den_pos y.den_pos)
  rw [natCast_mul_div, natCast_mul_div]
  exact mul_le_mul_of_nonneg_right h y.magnitude_nonneg

theorem div_mono {x x' y : Binary64} (hy : 0 < y.magnitude) (h : x.magnitude ≤ x'.magnitude) :
    (x.div y).magnitude ≤ (x'.div y).magnitude := by
  apply magnitude_nearest_mono (Nat.mul_pos x.den_pos (num_pos hy)) (Nat.mul_pos x'.den_pos (num_pos hy))
  rw [natCast_div_div, natCast_div_div]
  exact div_le_div_of_nonneg_right h hy.le

/-! ## Several roundings -/

theorem normal_of_le {x : ℚ} (h : 2 ^ (-80 : ℤ) ≤ x) : 2 ^ (-1022 : ℤ) ≤ x :=
  (zpow_le_zpow_right₀ one_le_two (by decide)).trans h

/-- `y` is what becomes of `x` when it is rounded `n` times, each time by one part in 2 ^ 53 at most. -/
def Within (n : Nat) (x y : ℚ) : Prop := x * (1 - 2 ^ (-53 : ℤ)) ^ n ≤ y ∧ y ≤ x * (1 + 2 ^ (-53 : ℤ)) ^ n

theorem Within.refl (x : ℚ) : Within 0 x x := by simp [Within]

theorem Within.mul {n : Nat} {x y c : ℚ} (h : Within n x y) (hc : 0 ≤ c) : Within n (x * c) (y * c) := by
  constructor
  · rw [mul_right_comm]
    exact mul_le_mul_of_nonneg_right h.1 hc
  · rw [mul_right_comm]
    exact mul_le_mul_of_nonneg_right h.2 hc

theorem Within.rounds {n : Nat} {x y z : ℚ} (h : Within n x y) (hr : Rounds y z) (hy : 2 ^ (-1022 : ℤ) ≤ y) :
    Within (n + 1) x z := by
  obtain ⟨hlow, hhigh⟩ := abs_le.mp (hr.close hy)
  constructor
  · calc
      x * (1 - 2 ^ (-53 : ℤ)) ^ (n + 1) = x * (1 - 2 ^ (-53 : ℤ)) ^ n * (1 - 2 ^ (-53 : ℤ)) := by ring
      _ ≤ y * (1 - 2 ^ (-53 : ℤ)) := mul_le_mul_of_nonneg_right h.1 (by norm_num)
      _ ≤ z := by linarith
  · calc
      z ≤ y * (1 + 2 ^ (-53 : ℤ)) := by linarith
      _ ≤ x * (1 + 2 ^ (-53 : ℤ)) ^ n * (1 + 2 ^ (-53 : ℤ)) := mul_le_mul_of_nonneg_right h.2 (by norm_num)
      _ = x * (1 + 2 ^ (-53 : ℤ)) ^ (n + 1) := by ring

theorem Within.abs_sub_le {n : Nat} {x y : ℚ} (h : Within n x y) (hn : n ≤ 8) (hx : 0 ≤ x) :
    |y - x| ≤ x * (9 / 10 ^ 16) := by
  have hlow : 1 - 9 / 10 ^ 16 ≤ (1 - 2 ^ (-53 : ℤ) : ℚ) ^ n :=
    le_trans (by norm_num) (pow_le_pow_of_le_one (by norm_num) (by norm_num) hn)
  have hhigh : (1 + 2 ^ (-53 : ℤ) : ℚ) ^ n ≤ 1 + 9 / 10 ^ 16 :=
    le_trans (pow_le_pow_right₀ (by norm_num) hn) (by norm_num)
  have hy := (mul_le_mul_of_nonneg_left hlow hx).trans h.1
  have hy' := h.2.trans (mul_le_mul_of_nonneg_left hhigh hx)
  rw [abs_le]
  constructor <;> linarith

end Binary64

end VaultUsage
