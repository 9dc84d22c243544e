import VaultUsage.Proofs.Rounding
import VaultUsage.Size

/-!
# The unit of a size

A size is divided by the base until the rounded quotient is below it. What is printed then is a whole number of last
decimal places (`parts`), and it is the exact number of them up to one half and the roundings on the way: eight at
most, since no size of 64 bits gets past the sixth power of the base.
-/

namespace VaultUsage

namespace UnitSystem

/-- The units, each at its power of the base: bytes, then KiB to YiB or kB to YB. -/
def symbols (u : UnitSystem) : List String := "B" :: u.firstUnit :: u.largerUnits

theorem nodup_symbols (u : UnitSystem) : u.symbols.Nodup := by cases u <;> decide

theorem base_bounds (u : UnitSystem) : 1000 ≤ u.base ∧ u.base ≤ 1024 := by cases u <;> decide

theorem base_pos (u : UnitSystem) : 0 < u.base := by cases u <;> decide

theorem magnitude_base (u : UnitSystem) : (Binary64.ofNat u.base).magnitude = u.base :=
  Binary64.magnitude_ofNat (u.base_bounds.2.trans_lt (by decide))

theorem length_largerUnits (u : UnitSystem) : u.largerUnits.length = 7 := by cases u <;> rfl

end UnitSystem

namespace SizeFormat

theorem places_le (f : SizeFormat) : f.places ≤ 6 := Nat.min_le_right _ _

theorem base_mul_le_most (f : SizeFormat) : f.units.base * 10 ^ f.places ≤ 1024 * 10 ^ 6 :=
  Nat.mul_le_mul f.units.base_bounds.2 (Nat.pow_le_pow_right (by decide) f.places_le)

theorem base_mul_le (f : SizeFormat) : f.units.base * 10 ^ f.places ≤ 2 ^ 52 := f.base_mul_le_most.trans (by decide)

/-! ## One quotient -/

/-- `y` in its last decimal place. -/
def scaled (places : Nat) (y : Binary64) : Binary64 := y.mul (Binary64.ofNat (power 10 places))

/-- What is printed of `y`, in its last decimal place. -/
def parts (places : Nat) (y : Binary64) : Nat := roundHalfUp (scaled places y).num (scaled places y).den

/-- Whether `y` is below the base as it is printed. -/
def fits (base places : Nat) (y : Binary64) : Bool := (roundTo places y).absLt (Binary64.ofNat base)

theorem parts_eq_floor (places : Nat) (y : Binary64) : parts places y = ⌊(scaled places y).magnitude + 1 / 2⌋₊ := by
  rw [parts, roundHalfUp_eq_floor (Binary64.den_pos _), Binary64.num_div_den]

theorem abs_parts_sub_le (places : Nat) (y : Binary64) :
    |(parts places y : ℚ) - (scaled places y).magnitude| ≤ 1 / 2 := by
  have hnonneg := (scaled places y).magnitude_nonneg
  have hlow := Nat.floor_le (show 0 ≤ (scaled places y).magnitude + 1 / 2 by linarith)
  have hhigh := Nat.lt_floor_add_one ((scaled places y).magnitude + 1 / 2)
  rw [parts_eq_floor, abs_le]
  constructor <;> linarith

theorem negative_roundTo (places : Nat) (y : Binary64) : (roundTo places y).negative = y.negative := by simp [roundTo]

section
variable {base places : Nat} {y : Binary64}

theorem round_scaled_rounds (places : Nat) (y : Binary64) :
    Binary64.Rounds (parts places y) (scaled places y).round.magnitude := by
  rw [parts_eq_floor]
  exact Binary64.round_rounds _

theorem magnitude_precision (hp : places ≤ 6) : (Binary64.ofNat (power 10 places)).magnitude = 10 ^ places := by
  rw [power_natCast, Binary64.magnitude_ofNat]
  · exact Nat.cast_pow 10 places
  · exact (Nat.pow_le_pow_right (by decide) hp).trans_lt (by decide)

theorem scaled_rounds (hp : places ≤ 6) (y : Binary64) :
    Binary64.Rounds (y.magnitude * 10 ^ places) (scaled places y).magnitude := by
  have h := Binary64.mul_rounds y (Binary64.ofNat (power 10 places))
  rwa [magnitude_precision hp] at h

theorem roundTo_rounds (hp : places ≤ 6) (y : Binary64) :
    Binary64.Rounds ((scaled places y).round.magnitude / 10 ^ places) (roundTo places y).magnitude := by
  have h := Binary64.div_rounds (scaled places y).round (y := Binary64.ofNat (power 10 places))
    (by rw [magnitude_precision hp]; positivity)
  rwa [magnitude_precision hp] at h

/-- Below 2 ^ 53 the whole number is exact, and only the division by the precision rounds. -/
theorem abs_roundTo_sub_le (hp : places ≤ 6) (h : parts places y < 2 ^ 53) :
    |(roundTo places y).magnitude * 10 ^ places - parts places y| ≤ parts places y * 2 ^ (-53 : ℤ) := by
  have hrounds := roundTo_rounds hp y
  rw [(round_scaled_rounds places y).eq_of_isRepresentable (Binary64.isRepresentable_natCast h)] at hrounds
  have hscale : (0 : ℚ) < 10 ^ places := by positivity
  have hclose : |(roundTo places y).magnitude - parts places y / 10 ^ places| ≤
      parts places y / 10 ^ places * 2 ^ (-53 : ℤ) := by
    by_cases hzero : parts places y = 0
    · have hrep : Binary64.IsRepresentable ((parts places y : ℚ) / 10 ^ places) := by
        rw [hzero, Nat.cast_zero, zero_div]
        exact_mod_cast Binary64.isRepresentable_natCast (by decide : 0 < 2 ^ 53)
      rw [hrounds.eq_of_isRepresentable hrep, sub_self, abs_zero]
      positivity
    · apply hrounds.close
      have hone : (1 : ℚ) ≤ parts places y := by exact_mod_cast Nat.one_le_iff_ne_zero.mpr hzero
      apply Binary64.normal_of_le
      calc
        (2 : ℚ) ^ (-80 : ℤ) ≤ 1 / 10 ^ 6 := by norm_num
        _ ≤ 1 / 10 ^ places := one_div_le_one_div_of_le hscale (pow_le_pow_right₀ (by norm_num) hp)
        _ ≤ parts places y / 10 ^ places := by gcongr
  calc
    |(roundTo places y).magnitude * 10 ^ places - parts places y| =
        |(roundTo places y).magnitude - parts places y / 10 ^ places| * 10 ^ places := Binary64.abs_mul_sub hscale _ _
    _ ≤ parts places y / 10 ^ places * 2 ^ (-53 : ℤ) * 10 ^ places := by gcongr
    _ = parts places y * 2 ^ (-53 : ℤ) := by field_simp

/-- The unit is chosen by the digits: the rounded value is below the base if and only if what is printed is. -/
theorem fits_iff (hp : places ≤ 6) (hb : base * 10 ^ places ≤ 2 ^ 52) :
    fits base places y = true ↔ parts places y < base * 10 ^ places := by
  have hsmall : base < 2 ^ 53 :=
    (Nat.le_mul_of_pos_right base (by positivity)).trans_lt (hb.trans_lt (by decide))
  rw [fits, Binary64.absLt_iff, Binary64.magnitude_ofNat hsmall]
  constructor
  · intro hlt
    by_contra hge
    have hbasePlaces : ((base * 10 ^ places : Nat) : ℚ) ≤ (scaled places y).round.magnitude :=
      (round_scaled_rounds places y).le_of_le (Binary64.isRepresentable_natCast (by omega))
        (by exact_mod_cast Nat.le_of_not_lt hge)
    have hle : (base : ℚ) ≤ (roundTo places y).magnitude := by
      apply (roundTo_rounds hp y).le_of_le (Binary64.isRepresentable_natCast hsmall)
      rw [le_div_iff₀ (by positivity)]
      exact_mod_cast hbasePlaces
    linarith
  · intro hlt
    have hclose := (abs_le.mp (abs_roundTo_sub_le hp (y := y) (by omega))).2
    have hlast : (parts places y : ℚ) + 1 ≤ base * 10 ^ places := by exact_mod_cast hlt
    have hbound : (parts places y : ℚ) < 2 ^ 52 := by exact_mod_cast hlt.trans_le hb
    have hscale : (0 : ℚ) < 10 ^ places := by positivity
    refine lt_of_mul_lt_mul_right ?_ hscale.le
    norm_num at hclose
    linarith

theorem toFixed_roundTo (hp : places ≤ 6) (h : parts places y < 2 ^ 52) :
    (roundTo places y).toFixed places =
      (if y.negative then "-" else "") ++ Binary64.positional places (parts places y) := by
  have hclose := abs_roundTo_sub_le hp (y := y) (by omega)
  have hbound : (parts places y : ℚ) < 2 ^ 52 := by exact_mod_cast h
  have hdigits : roundHalfEven ((roundTo places y).num * power 10 places) (roundTo places y).den = parts places y := by
    have hhalf := @abs_roundHalfEven_sub_le ((roundTo places y).num * power 10 places) _ (roundTo places y).den_pos
    apply eq_of_abs_lt_half hhalf
    rw [power_natCast, Nat.cast_mul, mul_div_right_comm, Binary64.num_div_den, abs_sub_comm]
    push_cast
    apply hclose.trans_lt
    norm_num
    linarith
  rw [Binary64.toFixed, negative_roundTo, hdigits]

end

/-! ## The loop -/

/-- `x` after `k` divisions by the base. -/
def quotient (base : Nat) (x : Binary64) : Nat → Binary64
  | 0 => x
  | k + 1 => (quotient base x k).div (Binary64.ofNat base)

@[simp] theorem negative_quotient (base : Nat) (x : Binary64) (k : Nat) :
    (quotient base x k).negative = x.negative := by
  induction k with
  | zero => rfl
  | succ k ih => simp [quotient, ih]

/-- From `x` divided `k` times, the unit is that of the first later quotient that fits, or the last unit. -/
theorem exists_scale (base places : Nat) (x : Binary64) (units : List String) : ∀ (k : Nat) (unit : String),
    ∃ i symbol, (unit :: units)[i]? = some symbol ∧
      scale base places (quotient base x k) unit units = (roundTo places (quotient base x (k + i + 1)), symbol) ∧
      (∀ j < i, fits base places (quotient base x (k + j + 1)) = false) ∧
      (i < units.length → fits base places (quotient base x (k + i + 1)) = true) := by
  induction units with
  | nil => exact fun k unit => ⟨0, unit, rfl, rfl, nofun, nofun⟩
  | cons larger units ih =>
    intro k unit
    by_cases hfits : fits base places (quotient base x (k + 1)) = true
    · exact ⟨0, unit, rfl, if_pos hfits, nofun, fun _ => hfits⟩
    · have hshift (j : Nat) : k + 1 + j = k + (j + 1) := by omega
      obtain ⟨i, symbol, hsymbol, hscale, hcarried, hstops⟩ := ih (k + 1) larger
      rw [hshift] at hscale hstops
      refine ⟨i + 1, symbol, hsymbol, (if_neg hfits).trans hscale, ?_, fun hi => hstops (Nat.lt_of_succ_lt_succ hi)⟩
      intro j hj
      cases j with
      | zero => exact Bool.eq_false_iff.mpr hfits
      | succ j =>
        rw [← hshift]
        exact hcarried j (by omega)

/-! ## The error of a quotient -/

section
variable {u : UnitSystem} {bytes k : Nat}

theorem quotient_rounds (u : UnitSystem) (x : Binary64) (k : Nat) :
    Binary64.Rounds ((quotient u.base x k).magnitude / u.base) (quotient u.base x (k + 1)).magnitude := by
  have hbase : (0 : ℚ) < u.base := by exact_mod_cast u.base_pos
  have h := Binary64.div_rounds (quotient u.base x k) (u.magnitude_base.symm ▸ hbase)
  rwa [u.magnitude_base] at h

theorem quotient_mono (u : UnitSystem) {a b : Nat} (h : a ≤ b) (k : Nat) :
    (quotient u.base (Binary64.ofNat a) k).magnitude ≤ (quotient u.base (Binary64.ofNat b) k).magnitude := by
  have hbase : (0 : ℚ) < u.base := by exact_mod_cast u.base_pos
  induction k with
  | zero => exact Binary64.ofNat_mono h
  | succ k ih => exact Binary64.div_mono (u.magnitude_base.symm ▸ hbase) ih

-- up to the sixth power nothing gets near the subnormal numbers
theorem normal_of_within {y c : ℚ} (hn : 0 < bytes) (hk : k ≤ 6)
    (h : Binary64.Within (k + 1) (bytes / u.base ^ k) y) (hc : 1 / 1024 ≤ c) : 2 ^ (-1022 : ℤ) ≤ y * c := by
  have hbytes : (1 : ℚ) ≤ bytes := by exact_mod_cast hn
  have hbase : (0 : ℚ) < u.base := by exact_mod_cast u.base_pos
  have hbase' : (u.base : ℚ) ≤ 1024 := by exact_mod_cast u.base_bounds.2
  have hexact : (1 : ℚ) / 1024 ^ 6 ≤ bytes / u.base ^ k := by
    calc
      (1 : ℚ) / 1024 ^ 6 ≤ 1 / 1024 ^ k := one_div_le_one_div_of_le (by positivity) (pow_le_pow_right₀ (by norm_num) hk)
      _ ≤ bytes / u.base ^ k := by gcongr
  have hhalf : (1 : ℚ) / 1024 ^ 6 / 2 ≤ y := by
    have := (abs_le.mp (h.abs_sub_le (by omega) (le_trans (by norm_num) hexact))).1
    linarith
  apply Binary64.normal_of_le
  calc
    (2 : ℚ) ^ (-80 : ℤ) ≤ 1 / 1024 ^ 6 / 2 * (1 / 1024) := by norm_num
    _ ≤ y * c := by gcongr

theorem quotient_within (hn : 0 < bytes) (hk : k ≤ 6) :
    Binary64.Within (k + 1) (bytes / u.base ^ k) (quotient u.base (Binary64.ofNat bytes) k).magnitude := by
  induction k with
  | zero =>
    have hbytes : (1 : ℚ) ≤ bytes := by exact_mod_cast hn
    rw [pow_zero, div_one]
    exact (Binary64.Within.refl _).rounds (Binary64.ofNat_rounds bytes)
      (Binary64.normal_of_le (le_trans (by norm_num) hbytes))
  | succ k ih =>
    have hwithin := ih (by omega)
    have hbase : (0 : ℚ) < u.base := by exact_mod_cast u.base_pos
    have hnormal := normal_of_within hn (by omega) hwithin
      (one_div_le_one_div_of_le hbase (by exact_mod_cast u.base_bounds.2))
    have hrounds := quotient_rounds u (Binary64.ofNat bytes) k
    rw [div_eq_mul_one_div] at hrounds
    rw [pow_succ, ← div_div, div_eq_mul_one_div _ (u.base : ℚ)]
    exact (hwithin.mul (by positivity)).rounds hrounds hnormal

end

/-! ## The number that is printed -/

section
variable (f : SizeFormat) (bytes : Nat)

/-- What `bytes` are at a power of the base, in the last decimal place. -/
def exactParts (k : Nat) : ℚ := bytes / f.units.base ^ k * 10 ^ f.places

/-- What is printed of `bytes` at a power of the base, in the last decimal place. -/
def printedParts (k : Nat) : Nat := parts f.places (quotient f.units.base (Binary64.ofNat bytes) k)

theorem exactParts_succ (k : Nat) : f.exactParts bytes (k + 1) = f.exactParts bytes k / f.units.base := by
  rw [exactParts, exactParts, pow_succ, ← div_div, div_mul_eq_mul_div]

theorem abs_printedParts_sub_le {k : Nat} (hn : 0 < bytes) (hk : k ≤ 6) :
    |(f.printedParts bytes k : ℚ) - f.exactParts bytes k| ≤ 1 / 2 + f.exactParts bytes k * (9 / 10 ^ 16) := by
  have hwithin := @quotient_within f.units _ _ hn hk
  have hprecision : (1 : ℚ) ≤ 10 ^ f.places := one_le_pow₀ (by norm_num)
  have hnormal := normal_of_within hn hk hwithin (le_trans (by norm_num) hprecision)
  have hscaled := (hwithin.mul (by positivity)).rounds (scaled_rounds f.places_le _) hnormal
  have hnonneg : 0 ≤ f.exactParts bytes k := by
    unfold exactParts
    positivity
  calc
    |(f.printedParts bytes k : ℚ) - f.exactParts bytes k| ≤ _ := abs_sub_le _ _ _
    _ ≤ 1 / 2 + f.exactParts bytes k * (9 / 10 ^ 16) :=
      add_le_add (abs_parts_sub_le f.places _) (hscaled.abs_sub_le (by omega) hnonneg)

theorem printedParts_mono {a b : Nat} (h : a ≤ b) (k : Nat) : f.printedParts a k ≤ f.printedParts b k := by
  rw [printedParts, printedParts, parts_eq_floor, parts_eq_floor]
  have hscaled := Binary64.mul_mono (Binary64.ofNat (power 10 f.places)) (quotient_mono f.units h k)
  exact Nat.floor_mono (add_le_add_left hscaled _)

variable {f bytes}

/-- A number that is not below one, up to a quarter of its last place, is not printed below one. -/
theorem le_printedParts {k : Nat} (hn : 0 < bytes) (hk : k ≤ 6) (h : 10 ^ f.places - 1 / 4 ≤ f.exactParts bytes k) :
    10 ^ f.places ≤ f.printedParts bytes k := by
  have hnear := (abs_le.mp (f.abs_printedParts_sub_le bytes hn hk)).1
  have hprecision : (10 : ℚ) ^ f.places ≤ 10 ^ 6 := pow_le_pow_right₀ (by norm_num) f.places_le
  have hlt : (10 : ℚ) ^ f.places < f.printedParts bytes k + 1 := by linarith
  have hlt' : 10 ^ f.places < f.printedParts bytes k + 1 := by exact_mod_cast hlt
  omega

/-- What is not below the base as it is printed is one in the next unit, up to a quarter of its last place. -/
theorem le_exactParts_succ {k : Nat} (hn : 0 < bytes) (hk : k ≤ 6)
    (h : f.units.base * 10 ^ f.places ≤ f.printedParts bytes k) :
    10 ^ f.places - 1 / 4 ≤ f.exactParts bytes (k + 1) := by
  have hnear := (abs_le.mp (f.abs_printedParts_sub_le bytes hn hk)).2
  have hlow : (1000 : ℚ) ≤ f.units.base := by exact_mod_cast f.units.base_bounds.1
  have hmost : (f.units.base * 10 ^ f.places : ℚ) ≤ 1024 * 10 ^ 6 := by exact_mod_cast f.base_mul_le_most
  have hparts : (f.units.base * 10 ^ f.places : ℚ) ≤ f.printedParts bytes k := by exact_mod_cast h
  rw [exactParts_succ, le_div_iff₀ (by linarith)]
  linarith

theorem le_exactParts_one (h : f.units.base ≤ bytes) : 10 ^ f.places - 1 / 4 ≤ f.exactParts bytes 1 := by
  have hbase : (0 : ℚ) < f.units.base := by exact_mod_cast f.units.base_pos
  have hone : (1 : ℚ) ≤ bytes / f.units.base := (one_le_div hbase).mpr (by exact_mod_cast h)
  have hprecision : (0 : ℚ) < 10 ^ f.places := by positivity
  have := mul_le_mul_of_nonneg_right hone hprecision.le
  rw [exactParts, pow_one]
  linarith

theorem printedParts_six_lt (hn : 0 < bytes) (h64 : bytes < 2 ^ 64) :
    f.printedParts bytes 6 < f.units.base * 10 ^ f.places := by
  have hnear := (abs_le.mp (f.abs_printedParts_sub_le bytes hn (Nat.le_refl 6))).2
  have hlow : (1000 : ℚ) ≤ f.units.base := by exact_mod_cast f.units.base_bounds.1
  have hprecision : (1 : ℚ) ≤ 10 ^ f.places := one_le_pow₀ (by norm_num)
  have hexact : f.exactParts bytes 6 ≤ 19 * 10 ^ f.places := by
    apply mul_le_mul_of_nonneg_right _ (by positivity)
    calc
      (bytes / f.units.base ^ 6 : ℚ) ≤ 2 ^ 64 / 1000 ^ 6 := by
        gcongr
        exact_mod_cast h64.le
      _ ≤ 19 := by norm_num
  have hmany := mul_le_mul_of_nonneg_right hlow (by positivity : (0 : ℚ) ≤ 10 ^ f.places)
  have hlt : (f.printedParts bytes 6 : ℚ) < f.units.base * 10 ^ f.places := by linarith
  exact_mod_cast hlt

/-! ## The power that is printed -/

/-- A size is printed at the first power of the base where the printed number is below the base. -/
structure IsPrintedAt (f : SizeFormat) (bytes k : Nat) : Prop where
  pos : 1 ≤ k
  le_six : k ≤ 6
  low : 10 ^ f.places ≤ f.printedParts bytes k
  high : f.printedParts bytes k < f.units.base * 10 ^ f.places
  carried (j : Nat) (hj : 1 ≤ j) (hjk : j < k) : f.units.base * 10 ^ f.places ≤ f.printedParts bytes j

theorem fits_quotient_iff (k : Nat) :
    fits f.units.base f.places (quotient f.units.base (Binary64.ofNat bytes) k) = true ↔
      f.printedParts bytes k < f.units.base * 10 ^ f.places :=
  fits_iff f.places_le f.base_mul_le

theorem exists_isPrintedAt (h : f.units.base ≤ bytes) (h64 : bytes < 2 ^ 64) :
    ∃ k symbol, f.IsPrintedAt bytes k ∧ f.units.symbols[k]? = some symbol ∧
      f.renderScaled (Binary64.ofNat bytes) =
        Binary64.positional f.places (f.printedParts bytes k) ++ " " ++ symbol := by
  have hn : 0 < bytes := f.units.base_pos.trans_le h
  obtain ⟨i, symbol, hsymbol, hscale, hcarried, hstops⟩ :=
    exists_scale f.units.base f.places (Binary64.ofNat bytes) f.units.largerUnits 0 f.units.firstUnit
  simp only [Nat.zero_add] at hscale hcarried hstops
  -- everything fits at the sixth power, so that none of the last two units is reached
  have hi : i ≤ 5 := by
    by_contra hi
    have hsix := (fits_quotient_iff 6).mpr (printedParts_six_lt (f := f) hn h64)
    rw [hcarried 5 (by omega)] at hsix
    exact Bool.false_ne_true hsix
  have hhigh := (fits_quotient_iff (i + 1)).mp (hstops (by rw [UnitSystem.length_largerUnits]; omega))
  have hbefore (j : Nat) (hj : j < i) : f.units.base * 10 ^ f.places ≤ f.printedParts bytes (j + 1) := by
    apply Nat.le_of_not_lt
    rw [← fits_quotient_iff, hcarried j hj]
    exact Bool.false_ne_true
  refine ⟨i + 1, symbol, ⟨by omega, by omega, ?_, hhigh, ?_⟩, hsymbol, ?_⟩
  · apply le_printedParts hn (by omega)
    cases i with
    | zero => exact le_exactParts_one h
    | succ i => exact le_exactParts_succ hn (by omega) (hbefore i (Nat.lt_succ_self i))
  · intro j hj hjk
    obtain ⟨j, rfl⟩ := Nat.exists_eq_succ_of_ne_zero (Nat.one_le_iff_ne_zero.mp hj)
    exact hbefore j (Nat.lt_of_succ_lt_succ hjk)
  · have hshown : scale f.units.base f.places (Binary64.ofNat bytes) f.units.firstUnit f.units.largerUnits =
        (roundTo f.places (quotient f.units.base (Binary64.ofNat bytes) (i + 1)), symbol) := hscale
    simp only [renderScaled, hshown]
    rw [toFixed_roundTo f.places_le (hhigh.trans_le f.base_mul_le), negative_quotient, Binary64.negative_ofNat,
      if_neg Bool.false_ne_true, String.empty_append, printedParts]

end

/-! ## Exact quotients -/

end SizeFormat

end VaultUsage
