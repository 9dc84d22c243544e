import VaultUsage.Proofs.Scaling

/-!
# Signs

The sign of a number is kept apart from its magnitude, so that every operation is odd. A size with a sign is therefore
printed as its magnitude is without one, behind a minus sign if it is negative (`renderSigned_eq`). The smallest one is
no exception: its magnitude is a word, though none with a sign.
-/

namespace VaultUsage

namespace Binary64

/-! ## Odd operations -/

theorem normalize_not (negative : Bool) (m : Nat) (e : Int) :
    normalize (!negative) m e = (normalize negative m e).neg := by
  unfold normalize
  split
  · rfl
  · split <;> rfl

theorem nearest_not (negative : Bool) (num den : Nat) :
    nearest (!negative) num den = (nearest negative num den).neg := by
  unfold nearest
  split
  · rfl
  · exact normalize_not _ _ _

@[simp] theorem mul_of_neg (x y : Binary64) : x.neg.mul y = (x.mul y).neg := by
  unfold mul
  rw [← nearest_not, ← Bool.not_xor]
  rfl

@[simp] theorem div_of_neg (x y : Binary64) : x.neg.div y = (x.div y).neg := by
  unfold div
  rw [← nearest_not, ← Bool.not_xor]
  rfl

@[simp] theorem round_of_neg (x : Binary64) : x.neg.round = x.round.neg := nearest_not _ _ _

@[simp] theorem absLt_of_neg (x y : Binary64) : x.neg.absLt y = x.absLt y := rfl

theorem ofInt_of_nonneg {i : Int} (h : 0 ≤ i) : ofInt i = ofNat i.natAbs := by
  unfold ofInt ofNat
  rw [decide_eq_false (Int.not_lt.mpr h)]

theorem ofInt_of_neg {i : Int} (h : i < 0) : ofInt i = (ofNat i.natAbs).neg := by
  unfold ofInt ofNat
  rw [decide_eq_true h]
  exact nearest_not false _ _

-- a negative zero is printed with its sign too, so nothing is asked of the magnitude
theorem toFixed_of_neg (places : Nat) {x : Binary64} (h : x.negative = false) :
    x.neg.toFixed places = "-" ++ x.toFixed places := by
  have hneg : x.neg.negative = true := by simp [neg, h]
  unfold toFixed
  rw [h, hneg, if_pos rfl, if_neg Bool.false_ne_true, String.empty_append]
  rfl

end Binary64

namespace SizeFormat

@[simp] theorem roundTo_of_neg (places : Nat) (x : Binary64) : roundTo places x.neg = (roundTo places x).neg := by
  simp [roundTo]

theorem scale_of_neg (base places : Nat) (units : List String) : ∀ (x : Binary64) (unit : String),
    scale base places x.neg unit units =
      ((scale base places x unit units).1.neg, (scale base places x unit units).2) := by
  induction units with
  | nil =>
    intro x unit
    simp [scale]
  | cons larger units ih =>
    intro x unit
    simp only [scale, Binary64.div_of_neg, roundTo_of_neg, Binary64.absLt_of_neg, ih]
    by_cases hfits : (roundTo places (x.div (Binary64.ofNat base))).absLt (Binary64.ofNat base) = true
    · simp only [hfits, if_true]
    · simp only [hfits, Bool.false_eq_true, if_false]

theorem negative_scale (base places : Nat) (x : Binary64) (unit : String) (units : List String) :
    (scale base places x unit units).1.negative = x.negative := by
  obtain ⟨i, symbol, -, hscale, -, -⟩ := exists_scale base places x units 0 unit
  rw [show scale base places x unit units = _ from hscale, negative_roundTo, negative_quotient]

theorem renderScaled_of_neg (f : SizeFormat) {x : Binary64} (h : x.negative = false) :
    f.renderScaled x.neg = "-" ++ f.renderScaled x := by
  simp only [renderScaled, scale_of_neg]
  rw [Binary64.toFixed_of_neg _ ((negative_scale ..).trans h)]
  simp only [String.append_assoc]

/-! ## Negative sizes -/

/-- The magnitude of a size with a sign, as a size without one. -/
def magnitude (bytes : Int64) : UInt64 := .ofNat bytes.toInt.natAbs

@[simp] theorem toNat_magnitude (bytes : Int64) : (magnitude bytes).toNat = bytes.toInt.natAbs := by
  have hlow := bytes.le_toInt
  have hhigh := bytes.toInt_lt
  apply UInt64.toNat_ofNat_of_lt'
  simp only [UInt64.size]
  omega

section
variable {f : SizeFormat} {bytes : Int64}

theorem renderSigned_of_nonneg (h : 0 ≤ bytes.toInt) : f.renderSigned bytes = f.render (magnitude bytes) := by
  have hplain : toString bytes.toInt = toString bytes.toInt.natAbs := by
    obtain ⟨n, hn⟩ := Int.eq_ofNat_of_zero_le h
    rw [hn]
    rfl
  simp only [renderSigned, render, toNat_magnitude, Binary64.ofInt_of_nonneg h, hplain]

theorem renderSigned_of_neg (h : bytes.toInt < 0) : f.renderSigned bytes = "-" ++ f.render (magnitude bytes) := by
  have hplain : toString bytes.toInt = "-" ++ toString bytes.toInt.natAbs := by
    obtain ⟨n, hn⟩ := Int.eq_negSucc_of_lt_zero h
    rw [hn]
    rfl
  simp only [renderSigned, render, toNat_magnitude, Binary64.ofInt_of_neg h, hplain]
  split
  · exact String.append_assoc ..
  · exact f.renderScaled_of_neg (Binary64.negative_ofNat _)

end

/-- A size with a sign is printed as its magnitude, with a minus sign in front if and only if it is negative. -/
theorem renderSigned_eq (f : SizeFormat) (bytes : Int64) :
    (magnitude bytes).toNat = bytes.toInt.natAbs ∧
      f.renderSigned bytes = (if bytes < 0 then "-" else "") ++ f.render (magnitude bytes) := by
  have hsign : bytes < 0 ↔ bytes.toInt < 0 := Int64.lt_iff_toInt_lt
  refine ⟨toNat_magnitude bytes, ?_⟩
  by_cases h : bytes < 0
  · rw [if_pos h]
    exact renderSigned_of_neg (hsign.mp h)
  · rw [if_neg h, String.empty_append]
    exact renderSigned_of_nonneg (Int.not_lt.mp (mt hsign.mpr h))

/-- The smallest size, whose magnitude no size with a sign has. -/
example : ({} : SizeFormat).renderSigned (-9223372036854775808) = "-8.0 EiB" := by decide +kernel

end SizeFormat

end VaultUsage
