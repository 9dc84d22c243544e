import VaultUsage.Proofs.Signs
import VaultUsage.Proofs.Sizes

/-!
# The order of printed sizes

A size, with a sign or without one, denotes a quantity of bytes, and one only (`Denotes.unique`). Larger sizes never
denote less: in one unit the printed numbers are in order, and the first number of a unit is above all numbers of the
units below it (`Shows.mono`).
-/

namespace VaultUsage

/-! ## Quantities -/

/-- `text` is a number of units that make `r` bytes. -/
def Measures (u : UnitSystem) (text : String) (r : ℚ) : Prop :=
  ∃ n k, Prints u text n k ∧ r = n.value * u.base ^ k

/-- `text` is a quantity of `r` bytes, behind a minus sign if it is negative. -/
def Denotes (u : UnitSystem) (text : String) (r : ℚ) : Prop :=
  Measures u text r ∨ ∃ rest, text = "-" ++ rest ∧ Measures u rest (-r)

section
variable {u : UnitSystem} {text : String} {r q : ℚ}

theorem Measures.unique (h : Measures u text r) (h' : Measures u text q) : r = q := by
  obtain ⟨n, k, hn, rfl⟩ := h
  obtain ⟨m, l, hm, rfl⟩ := h'
  obtain ⟨rfl, rfl⟩ := hn.unique hm
  rfl

theorem not_measures_minus (rest : String) : ¬ Measures u ("-" ++ rest) r := by
  rintro ⟨n, k, ⟨symbol, -, htext⟩, -⟩
  -- a numeral begins with a digit
  obtain ⟨c, whole, hwhole⟩ := List.exists_cons_of_ne_nil n.whole_ne_nil
  have hdigit : Text.isDigit c = true := n.digits c (by simp [hwhole])
  have hlists := congrArg (fun text => text.toList.head?) htext
  simp [Numeral.text, hwhole] at hlists
  subst hlists
  exact absurd hdigit (by decide)

theorem Denotes.unique (h : Denotes u text r) (h' : Denotes u text q) : r = q := by
  rcases h with h | ⟨rest, rfl, h⟩
  · rcases h' with h' | ⟨rest, rfl, h'⟩
    · exact h.unique h'
    · exact absurd h (not_measures_minus rest)
  · rcases h' with h' | ⟨rest', heq, h'⟩
    · exact absurd h' (not_measures_minus rest)
    · obtain rfl : rest = rest' := (String.append_right_inj _).mp heq
      exact neg_injective (h.unique h')

end

/-- Both texts denote quantities, and that of `s` is not above that of `t`. -/
structure AtMost (u : UnitSystem) (s t : String) : Prop where
  left : ∃ p, Denotes u s p
  right : ∃ q, Denotes u t q
  le (p q : ℚ) (hp : Denotes u s p) (hq : Denotes u t q) : p ≤ q

theorem AtMost.of_denotes {u : UnitSystem} {s t : String} {p q : ℚ} (hp : Denotes u s p) (hq : Denotes u t q)
    (h : p ≤ q) : AtMost u s t where
  left := ⟨p, hp⟩
  right := ⟨q, hq⟩
  le p' q' hp' hq' := by
    rw [hp'.unique hp, hq'.unique hq]
    exact h

namespace SizeFormat

/-! ## What is shown of a size -/

/-- `r` is the quantity that is printed for `bytes`: their number itself, or what is left of it in the unit that is
chosen. -/
inductive Shows (f : SizeFormat) (bytes : Nat) : ℚ → Prop
  | plain (h : bytes < f.units.base) : Shows f bytes bytes
  | scaled {k : Nat} (h : f.units.base ≤ bytes) (hk : f.IsPrintedAt bytes k) :
    Shows f bytes (f.printedParts bytes k / 10 ^ f.places * f.units.base ^ k)

section
variable {f : SizeFormat} {a b : Nat} {p q : ℚ}

theorem IsPrintedAt.unit_mono {k l : Nat} (ha : f.IsPrintedAt a k) (hb : f.IsPrintedAt b l) (h : a ≤ b) : k ≤ l := by
  by_contra hlt
  have hcarried := ha.carried l hb.pos (Nat.lt_of_not_le hlt)
  have hparts := f.printedParts_mono h l
  have hfits := hb.high
  omega

theorem IsPrintedAt.lt_next {k : Nat} (ha : f.IsPrintedAt a k) :
    (f.printedParts a k / 10 ^ f.places * f.units.base ^ k : ℚ) < f.units.base ^ (k + 1) := by
  have hprecision : (0 : ℚ) < 10 ^ f.places := by positivity
  have hbase : (0 : ℚ) < f.units.base := by exact_mod_cast f.units.base_pos
  have hhigh : (f.printedParts a k : ℚ) / 10 ^ f.places < f.units.base := by
    rw [div_lt_iff₀ hprecision]
    exact_mod_cast ha.high
  rw [pow_succ']
  exact mul_lt_mul_of_pos_right hhigh (pow_pos hbase k)

theorem IsPrintedAt.unit_le {k : Nat} (ha : f.IsPrintedAt a k) :
    (f.units.base ^ k : ℚ) ≤ f.printedParts a k / 10 ^ f.places * f.units.base ^ k := by
  have hprecision : (0 : ℚ) < 10 ^ f.places := by positivity
  have hlow : (1 : ℚ) ≤ f.printedParts a k / 10 ^ f.places := by
    rw [le_div_iff₀ hprecision, one_mul]
    exact_mod_cast ha.low
  exact le_mul_of_one_le_left (by positivity) hlow

theorem pow_base_mono {k l : Nat} (u : UnitSystem) (h : k ≤ l) : (u.base ^ k : ℚ) ≤ u.base ^ l :=
  pow_le_pow_right₀ (by exact_mod_cast u.base_pos) h

theorem Shows.nonneg (h : f.Shows a p) : 0 ≤ p := by
  cases h <;> positivity

/-- The quantity that is printed is a monotone function of the size. -/
theorem Shows.mono (ha : f.Shows a p) (hb : f.Shows b q) (h : a ≤ b) : p ≤ q := by
  cases ha with
  | plain hlt =>
    cases hb with
    | plain _ => exact_mod_cast h
    | scaled _ hb =>
      calc
        (a : ℚ) ≤ f.units.base ^ 1 := by
          rw [pow_one]
          exact_mod_cast hlt.le
        _ ≤ _ := pow_base_mono f.units hb.pos
        _ ≤ _ := hb.unit_le
  | @scaled k hle ha =>
    cases hb with
    | plain hlt => omega
    | @scaled l _ hb =>
      -- the unit of the larger size is the same or one above
      rcases Nat.lt_or_eq_of_le (ha.unit_mono hb h) with hkl | rfl
      · exact (ha.lt_next.le.trans (pow_base_mono f.units hkl)).trans hb.unit_le
      · gcongr
        exact f.printedParts_mono h k

end

theorem exists_shows (f : SizeFormat) (bytes : UInt64) :
    ∃ r, f.Shows bytes.toNat r ∧ Measures f.units (f.render bytes) r := by
  rcases Nat.lt_or_ge bytes.toNat f.units.base with h | h
  · refine ⟨_, .plain h, .ofParts 0 bytes.toNat, 0, ⟨"B", rfl, ?_⟩, by simp⟩
    rw [render_of_lt h, Numeral.text_ofParts, String.append_assoc]
    rfl
  · obtain ⟨k, hk, hprints⟩ := exists_prints h
    exact ⟨_, .scaled h hk, _, k, hprints, by rw [Numeral.value_ofParts]⟩

theorem exists_shows_signed (f : SizeFormat) (bytes : Int64) :
    ∃ r, f.Shows bytes.toInt.natAbs r ∧
      Denotes f.units (f.renderSigned bytes) (if bytes.toInt < 0 then -r else r) := by
  obtain ⟨r, hr, htext⟩ := f.exists_shows (magnitude bytes)
  rw [toNat_magnitude] at hr
  refine ⟨r, hr, ?_⟩
  by_cases hneg : bytes.toInt < 0
  · rw [if_pos hneg, renderSigned_of_neg hneg]
    exact .inr ⟨_, rfl, by rwa [neg_neg]⟩
  · rw [if_neg hneg, renderSigned_of_nonneg (Int.not_lt.mp hneg)]
    exact .inl htext

/-- Of two sizes the smaller one is not printed as the larger quantity, whatever their units and signs. -/
theorem render_mono (f : SizeFormat) :
    (∀ a b : UInt64, a ≤ b → AtMost f.units (f.render a) (f.render b)) ∧
      ∀ a b : Int64, a ≤ b → AtMost f.units (f.renderSigned a) (f.renderSigned b) := by
  constructor
  · intro a b h
    obtain ⟨p, hp, ha⟩ := f.exists_shows a
    obtain ⟨q, hq, hb⟩ := f.exists_shows b
    exact .of_denotes (.inl ha) (.inl hb) (hp.mono hq (UInt64.le_iff_toNat_le.mp h))
  · intro a b h
    have hle : a.toInt ≤ b.toInt := Int64.le_iff_toInt_le.mp h
    obtain ⟨p, hp, ha⟩ := f.exists_shows_signed a
    obtain ⟨q, hq, hb⟩ := f.exists_shows_signed b
    refine .of_denotes ha hb ?_
    have hp0 := hp.nonneg
    have hq0 := hq.nonneg
    by_cases hneg : b.toInt < 0
    -- both are negative, and their magnitudes are in the other order
    · have hmono := hq.mono hp (by omega)
      rw [if_pos hneg, if_pos (by omega)]
      exact neg_le_neg hmono
    · rw [if_neg hneg]
      split
      · linarith
      · exact hp.mono hq (by omega)

/-- The last size in KiB and the first in MiB, on both sides of zero. -/
theorem render_mono_acrossUnits :
    let f : SizeFormat := {}
    f.render 1048524 = "1023.9 KiB" ∧ f.render 1048525 = "1.0 MiB" ∧
      AtMost .binary (f.render 1048524) (f.render 1048525) ∧
      f.renderSigned (-1048525) = "-1.0 MiB" ∧ f.renderSigned (-1048524) = "-1023.9 KiB" ∧
      AtMost .binary (f.renderSigned (-1048525)) (f.renderSigned (-1048524)) := by
  intro f
  exact ⟨by decide +kernel, by decide +kernel, (render_mono f).1 _ _ (by decide), by decide +kernel,
    by decide +kernel, (render_mono f).2 _ _ (by decide)⟩

end SizeFormat

end VaultUsage
