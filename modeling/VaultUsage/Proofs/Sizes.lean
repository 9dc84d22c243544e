import VaultUsage.Proofs.Numerals
import VaultUsage.Proofs.Scaling

/-!
# Printed sizes

The text of a size is a numeral, a blank and a unit, and can be read in one way only (`Prints.unique`). From the base
on the numeral is at least one and below the base (`render_normalForm`), and it is the number of bytes in its unit up to
one half of its last place and a little more (`render_accurate`).
-/

namespace VaultUsage

/-! ## Numerals with a fraction -/

/-- A decimal numeral, without a zero in front of other digits. -/
@[ext] structure Numeral where
  whole : List Char
  fraction : List Char
  whole_ne_nil : whole ≠ []
  digits : ∀ c ∈ whole ++ fraction, Text.isDigit c = true
  noLeadingZero : whole.head? = some '0' → whole = ['0']

namespace Numeral

/-- The point stands only in front of digits. -/
def point : List Char → List Char
  | [] => []
  | c :: fraction => '.' :: c :: fraction

def text (n : Numeral) : String := String.ofList (n.whole ++ point n.fraction)

def value (n : Numeral) : ℚ := Text.ofDigits 10 (n.whole ++ n.fraction) / 10 ^ n.fraction.length

theorem point_injective : Function.Injective point := by
  intro fraction fraction' h
  cases fraction <;> cases fraction' <;> simp_all [point]

theorem head_point {fraction : List Char} : ∀ c ∈ (point fraction).head?, Text.isDigit c = false := by
  intro c hc
  cases fraction with
  | nil => simp [point] at hc
  | cons d fraction =>
    obtain rfl : '.' = c := by simpa [point] using hc
    decide

theorem takeWhile_isDigit (n : Numeral) : (n.whole ++ point n.fraction).takeWhile Text.isDigit = n.whole :=
  Text.takeWhile_append_of_head (fun c hc => n.digits c (List.mem_append_left _ hc)) head_point

theorem text_injective : Function.Injective text := by
  intro n m h
  have hlists : n.whole ++ point n.fraction = m.whole ++ point m.fraction := by
    simpa [text] using congrArg String.toList h
  have hwhole : n.whole = m.whole := by rw [← takeWhile_isDigit n, hlists, takeWhile_isDigit m]
  have hfraction : n.fraction = m.fraction := by
    rw [hwhole] at hlists
    exact point_injective (List.append_cancel_left hlists)
  exact Numeral.ext hwhole hfraction

theorem mem_text {n : Numeral} {c : Char} (h : c ∈ n.text.toList) : Text.isDigit c = true ∨ c = '.' := by
  rw [text, String.toList_ofList, List.mem_append] at h
  rcases h with h | h
  · exact .inl (n.digits c (List.mem_append_left _ h))
  · cases hf : n.fraction with
    | nil => simp [hf, point] at h
    | cons d fraction =>
      rw [hf, point] at h
      rcases List.mem_cons.mp h with rfl | h
      · exact .inr rfl
      · exact .inl (n.digits c (List.mem_append_right _ (hf ▸ h)))

theorem blank_notMem_text (n : Numeral) : ' ' ∉ n.text.toList := by
  intro h
  rcases mem_text h with h | h <;> exact absurd h (by decide)

/-! ### A number of last decimal places -/

/-- The last `places` digits of `n`. -/
def lastDigits (places n : Nat) : List Char :=
  if places = 0 then [] else (Text.padLeft places (n % 10 ^ places)).toList

theorem lastDigits_spec (places n : Nat) :
    (lastDigits places n).length = places ∧ (∀ c ∈ lastDigits places n, Text.isDigit c = true) ∧
      Text.ofDigits 10 (lastDigits places n) = n % 10 ^ places := by
  unfold lastDigits
  by_cases hp : places = 0
  · simp [hp, Text.ofDigits, Nat.mod_one]
  · rw [if_neg hp]
    obtain ⟨_, rfl, hspec⟩ := Text.exists_padLeft (Nat.pos_of_ne_zero hp) (Nat.mod_lt n (Nat.pow_pos (by decide)))
    exact hspec

/-- The number of `n` last decimal places. -/
def ofParts (places n : Nat) : Numeral where
  whole := Nat.toDigits 10 (n / 10 ^ places)
  fraction := lastDigits places n
  whole_ne_nil := Nat.toDigits_ne_nil
  digits c hc := (List.mem_append.mp hc).elim Text.isDigit_of_mem_toDigits ((lastDigits_spec places n).2.1 c)
  noLeadingZero h := by rw [Text.eq_zero_of_head_toDigits h]; rfl

@[simp] theorem length_fraction_ofParts (places n : Nat) : (ofParts places n).fraction.length = places :=
  (lastDigits_spec places n).1

theorem text_ofParts (places n : Nat) : (ofParts places n).text = Binary64.positional places n := by
  apply String.toList_injective
  unfold text ofParts Binary64.positional
  by_cases hp : places = 0
  · simp [hp, lastDigits, point]
  · have hpos : 0 < (lastDigits places n).length := by
      rw [(lastDigits_spec places n).1]
      exact Nat.pos_of_ne_zero hp
    obtain ⟨c, fraction, hf⟩ := List.exists_cons_of_length_pos hpos
    have htext : (Text.padLeft places (n % 10 ^ places)).toList = c :: fraction := by rw [← hf, lastDigits, if_neg hp]
    simp [hp, hf, htext, point]

@[simp] theorem value_ofParts (places n : Nat) : (ofParts places n).value = n / 10 ^ places := by
  have hdigits : Text.ofDigits 10 ((ofParts places n).whole ++ (ofParts places n).fraction) = n := by
    rw [Text.ofDigits_append, length_fraction_ofParts]
    simp only [ofParts]
    rw [Text.ofDigits_toDigits (by decide) (by decide), (lastDigits_spec places n).2.2]
    exact Nat.div_add_mod' n (10 ^ places)
  rw [value, hdigits, length_fraction_ofParts]

end Numeral

/-! ## A numeral and a unit -/

/-- `text` is a numeral of units of the `k`-th power of the base. -/
def Prints (u : UnitSystem) (text : String) (n : Numeral) (k : Nat) : Prop :=
  ∃ symbol, u.symbols[k]? = some symbol ∧ text = n.text ++ " " ++ symbol

theorem Prints.unique {u : UnitSystem} {text : String} {n m : Numeral} {k l : Nat} (h : Prints u text n k)
    (h' : Prints u text m l) : n = m ∧ k = l := by
  obtain ⟨symbol, hsymbol, rfl⟩ := h
  obtain ⟨symbol', hsymbol', heq⟩ := h'
  have hlists : n.text.toList ++ ' ' :: symbol.toList = m.text.toList ++ ' ' :: symbol'.toList := by
    simpa using congrArg String.toList heq
  have hblank (n : Numeral) : ∀ c ∈ n.text.toList, (c != ' ') = true := by
    intro c hc
    rw [bne_iff_ne]
    rintro rfl
    exact n.blank_notMem_text hc
  -- the numeral ends at the first blank
  have htext : n.text.toList = m.text.toList := by
    calc
      n.text.toList = (n.text.toList ++ ' ' :: symbol.toList).takeWhile (· != ' ') :=
        (Text.takeWhile_append_of_head (hblank n) (by simp)).symm
      _ = (m.text.toList ++ ' ' :: symbol'.toList).takeWhile (· != ' ') := by rw [hlists]
      _ = m.text.toList := Text.takeWhile_append_of_head (hblank m) (by simp)
  have hsame : symbol = symbol' := by
    rw [htext] at hlists
    exact String.toList_injective (List.cons.inj (List.append_cancel_left hlists)).2
  obtain ⟨hk, -⟩ := List.getElem?_eq_some_iff.mp hsymbol
  refine ⟨Numeral.text_injective (String.toList_injective htext), ?_⟩
  exact (List.getElem?_inj hk u.nodup_symbols).mp (hsymbol.trans (hsame ▸ hsymbol'.symm))

namespace SizeFormat

/-! ## What is printed -/

theorem absLt_ofNat_iff {n base : Nat} (hb : base < 2 ^ 53) :
    (Binary64.ofNat n).absLt (Binary64.ofNat base) = true ↔ n < base := by
  rw [Binary64.absLt_iff, Binary64.magnitude_ofNat hb]
  constructor
  · intro hlt
    by_contra hge
    have hle := (Binary64.ofNat_rounds n).le_of_le (Binary64.isRepresentable_natCast hb)
      (by exact_mod_cast Nat.le_of_not_lt hge)
    linarith
  · intro hlt
    rw [Binary64.magnitude_ofNat (hlt.trans hb)]
    exact_mod_cast hlt

theorem absLt_base_iff (f : SizeFormat) (n : Nat) :
    (Binary64.ofNat n).absLt (Binary64.ofNat f.units.base) = true ↔ n < f.units.base :=
  absLt_ofNat_iff (f.units.base_bounds.2.trans_lt (by decide))

theorem render_of_lt {f : SizeFormat} {bytes : UInt64} (h : bytes.toNat < f.units.base) :
    f.render bytes = toString bytes.toNat ++ " B" :=
  if_pos ((f.absLt_base_iff _).mpr h)

theorem exists_prints {f : SizeFormat} {bytes : UInt64} (h : f.units.base ≤ bytes.toNat) :
    ∃ k, f.IsPrintedAt bytes.toNat k ∧
      Prints f.units (f.render bytes) (.ofParts f.places (f.printedParts bytes.toNat k)) k := by
  have hrender : f.render bytes = f.renderScaled (Binary64.ofNat bytes.toNat) :=
    if_neg (mt (f.absLt_base_iff _).mp (Nat.not_lt.mpr h))
  obtain ⟨k, symbol, hk, hsymbol, htext⟩ := exists_isPrintedAt h bytes.toNat_lt
  refine ⟨k, hk, symbol, hsymbol, ?_⟩
  rw [hrender, htext, Numeral.text_ofParts]

end SizeFormat

end VaultUsage
