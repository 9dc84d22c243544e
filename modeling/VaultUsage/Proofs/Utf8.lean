import Mathlib.Data.String.Basic

/-!
# The order of UTF-8

The bytes of two texts in UTF-8 are in the same order as their characters (`utf8_lt_iff`). The first byte of a character
says how many follow, larger characters have more, and each byte behind the first is a digit to the base 64.
-/

namespace VaultUsage.Text

/-- The bytes of a text in UTF-8. -/
def utf8 (text : String) : List UInt8 := text.toUTF8.data.toList

theorem utf8_eq_flatMap (text : String) : utf8 text = text.toList.flatMap String.utf8EncodeChar := by
  have hbytes : text.toUTF8 = text.toList.utf8Encode := String.utf8Encode_toList.symm
  rw [utf8, hbytes, List.utf8Encode, List.data_toByteArray]

/-! ## Bytes of a character -/

/-- The last `k` digits of `v` to the base 64, as bytes. -/
def continuation : Nat → Nat → List UInt8
  | 0, _ => []
  | k + 1, v => .ofNat (v / 64 ^ k % 64 + 128) :: continuation k v

/-- How many bytes follow the first one. -/
def following (v : Nat) : Nat := if v ≤ 127 then 0 else if v ≤ 2047 then 1 else if v ≤ 65535 then 2 else 3

def lead (v : Nat) : Nat :=
  if v ≤ 127 then v else if v ≤ 2047 then v / 64 + 192 else if v ≤ 65535 then v / 64 ^ 2 + 224 else v / 64 ^ 3 + 240

theorem toNat_val_lt (c : Char) : c.val.toNat < 1114112 := by
  have hvalid : c.val.toNat < 55296 ∨ 57343 < c.val.toNat ∧ c.val.toNat < 1114112 := c.valid
  omega

theorem utf8EncodeChar_eq (c : Char) :
    String.utf8EncodeChar c = .ofNat (lead c.val.toNat) :: continuation (following c.val.toNat) c.val.toNat := by
  have hlt := toNat_val_lt c
  unfold String.utf8EncodeChar lead following
  dsimp only
  generalize c.val.toNat = v at hlt ⊢
  by_cases h1 : v ≤ 127
  · simp only [h1, if_true]
    rfl
  by_cases h2 : v ≤ 2047
  · have hmod : v / 64 % 32 = v / 64 := Nat.mod_eq_of_lt (by omega)
    simp [h1, h2, hmod, continuation]
  by_cases h3 : v ≤ 65535
  · have hmod : v / 4096 % 16 = v / 4096 := Nat.mod_eq_of_lt (by omega)
    simp [h1, h2, h3, hmod, continuation]
  · have hmod : v / 262144 % 8 = v / 262144 := Nat.mod_eq_of_lt (by omega)
    simp [h1, h2, h3, hmod, continuation]

theorem ofNat_cons_lt {a b : Nat} {l m : List UInt8} (ha : a < 256) (hb : b < 256) (h : a < b ∨ a = b ∧ l < m) :
    UInt8.ofNat a :: l < UInt8.ofNat b :: m := by
  rw [List.cons_lt_cons_iff]
  rcases h with h | ⟨rfl, h⟩
  · left
    rw [UInt8.lt_iff_toNat_lt, UInt8.toNat_ofNat_of_lt' ha, UInt8.toNat_ofNat_of_lt' hb]
    exact h
  · exact .inr ⟨rfl, h⟩

theorem continuation_lt {v w : Nat} (rest rest' : List UInt8) (h : v < w) : ∀ {k}, v / 64 ^ k = w / 64 ^ k →
    continuation k v ++ rest < continuation k w ++ rest' := by
  intro k
  induction k with
  | zero =>
    intro hq
    simp at hq
    omega
  | succ k ih =>
    intro hq
    rw [Nat.pow_succ, ← Nat.div_div_eq_div_mul, ← Nat.div_div_eq_div_mul] at hq
    have hle : v / 64 ^ k ≤ w / 64 ^ k := Nat.div_le_div_right h.le
    apply ofNat_cons_lt (by omega) (by omega)
    rcases Nat.lt_or_eq_of_le hle with hlt | heq
    -- the digits above are the same, so that the first ones that differ are these
    · left
      omega
    · exact .inr ⟨by rw [heq], ih heq⟩

theorem lead_lt {v : Nat} (h : v < 1114112) : lead v < 256 := by
  unfold lead
  split_ifs <;> omega

theorem lead_lt_of_following {v w : Nat} (h : v < w) (hw : w < 1114112) (hf : following v ≠ following w) :
    lead v < lead w := by
  unfold lead
  unfold following at hf
  split_ifs at * <;> omega

theorem lead_lt_or_of_following {v w : Nat} (h : v < w) (hf : following v = following w) :
    lead v < lead w ∨ lead v = lead w ∧ v / 64 ^ following v = w / 64 ^ following v := by
  unfold lead
  unfold following at *
  split_ifs at * <;> omega

theorem utf8EncodeChar_lt {c d : Char} (h : c < d) (rest rest' : List UInt8) :
    String.utf8EncodeChar c ++ rest < String.utf8EncodeChar d ++ rest' := by
  have hlt : c.val.toNat < d.val.toNat := h
  have hd := toNat_val_lt d
  rw [utf8EncodeChar_eq, utf8EncodeChar_eq, List.cons_append, List.cons_append]
  apply ofNat_cons_lt (lead_lt (toNat_val_lt c)) (lead_lt hd)
  by_cases hf : following c.val.toNat = following d.val.toNat
  · rcases lead_lt_or_of_following hlt hf with hlead | ⟨hlead, hq⟩
    · exact .inl hlead
    · rw [← hf]
      exact .inr ⟨hlead, continuation_lt rest rest' hlt hq⟩
  · exact .inl (lead_lt_of_following hlt hd hf)

/-! ## Texts -/

theorem flatMap_utf8EncodeChar_lt {l m : List Char} (h : l < m) :
    l.flatMap String.utf8EncodeChar < m.flatMap String.utf8EncodeChar := by
  induction h with
  | nil =>
    rw [List.flatMap_cons, utf8EncodeChar_eq]
    exact List.nil_lt_cons _ _
  | cons _ ih =>
    rw [List.flatMap_cons, List.flatMap_cons]
    exact List.append_left_lt ih
  | rel hlt => exact utf8EncodeChar_lt hlt _ _

theorem utf8_lt_iff {s t : String} : utf8 s < utf8 t ↔ s < t := by
  have hmono {s t : String} (h : s < t) : utf8 s < utf8 t := by
    rw [utf8_eq_flatMap, utf8_eq_flatMap]
    exact flatMap_utf8EncodeChar_lt (String.lt_iff_toList_lt.mp h)
  constructor
  · intro h
    rcases lt_trichotomy s t with hlt | rfl | hgt
    · exact hlt
    · exact absurd h (List.lt_irrefl _)
    · exact absurd h (List.lt_asymm (hmono hgt))
  · exact hmono

end VaultUsage.Text
