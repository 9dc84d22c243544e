import VaultUsage.Proofs.Runs
import VaultUsage.Url.Percent

/-!
# Percent-encoding loses nothing

If the percent sign is not kept as it is, decoding takes an encoded text back to the bytes of the text
(`decodeBytes_encode`), so different texts have different encodings. Besides the characters that are kept there
are only percent signs and digits in an encoded text.
-/

namespace VaultUsage.Url

theorem hexValue?_hexDigit : ∀ n < 16, Text.hexValue? (hexDigit n) = some n := by decide

theorem decodeBytes_cons {c : Char} (hc : c ≠ '%') (rest : List Char) :
    decodeBytes (c :: rest) = c :: decodeBytes rest := by
  simp [decodeBytes, hc]

theorem decodeBytes_escapeByte (b : UInt8) (rest : List Char) :
    decodeBytes (escapeByte b ++ rest) = Char.ofNat b.toNat :: decodeBytes rest := by
  have hb := b.toNat_lt
  simp only [escapeByte, List.cons_append, List.nil_append, decodeBytes,
    hexValue?_hexDigit _ (show b.toNat / 16 < 16 by omega), hexValue?_hexDigit _ (show b.toNat % 16 < 16 by omega)]
  rw [Nat.div_add_mod]

theorem decodeBytes_escapeBytes (bytes : List UInt8) (rest : List Char) :
    decodeBytes (bytes.flatMap escapeByte ++ rest) =
      (bytes.map fun b => Char.ofNat b.toNat) ++ decodeBytes rest := by
  induction bytes with
  | nil => rfl
  | cons b bytes ih =>
    rw [List.flatMap_cons, List.append_assoc, decodeBytes_escapeByte, ih]
    rfl

theorem utf8EncodeChar_ascii {c : Char} (hc : c.toNat < 128) :
    (String.utf8EncodeChar c).map (fun b => Char.ofNat b.toNat) = [c] := by
  have hs : c.utf8Size = 1 := by
    rw [Char.utf8Size_eq_one_iff, UInt32.le_iff_toNat_le]
    exact Nat.le_of_lt_succ hc
  have hb : c.val.toUInt8.toNat = c.toNat := by
    rw [UInt32.toNat_toUInt8]
    exact Nat.mod_eq_of_lt (show c.toNat < 2 ^ 8 by omega)
  rw [String.utf8EncodeChar_eq_singleton hs, List.map_singleton, hb, Char.ofNat_toNat]

theorem ofNat_byte_injective {a b : UInt8} (h : Char.ofNat a.toNat = Char.ofNat b.toNat) : a = b := by
  have hv (b : UInt8) : (Char.ofNat b.toNat).toNat = b.toNat := by
    have hb := b.toNat_lt
    rw [Char.ofNat, dif_pos (Or.inl (by omega))]
    rfl
  apply UInt8.toNat_inj.mp
  rw [← hv a, h, hv b]

section
variable {keep : Char → Bool} (hk : ∀ c, keep c = true → c ≠ '%' ∧ c.toNat < 128)
include hk

theorem decodeBytes_encode (text : List Char) :
    decodeBytes (encode keep text) =
      (text.flatMap String.utf8EncodeChar).map fun b => Char.ofNat b.toNat := by
  induction text with
  | nil => rfl
  | cons c text ih =>
    unfold encode at ih ⊢
    rw [List.flatMap_cons, List.flatMap_cons, List.map_append]
    by_cases hc : keep c = true
    · rw [if_pos hc, List.singleton_append, decodeBytes_cons (hk c hc).1, ih, utf8EncodeChar_ascii (hk c hc).2]
      rfl
    · rw [if_neg hc, escape, decodeBytes_escapeBytes, ih]

theorem eq_of_decodeBytes_encode {s t : List Char} (h : decodeBytes (encode keep s) = decodeBytes (encode keep t)) :
    s = t := by
  rw [decodeBytes_encode hk, decodeBytes_encode hk,
    List.map_inj_right fun _ _ => ofNat_byte_injective] at h
  have hu : s.utf8Encode = t.utf8Encode := congrArg List.toByteArray h
  have ha := congrArg ByteArray.utf8Decode? hu
  rw [List.utf8Decode?_utf8Encode, List.utf8Decode?_utf8Encode] at ha
  exact List.toArray_inj (Option.some.inj ha)

theorem encode_injective {s t : List Char} (h : encode keep s = encode keep t) : s = t :=
  eq_of_decodeBytes_encode hk (congrArg decodeBytes h)

end

theorem mem_escapeByte {b : UInt8} {c : Char} (h : c ∈ escapeByte b) : c = '%' ∨ ∃ n < 16, c = hexDigit n := by
  have hb := b.toNat_lt
  simp only [escapeByte, List.mem_cons, List.not_mem_nil, or_false] at h
  rcases h with h | h | h
  · exact Or.inl h
  · exact Or.inr ⟨_, by omega, h⟩
  · exact Or.inr ⟨_, by omega, h⟩

theorem mem_encode {keep : Char → Bool} {text : List Char} {c : Char} (h : c ∈ encode keep text) :
    (keep c = true ∧ c ∈ text) ∨ c = '%' ∨ ∃ n < 16, c = hexDigit n := by
  obtain ⟨d, hm, hd⟩ := List.mem_flatMap.mp h
  split at hd
  · next hk =>
    rw [List.mem_singleton.mp hd]
    exact Or.inl ⟨hk, hm⟩
  · obtain ⟨b, -, hb⟩ := List.mem_flatMap.mp hd
    exact Or.inr (mem_escapeByte hb)

theorem only_encode {keep p : Char → Bool} {text : List Char} (hp : p '%' = true)
    (hd : ∀ n < 16, p (hexDigit n) = true) (hk : ∀ c ∈ text, keep c = true → p c = true) :
    Only p (String.ofList (encode keep text)) := by
  intro c hc
  rw [String.toList_ofList] at hc
  rcases mem_encode hc with ⟨hkeep, hmem⟩ | rfl | ⟨n, hn, rfl⟩
  · exact hk c hmem hkeep
  · exact hp
  · exact hd n hn

/-! ## Segments -/

theorem isSegmentChar_ascii {c : Char} (h : isSegmentChar c = true) : c ≠ '%' ∧ c.toNat < 128 := by
  simp only [isSegmentChar, isPathChar, Bool.and_eq_true, decide_eq_true_eq, Bool.not_eq_true',
    List.contains_eq_mem, decide_eq_false_iff_not, List.mem_cons, not_or] at h
  obtain ⟨⟨⟨-, hle⟩, -⟩, -, hp, -⟩ := h
  have : c.toNat ≤ '~'.toNat := hle
  exact ⟨hp, Nat.lt_of_le_of_lt this (by decide)⟩

theorem slash_notMem_encode (text : List Char) : '/' ∉ encode isSegmentChar text := by
  intro h
  rcases mem_encode h with ⟨h, -⟩ | h | ⟨n, hn, h⟩
  · revert h; decide
  · revert h; decide
  · exact absurd h ((show ∀ n < 16, '/' ≠ hexDigit n by decide) n hn)

end VaultUsage.Url
