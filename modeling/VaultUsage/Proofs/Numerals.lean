import Mathlib.Algebra.Group.Nat.Defs
import VaultUsage.Proofs.Runs
import VaultUsage.Text.Digits

/-!
# Numerals

The digits of a number are read as that number.
-/

namespace VaultUsage.Text

theorem hexValue?_digitChar : ∀ n < 16, hexValue? n.digitChar = some n := by decide

theorem ofDigits_concat (base : Nat) (digits : List Char) (c : Char) :
    ofDigits base (digits ++ [c]) = ofDigits base digits * base + (hexValue? c).getD 0 := by
  rw [ofDigits, List.foldl_append]
  rfl

theorem ofDigits_toDigits {base : Nat} (hb : 1 < base) (hb' : base ≤ 16) (n : Nat) :
    ofDigits base (Nat.toDigits base n) = n := by
  induction n using Nat.strongRecOn with
  | ind n ih =>
    rw [Nat.toDigits_eq_if hb]
    split
    · next h => simp [ofDigits, hexValue?_digitChar n (by omega)]
    · next h =>
      have hlt : n % base < base := Nat.mod_lt n (by omega)
      rw [ofDigits_concat, ih _ (Nat.div_lt_self (by omega) hb), hexValue?_digitChar _ (by omega)]
      exact Nat.div_add_mod' n base

theorem mem_toDigits {base n : Nat} {c : Char} (hb : 1 < base) (h : c ∈ Nat.toDigits base n) :
    ∃ d < base, c = d.digitChar := by
  induction n using Nat.strongRecOn with
  | ind n ih =>
    rw [Nat.toDigits_eq_if hb] at h
    split at h
    · next hn => exact ⟨n, hn, List.mem_singleton.mp h⟩
    · next hn =>
      rcases List.mem_append.mp h with h | h
      · exact ih _ (Nat.div_lt_self (by omega) hb) h
      · exact ⟨n % base, Nat.mod_lt n (by omega), List.mem_singleton.mp h⟩

theorem eq_zero_of_head_toDigits {n : Nat} (h : (Nat.toDigits 10 n).head? = some '0') : n = 0 := by
  induction n using Nat.strongRecOn with
  | ind n ih =>
    rw [Nat.toDigits_eq_if (by decide)] at h
    split at h
    · next hn =>
      have hdigit : ∀ d < 10, d.digitChar = '0' → d = 0 := by decide
      exact hdigit n hn (Option.some.inj h)
    · next hn =>
      obtain ⟨c, digits, hd⟩ := List.exists_cons_of_ne_nil (@Nat.toDigits_ne_nil (n / 10) 10)
      have := ih (n / 10) (by omega) (by rw [hd] at h ⊢; exact h)
      omega

theorem isDigit_of_mem_toDigits {n : Nat} {c : Char} (h : c ∈ Nat.toDigits 10 n) : isDigit c = true := by
  have := Nat.isDigit_of_mem_toDigits (by decide) (by decide) h
  simpa [isDigit, Char.isDigit, Char.le_def] using this

theorem ofDigits_append (base : Nat) (digits more : List Char) :
    ofDigits base (digits ++ more) = ofDigits base digits * base ^ more.length + ofDigits base more := by
  induction more generalizing digits with
  | nil => simp [ofDigits]
  | cons c more ih =>
    have hfirst := ih [c]
    have hsingle : ofDigits base [c] = (hexValue? c).getD 0 := by simp [ofDigits]
    rw [List.singleton_append, hsingle] at hfirst
    rw [List.append_cons, ih, ofDigits_concat, hfirst, List.length_cons, Nat.pow_succ', Nat.add_mul, Nat.mul_assoc,
      Nat.add_assoc]

/-! ## Digits behind a number -/

/-- The number written by the digits of `n` and then `digits`. -/
def appendDigits (n : Nat) (digits : List Char) : Nat :=
  digits.foldl (fun n c => n * 10 + (hexValue? c).getD 0) n

theorem appendDigits_cons (n : Nat) (c : Char) (digits : List Char) :
    appendDigits n (c :: digits) = appendDigits (n * 10 + ofDigits 10 [c]) digits := by
  simp [appendDigits, ofDigits]

theorem appendDigits_toDigits (n : Nat) : appendDigits 0 (Nat.toDigits 10 n) = n :=
  ofDigits_toDigits (by decide) (by decide) n

theorem ofDigits_digit_le {c : Char} (hc : isDigit c = true) : ofDigits 10 [c] ≤ 9 := by
  simp only [isDigit, Bool.and_eq_true, decide_eq_true_eq] at hc
  have hhigh : c.toNat ≤ 57 := hc.2
  have hval : hexValue? c = some (c.toNat - 48) := if_pos hc
  simp only [ofDigits, List.foldl_cons, List.foldl_nil, hval, Option.getD_some]
  omega

theorem le_appendDigits (digits : List Char) : ∀ n, n ≤ appendDigits n digits := by
  induction digits with
  | nil => exact fun n => Nat.le_refl n
  | cons c digits ih =>
    intro n
    rw [appendDigits_cons]
    exact Nat.le_trans (by omega) (ih _)

theorem appendDigits_lt {digits : List Char} (hd : ∀ c ∈ digits, isDigit c = true) :
    ∀ n, appendDigits n digits < (n + 1) * 10 ^ digits.length := by
  induction digits with
  | nil =>
    intro n
    simp [appendDigits]
  | cons c digits ih =>
    intro n
    have hle : n * 10 + ofDigits 10 [c] + 1 ≤ (n + 1) * 10 := by
      have := ofDigits_digit_le (hd c List.mem_cons_self)
      omega
    calc
      appendDigits n (c :: digits) = appendDigits (n * 10 + ofDigits 10 [c]) digits := appendDigits_cons n c digits
      _ < (n * 10 + ofDigits 10 [c] + 1) * 10 ^ digits.length := ih (fun c hc => hd c (List.mem_cons_of_mem _ hc)) _
      _ ≤ (n + 1) * 10 * 10 ^ digits.length := Nat.mul_le_mul_right _ hle
      _ = (n + 1) * 10 ^ (digits.length + 1) := by rw [Nat.mul_assoc, Nat.pow_succ']

/-! ## Padded numbers -/

theorem ofDigits_zeros (base k : Nat) (digits : List Char) :
    ofDigits base (List.replicate k '0' ++ digits) = ofDigits base digits := by
  have hzeros : (List.replicate k '0').foldl (fun n c => n * base + (hexValue? c).getD 0) 0 = 0 := by
    induction k with
    | zero => rfl
    | succ k ih =>
      rw [List.replicate_succ, List.foldl_cons, Nat.zero_mul]
      exact ih
  rw [ofDigits, List.foldl_append, hzeros, ofDigits]

/-- The text of a number that fits into `width` digits: exactly these. -/
theorem exists_padLeft {width n : Nat} (hw : 0 < width) (hn : n < 10 ^ width) :
    ∃ digits, (padLeft width n).toList = digits ∧ digits.length = width ∧ (∀ c ∈ digits, isDigit c = true) ∧
      ofDigits 10 digits = n := by
  have hlen : (Nat.toDigits 10 n).length ≤ width := (Nat.length_toDigits_le_iff (by decide) hw).mpr hn
  have htext : (padLeft width n).toList =
      List.replicate (width - (Nat.toDigits 10 n).length) '0' ++ Nat.toDigits 10 n := by
    rw [padLeft]
    simp only [Nat.toString_eq_ofList_toDigits, String.length_ofList, String.toList_append, String.toList_ofList]
  refine ⟨_, htext, ?_, fun c hc => ?_, ?_⟩
  · rw [List.length_append, List.length_replicate]
    omega
  · rcases List.mem_append.mp hc with hc | hc
    · rw [(List.mem_replicate.mp hc).2]
      decide
    · exact isDigit_of_mem_toDigits hc
  · rw [ofDigits_zeros]
    exact ofDigits_toDigits (by decide) (by decide) n

end VaultUsage.Text
