import VaultUsage.Proofs.Json.Printing
import VaultUsage.Proofs.Shortest

/-!
# Real numbers come back as real numbers

The text of a real number below 1e16 is a numeral that is read as some real number, never as an integer and never as
one that is too large (`Number.real_returns`): there is always a fraction or a negative exponent, so its digits are
scaled down. Which number comes back is not said.
-/

namespace VaultUsage.Json

/-! ## Values of numerals -/

namespace Numeral

/-- What is scaled down is not too large. -/
theorem exists_scaled (negative : Bool) (n : Nat) {e : Int} (he : e < 0) : ∃ y, scaled? negative n e = some y := by
  unfold scaled?
  dsimp only
  split
  · exact ⟨_, rfl⟩
  rw [if_neg (by omega), if_neg (by omega)]
  split
  · exact ⟨_, rfl⟩
  split
  · exact ⟨_, rfl⟩
  · exact ⟨_, rfl⟩

/-- A fraction is scaled down by its first digit at least. -/
theorem absorb_fraction {n : Nat} (hn : n < 10 ^ 18) {c : Char} (hc : Text.isDigit c = true) (digits : List Char) :
    ∃ m used left, absorb n (c :: digits) = (m, used + 1, left) := by
  have hlt : n * 10 + Text.ofDigits 10 [c] < UInt64.size := by
    have := Text.ofDigits_digit_le hc
    have : UInt64.size = 18446744073709551616 := rfl
    omega
  rw [absorb]
  simp only [if_pos hlt]
  exact ⟨_, _, _, rfl⟩

theorem absorbExponent_ok {digits : List Char} {k : Nat} : ∀ {n : Nat}, absorbExponent n digits = .ok k →
    k = Text.appendDigits n digits := by
  induction digits with
  | nil =>
    intro n h
    exact (Except.ok.inj h).symm
  | cons c digits ih =>
    intro n h
    rw [absorbExponent] at h
    split at h
    · rw [Text.appendDigits_cons]
      exact ih h
    · cases h

/-- A numeral of few whole digits is a real number if its fraction or its negative exponent scales it down. -/
theorem value_real {l : Numeral} {n used m used' left : Nat} (hw : absorb 0 l.whole = (n, used, 0))
    (hf : absorb n (l.fraction.getD []) = (m, used', left))
    (he : (l.exponent = none ∧ 0 < used') ∨
      ∃ digits, l.exponent = some (true, digits) ∧ ∀ k, absorbExponent 0 digits = .ok k → 0 < used' + k) :
    ∃ y, l.value = .ok (.real y) := by
  rcases he with ⟨hx, hused⟩ | ⟨digits, hx, hused⟩
  · have hsome : l.fraction.isNone = false := by
      cases hl : l.fraction with
      | none =>
        rw [hl] at hf
        cases hf
        omega
      | some digits => rfl
    obtain ⟨y, hy⟩ := exists_scaled l.negative m (by omega : ((0 : Nat) : Int) - used' < 0)
    refine ⟨y, ?_⟩
    simp only [value, hw, hf, hx, hsome, hy]
    rfl
  · cases ha : absorbExponent 0 digits with
    | error unread =>
      refine ⟨.zero l.negative, ?_⟩
      simp [value, hw, hf, hx, ha]
    | ok k =>
      have := hused k ha
      obtain ⟨y, hy⟩ := exists_scaled l.negative m (by omega : ((0 : Nat) : Int) - used' - k < 0)
      refine ⟨y, ?_⟩
      simp only [value, hw, hf, hx, ha, if_true, hy]
      simp only [Option.isNone_some, Bool.and_false, Bool.false_and]
      rfl

/-- Few whole digits are all taken in, and leave room for one more. -/
theorem absorb_whole {whole : List Char} (hd : ∀ c ∈ whole, Text.isDigit c = true) (hlen : whole.length ≤ 18) :
    ∃ n used, absorb 0 whole = (n, used, 0) ∧ n < 10 ^ 18 := by
  have hlt := Text.appendDigits_lt hd 0
  have hpow : 10 ^ whole.length ≤ 10 ^ 18 := Nat.pow_le_pow_right (by decide) hlen
  have hsize : 10 ^ 18 < UInt64.size := by decide
  exact ⟨_, _, absorb_eq whole (by omega), by omega⟩

end Numeral

/-! ## Texts -/

/-- Behind any sign, the text is a numeral that is read as a real number. -/
def IsRealText (text : List Char) : Prop :=
  ∀ negative, ∃ l : Numeral, l.negative = negative ∧ (∃ y, l.value = .ok (.real y)) ∧
    ∀ rest, Stops rest → IsUnsigned (text ++ rest) l rest

theorem isRealText_point {whole fraction : List Char} (hw : ∀ c ∈ whole, Text.isDigit c = true) (hne : whole ≠ [])
    (hlen : whole.length ≤ 18) (hz : whole.head? = some '0' → whole = ['0'])
    (hf : ∀ c ∈ fraction, Text.isDigit c = true) (hfne : fraction ≠ []) : IsRealText (whole ++ '.' :: fraction) := by
  intro negative
  obtain ⟨n, used, habsorb, hn⟩ := Numeral.absorb_whole hw hlen
  obtain ⟨c, digits, rfl⟩ := List.exists_cons_of_ne_nil hfne
  obtain ⟨m, used', left, hfraction⟩ := Numeral.absorb_fraction hn (hf c List.mem_cons_self) digits
  refine ⟨⟨negative, whole, some (c :: digits), none⟩, rfl,
    Numeral.value_real habsorb hfraction (.inl ⟨rfl, Nat.succ_pos used'⟩), fun rest hr => ?_⟩
  have hwhole : IsDigits (whole ++ '.' :: (c :: digits ++ rest)) whole ('.' :: (c :: digits ++ rest)) :=
    ⟨rfl, hne, hw, by simp [Text.isDigit]⟩
  have hdigits : IsDigits (c :: digits ++ rest) (c :: digits) rest := ⟨rfl, hfne, hf, fun c hc => (hr c hc).1⟩
  rw [List.append_assoc]
  exact .mk hwhole hz (.some hdigits) hr.isExponent

theorem isRealText_exponent {c : Char} (hc : Text.isDigit c = true) {fraction : List Char}
    (hf : ∀ c ∈ fraction, Text.isDigit c = true) {k : Nat} (hk : 0 < k) :
    IsRealText (c :: (if fraction = [] then [] else '.' :: fraction) ++ 'e' :: '-' :: Nat.toDigits 10 k) := by
  intro negative
  obtain ⟨n, used, habsorb, -⟩ := Numeral.absorb_whole (List.forall_mem_singleton.mpr hc) (Nat.le_add_left 1 17)
  have hread : ∀ k', Numeral.absorbExponent 0 (Nat.toDigits 10 k) = .ok k' → k' = k := fun k' h =>
    (Numeral.absorbExponent_ok h).trans (Text.appendDigits_toDigits k)
  have hexponent (rest : List Char) (hr : Stops rest) :
      IsExponent ('e' :: '-' :: (Nat.toDigits 10 k ++ rest)) (some (true, Nat.toDigits 10 k)) rest :=
    .some (.inl rfl) .minus (isDigits_toDigits k fun c hc => (hr c hc).1)
  refine ⟨⟨negative, [c], if fraction = [] then none else some fraction, some (true, Nat.toDigits 10 k)⟩, rfl,
    Numeral.value_real habsorb rfl (.inr ⟨_, rfl, fun k' h => ?_⟩), fun rest hr => ?_⟩
  · rw [hread k' h]
    omega
  have hwhole (t : Char) (ht : Text.isDigit t = false) (text : List Char) : IsDigits (c :: t :: text) [c] (t :: text) :=
    ⟨rfl, nofun, List.forall_mem_singleton.mpr hc, by simpa using ht⟩
  have hz : [c].head? = some '0' → [c] = ['0'] := fun h => by rw [Option.some.inj h]
  by_cases hempty : fraction = []
  · simp only [hempty, if_true]
    exact .mk (hwhole 'e' rfl _) hz (.none (by simp)) (hexponent rest hr)
  · have hdigits (text : List Char) : IsDigits (fraction ++ 'e' :: text) fraction ('e' :: text) :=
      ⟨rfl, hempty, hf, by simp [Text.isDigit]⟩
    have hunsigned : IsUnsigned _ ⟨negative, [c], some fraction, some (true, Nat.toDigits 10 k)⟩ rest :=
      .mk (hwhole '.' rfl _) hz (.some (hdigits _)) (hexponent rest hr)
    simpa [hempty] using hunsigned

/-- What is written when no digits are found. -/
theorem isRealText_fallback : IsRealText (Number.decimalText ['0'] 17).toList := by
  intro negative
  refine ⟨⟨negative, ['0'], none, some (false, ['1', '7'])⟩, rfl, ⟨.zero negative, rfl⟩, fun rest hr => ?_⟩
  have hexponent : IsExponent ('e' :: '+' :: '1' :: '7' :: rest) (some (false, ['1', '7'])) rest :=
    .some (.inl rfl) .plus ⟨rfl, List.cons_ne_nil _ _, by simp [Text.isDigit], fun c hc => (hr c hc).1⟩
  have hwhole : IsDigits ('0' :: 'e' :: '+' :: '1' :: '7' :: rest) ['0'] ('e' :: '+' :: '1' :: '7' :: rest) :=
    ⟨rfl, List.cons_ne_nil _ _, by simp [Text.isDigit], by simp [Text.isDigit]⟩
  exact .mk hwhole (fun _ => rfl) (.none (by simp)) hexponent

theorem isRealText_decimalText {digits : List Char} {e : Int} (hd : ∀ c ∈ digits, Text.isDigit c = true)
    (hne : digits ≠ []) (h : digits.head? ≠ some '0' ∧ e < 16 ∨ digits = ['0'] ∧ e = 17) :
    IsRealText (Number.decimalText digits e).toList := by
  have hzeros (k : Nat) : ∀ c ∈ List.replicate k '0', Text.isDigit c = true := fun c hc => by
    rw [(List.mem_replicate.mp hc).2]
    rfl
  rcases h with ⟨hz, he⟩ | ⟨rfl, rfl⟩
  · obtain ⟨c, tail, rfl⟩ := List.exists_cons_of_ne_nil hne
    have hc : Text.isDigit c = true := hd c List.mem_cons_self
    have ht : ∀ c ∈ tail, Text.isDigit c = true := fun c hc => hd c (List.mem_cons_of_mem _ hc)
    unfold Number.decimalText
    split
    · next hsmall =>
      -- all digits behind the point
      have hfraction : ∀ t ∈ List.replicate (-e - 1).toNat '0' ++ c :: tail, Text.isDigit t = true := fun t ht =>
        (List.mem_append.mp ht).elim (hzeros _ t) (hd t)
      have := isRealText_point (List.forall_mem_singleton.mpr (rfl : Text.isDigit '0' = true)) nofun
        (Nat.le_add_left 1 17) (fun _ => rfl) hfraction (by simp)
      simpa using this
    split
    · next hmiddle =>
      -- the point among the digits or behind them
      have hwhole : ∀ t ∈ (c :: tail).take (e.toNat + 1) ++
          List.replicate (e.toNat + 1 - ((c :: tail).take (e.toNat + 1)).length) '0', Text.isDigit t = true :=
        fun t ht => (List.mem_append.mp ht).elim (fun ht => hd t (List.mem_of_mem_take ht)) (hzeros _ t)
      have hlen : ((c :: tail).take (e.toNat + 1) ++
          List.replicate (e.toNat + 1 - ((c :: tail).take (e.toNat + 1)).length) '0').length ≤ 18 := by
        rw [List.length_append, List.length_replicate, List.length_take]
        omega
      have hpoint {fraction : List Char} (hf : ∀ t ∈ fraction, Text.isDigit t = true) (hfne : fraction ≠ []) :=
        isRealText_point hwhole (by simp) hlen (fun h => absurd (by simpa using h) hz) hf hfne
      dsimp only
      split
      · have := hpoint (List.forall_mem_singleton.mpr (rfl : Text.isDigit '0' = true)) nofun
        simpa using this
      · next hdrop =>
        have hfne : (c :: tail).drop (e.toNat + 1) ≠ [] := by simpa using hdrop
        have := hpoint (fun t ht => hd t (List.mem_of_mem_drop ht)) hfne
        simpa using this
    · next hlarge =>
      -- an exponent, which is negative: large numbers are excluded
      have hexponent := isRealText_exponent hc ht (by omega : 0 < e.natAbs)
      have hneg : e < 0 := by omega
      cases tail with
      | nil => simpa [hneg, Nat.toString_eq_ofList_toDigits] using hexponent
      | cons t tail => simpa [hneg, Nat.toString_eq_ofList_toDigits] using hexponent
  · exact isRealText_fallback

theorem isRealText_shortest {x : Binary64} (h : x.shortest.IsModest) :
    IsRealText (Number.decimalText (Nat.toDigits 10 x.shortest.digits)
      (x.shortest.exponent + (Nat.toDigits 10 x.shortest.digits).length - 1)).toList := by
  refine isRealText_decimalText (fun c hc => Text.isDigit_of_mem_toDigits hc) Nat.toDigits_ne_nil ?_
  rcases h with h | ⟨hne, hlt⟩
  · rw [h]
    exact .inr ⟨rfl, rfl⟩
  · exact .inl ⟨fun hz => hne (Text.eq_zero_of_head_toDigits hz), hlt⟩

/-- A real number that is not too large comes back as some real number. -/
theorem Number.real_returns {x : Binary64} (h : x.num ≤ 10 ^ 9 * x.den) : ∃ y, Returns (.real x) (.real y) := by
  obtain ⟨text, htext, hreal⟩ : ∃ text, (Number.real x).render.toList = (if x.negative then ['-'] else []) ++ text ∧
      IsRealText text := by
    simp only [render, realText, String.toList_append]
    refine ⟨_, congrArg (· ++ _) (by split <;> rfl), ?_⟩
    split
    · have hzero : ∀ c ∈ ['0'], Text.isDigit c = true := List.forall_mem_singleton.mpr rfl
      exact isRealText_point hzero nofun (Nat.le_add_left 1 17) (fun _ => rfl) hzero nofun
    · next hx => exact isRealText_shortest (Binary64.shortest_isModest (by simpa using hx) h)
  obtain ⟨l, hl, ⟨y, hy⟩, hunsigned⟩ := hreal x.negative
  refine ⟨y, fun rest hr => ⟨l, ?_, hy⟩⟩
  rw [htext, List.append_assoc]
  cases hx : x.negative with
  | true => exact .negative (hl.trans hx) (hunsigned rest hr)
  | false => exact .positive (hl.trans hx) (hunsigned rest hr)

end VaultUsage.Json
