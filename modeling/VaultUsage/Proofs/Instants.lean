import VaultUsage.Instant.Reader
import VaultUsage.Proofs.Numerals
import VaultUsage.Proofs.Results

/-!
# Instants come back

The RFC 3339 text of an instant in the years that have four digits is read as that instant, with its fraction of a
second (`Instant.read_render`). Numbers are written with as many digits as are read for them, so what stands behind
a number does not matter but for the fraction, which ends at the letter.
-/

namespace VaultUsage

namespace Text

theorem isBlank_of_isDigit {c : Char} (h : isDigit c = true) : isBlank c = false := by
  simp only [isDigit, Bool.and_eq_true, decide_eq_true_eq] at h
  have hlow : 48 ≤ c.toNat := h.1
  have hhigh : c.toNat ≤ 57 := h.2
  simp [isBlank]
  omega

end Text

namespace Instant

/-! ## Numbers -/

theorem takeWhile_take_digits {width : Nat} {digits rest : List Char} (hd : ∀ c ∈ digits, Text.isDigit c = true)
    (hlen : digits.length ≤ width) (hstop : digits.length = width ∨ ∀ c ∈ rest.head?, Text.isDigit c = false) :
    ((digits ++ rest).take width).takeWhile Text.isDigit = digits := by
  rw [List.take_append, List.take_of_length_le hlen]
  refine Text.takeWhile_append_of_head hd fun c hc => ?_
  rw [List.head?_take] at hc
  split at hc
  · cases hc
  · next hroom =>
    rcases hstop with h | h
    · omega
    · exact h c hc

section
variable {width n : Nat} {rest : List Char}

/-- A padded number is read as it is if it has all the digits that are read, or no digit behind it. -/
theorem readNumber_padLeft {limit : Nat} (hw : 0 < width) (hn : n < 10 ^ width) (hlimit : width ≤ limit)
    (hstop : width = limit ∨ ∀ c ∈ rest.head?, Text.isDigit c = false) :
    readNumber limit ((Text.padLeft width n).toList ++ rest) = .ok (n, rest) := by
  obtain ⟨digits, htext, hlen, hd, hval⟩ := Text.exists_padLeft hw hn
  have htake := takeWhile_take_digits hd (hlen ▸ hlimit) (hlen ▸ hstop)
  obtain ⟨c, t, rfl⟩ := List.exists_cons_of_length_pos (hlen ▸ hw)
  rw [htext]
  simp only [List.cons_append] at htake
  simp only [readNumber, List.cons_append, htake, hval, List.length_cons, List.drop_succ_cons, List.drop_left]

theorem exists_padLeft_cons (hw : 0 < width) (hn : n < 10 ^ width) (rest : List Char) :
    ∃ c t, (Text.padLeft width n).toList ++ rest = c :: t ∧ Text.isDigit c = true := by
  obtain ⟨digits, htext, hlen, hd, -⟩ := Text.exists_padLeft hw hn
  obtain ⟨c, t, rfl⟩ := List.exists_cons_of_length_pos (hlen ▸ hw)
  exact ⟨c, t ++ rest, by rw [htext, List.cons_append], hd c List.mem_cons_self⟩

theorem skipBlank_padLeft (hw : 0 < width) (hn : n < 10 ^ width) :
    skipBlank ((Text.padLeft width n).toList ++ rest) = (Text.padLeft width n).toList ++ rest := by
  obtain ⟨c, t, htext, hc⟩ := exists_padLeft_cons hw hn rest
  rw [htext, skipBlank, List.dropWhile_cons, Text.isBlank_of_isDigit hc]
  rfl

theorem readField_padLeft {low high : Nat} (hn : n < 100) (hlow : low ≤ n) (hhigh : n ≤ high) :
    readField low high ((Text.padLeft 2 n).toList ++ rest) = .ok (n, rest) := by
  rw [readField, skipBlank_padLeft (by decide) hn, readNumber_padLeft (by decide) hn (Nat.le_refl 2) (.inl rfl)]
  exact if_pos ⟨hlow, hhigh⟩

theorem readMark_cons {mark : Char} (h : Text.isBlank mark = false) : readMark mark (mark :: rest) = .ok rest := by
  have hskip : skipBlank (mark :: rest) = mark :: rest := by
    rw [skipBlank, List.dropWhile_cons, h]
    rfl
  rw [readMark, hskip]
  exact if_pos rfl

end

/-! ## Dates and times -/

theorem readYear_yearText {year : Int} (hlow : 0 ≤ year) (hhigh : year ≤ 9999) (rest : List Char) :
    readYear ((Date.yearText year).toList ++ rest) = .ok (year, rest) := by
  have hn : year.natAbs < 10 ^ 4 := by omega
  have htext : Date.yearText year = Text.padLeft 4 year.natAbs := by
    rw [Date.yearText, if_neg (by omega), if_neg (by omega)]
  have hread : readNumber 4 ((Text.padLeft 4 year.natAbs).toList ++ rest) = .ok (year.natAbs, rest) :=
    readNumber_padLeft (by decide) hn (Nat.le_refl 4) (.inl rfl)
  have hyear : (pure ((year.natAbs : Int), rest) : Except Fault (Int × List Char)) = .ok (year, rest) := by
    rw [Int.natAbs_of_nonneg hlow]
    rfl
  have hrange : -0x80000000 ≤ year ∧ year < 0x80000000 := by omega
  obtain ⟨c, t, hcons, hc⟩ := exists_padLeft_cons (by decide) hn rest
  rw [htext, readYear, skipBlank_padLeft (by decide) hn, hcons]
  rw [hcons] at hread
  split
  · next h =>
    cases h
    cases hc
  · next h =>
    cases h
    cases hc
  · -- step by step: unfolding both reads at once would have the bounds of the range counted out
    refine bind_eq_ok.mpr ⟨_, hread, bind_eq_ok.mpr ⟨_, hyear, ?_⟩⟩
    dsimp only
    rw [if_pos hrange]

theorem bounds_of_isValid {d : Date} (h : d.isValid = true) : 1 ≤ d.month ∧ d.month ≤ 12 ∧ 1 ≤ d.day ∧ d.day ≤ 31 := by
  rw [Date.isValid, decide_eq_true_iff] at h
  obtain ⟨hd, hd'⟩ := h
  unfold Date.daysInMonth at hd'
  split at hd'
  · split at hd' <;> omega
  split at hd'
  · next hm =>
    simp only [List.mem_cons, List.not_mem_nil, or_false] at hm
    omega
  split at hd' <;> omega

theorem readDate_render {d : Date} (hlow : 0 ≤ d.year) (hhigh : d.year ≤ 9999) (hv : d.isValid = true)
    (rest : List Char) : readDate (d.render.toList ++ rest) = .ok (d, rest) := by
  obtain ⟨hm, hm', hd, hd'⟩ : 1 ≤ d.month ∧ d.month ≤ 12 ∧ 1 ≤ d.day ∧ d.day ≤ 31 := bounds_of_isValid hv
  have hdash : Text.isBlank '-' = false := by decide
  simp only [readDate, Date.render, String.toList_append, List.append_assoc]
  rw [readYear_yearText hlow hhigh]
  simp [readMark_cons hdash, readField_padLeft (by omega : d.month < 100) hm hm',
    readField_padLeft (by omega : d.day < 100) hd hd', pure, bind, Except.pure, Except.bind]

theorem readFraction_padLeft {places n : Nat} (hp : 0 < places) (hp' : places ≤ 9) (hn : n < 10 ^ places) {c : Char}
    (hc : Text.isDigit c = false) (rest : List Char) :
    readFraction ('.' :: ((Text.padLeft places n).toList ++ c :: rest)) = .ok (n * 10 ^ (9 - places), c :: rest) := by
  obtain ⟨digits, htext, hlen, -⟩ := Text.exists_padLeft hp hn
  have hread : readNumber 9 ((Text.padLeft places n).toList ++ c :: rest) = .ok (n, c :: rest) :=
    readNumber_padLeft hp hn hp' (.inr (by simpa using hc))
  have hused : ((Text.padLeft places n).toList ++ c :: rest).length - (c :: rest).length = places := by
    rw [htext, List.length_append, hlen]
    omega
  have hdrop : (c :: rest).dropWhile Text.isDigit = c :: rest := by
    rw [List.dropWhile_cons, hc]
    rfl
  simp only [readFraction, hread, pure, Except.pure, bind, Except.bind, hused, hdrop]
  rfl

theorem readFraction_fractionText {t : TimeOfDay} (ht : t.nanosecond < 1000000000) {c : Char} {rest : List Char}
    (hc : Text.isDigit c = false) (hp : c ≠ '.') :
    readFraction (t.fractionText.toList ++ c :: rest) = .ok (t.nanosecond, c :: rest) := by
  unfold TimeOfDay.fractionText
  split
  · next h0 =>
    rw [h0]
    simp [readFraction, hp]
  split
  · next h =>
    have := readFraction_padLeft (by decide) (by decide) (by omega : t.nanosecond / 1000000 < 10 ^ 3) hc rest
    have hn : t.nanosecond / 1000000 * 10 ^ (9 - 3) = t.nanosecond := by omega
    rw [hn] at this
    simpa using this
  split
  · next h =>
    have := readFraction_padLeft (by decide) (by decide) (by omega : t.nanosecond / 1000 < 10 ^ 6) hc rest
    have hn : t.nanosecond / 1000 * 10 ^ (9 - 6) = t.nanosecond := by omega
    rw [hn] at this
    simpa using this
  · have := readFraction_padLeft (by decide) (by decide) (by omega : t.nanosecond < 10 ^ 9) hc rest
    simpa using this

theorem readTime_render {t : TimeOfDay} (hv : t.isValid = true) {c : Char} {rest : List Char}
    (hc : Text.isDigit c = false) (hp : c ≠ '.') :
    readTime (t.render.toList ++ t.fractionText.toList ++ c :: rest) = .ok (t, c :: rest) := by
  rw [TimeOfDay.isValid, decide_eq_true_iff] at hv
  obtain ⟨hh, hm, hs, hn⟩ := hv
  have hcolon : Text.isBlank ':' = false := by decide
  simp only [readTime, TimeOfDay.render, String.toList_append, List.append_assoc]
  rw [readField_padLeft (by omega : t.hour < 100) (Nat.zero_le _) (by omega)]
  simp [readMark_cons hcolon, readField_padLeft (by omega : t.minute < 100) (Nat.zero_le _) (by omega : t.minute ≤ 59),
    readField_padLeft (by omega : t.second < 100) (Nat.zero_le _) hs, readFraction_fractionText hn hc hp, pure, bind,
    Except.pure, Except.bind]

theorem ofLocal_zero {i : Instant} (hr : i.date.inRange = true) : ofLocal i.date i.time 0 = .ok i := by
  have hv := i.valid
  rw [Bool.and_eq_true] at hv
  have ht := hv.2
  rw [TimeOfDay.isValid, decide_eq_true_iff] at ht
  have hclock : ((i.time.hour : Int) * 60 + i.time.minute - 0) % 1440 = (i.time.hour * 60 + i.time.minute : Nat) := by
    omega
  have htime : { i.time with
      hour := (i.time.hour * 60 + i.time.minute) / 60
      minute := (i.time.hour * 60 + i.time.minute) % 60 } = i.time := by
    have hhour : (i.time.hour * 60 + i.time.minute) / 60 = i.time.hour := by omega
    have hminute : (i.time.hour * 60 + i.time.minute) % 60 = i.time.minute := by omega
    rw [hhour, hminute]
  have hfields : ofFields? i.date i.time = some i := dif_pos i.valid
  simp only [ofLocal, hv.1, hr, hclock, Int.toNat_natCast, htime]
  rw [if_neg (by decide), if_neg (by omega), if_neg (by omega), hfields]
  simp only [hr, if_true]

/-- The text of an instant in a year of four digits is read as that instant. -/
theorem read_render {i : Instant} (hlow : 0 ≤ i.date.year) (hhigh : i.date.year ≤ 9999) :
    read i.render.toList = .ok i := by
  have hv := i.valid
  rw [Bool.and_eq_true] at hv
  have htime : readTime (i.time.render.toList ++ (i.time.fractionText.toList ++ ['Z'])) = .ok (i.time, ['Z']) := by
    rw [← List.append_assoc]
    exact readTime_render hv.2 (by decide) (by decide)
  simp only [read, render, String.toList_append, List.append_assoc]
  rw [readDate_render hlow hhigh hv.1]
  have hoffset : readOffset (skipBlank ['Z']) = .ok (0, []) := rfl
  have hr : i.date.inRange = true := decide_eq_true ⟨by omega, by omega⟩
  have hend : skipBlank [] = [] := rfl
  simp [htime, hoffset, hend, ofLocal_zero hr, bind, Except.bind]

end Instant

end VaultUsage
