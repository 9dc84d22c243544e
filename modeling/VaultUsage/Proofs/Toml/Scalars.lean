import VaultUsage.Proofs.Numerals
import VaultUsage.Toml.Reader

/-!
# Texts, integers and Booleans are read back

Every text can be a value on one line: a character that means something between quotes, or nothing at all, is written
as its number. Integers are written in decimal.
-/

namespace VaultUsage.Toml

/-! ## Values on one line -/

inductive Scalar where
  | text (value : String)
  | integer (value : Nat)
  | boolean (value : Bool)
  deriving DecidableEq, Repr

def writeChar (c : Char) : List Char :=
  if isPlain c && c != '"' && c != '\\' then [c] else '\\' :: 'u' :: Text.hex 4 c.toNat

namespace Scalar

def toValue : Scalar → Value
  | text s => .text s
  | integer n => .integer n
  | boolean b => .boolean b

def write : Scalar → List Char
  | text s => '"' :: (s.toList.flatMap writeChar ++ ['"'])
  | integer n => Nat.toDigits 10 n
  | boolean b => (toString b).toList

/-- Integers have 63 bits and a sign. -/
def InRange : Scalar → Prop
  | integer n => n < 2 ^ 63
  | _ => True

end Scalar

/-! ## Quoted text -/

theorem hexValues_hex : ∀ n < 128, (Text.hex 4 n).map Text.hexValue? = [some 0, some 0, some (n / 16), some (n % 16)] := by
  decide

theorem toNat_lt_of_not_isPlain {c : Char} (h : isPlain c = false) : c.toNat < 128 := by
  simp only [isPlain, Bool.or_eq_false_iff, Bool.and_eq_false_iff, decide_eq_false_iff_not, bne_eq_false_iff_eq] at h
  rcases h.2 with hc | rfl
  · have : ¬ (' '.toNat ≤ c.toNat) := hc
    simp at this
    omega
  · decide

theorem scanBasic_escape {n : Nat} (hn : n < 128) (reversed rest : List Char) :
    scanBasic false (.character false) reversed ('\\' :: 'u' :: (Text.hex 4 n ++ rest)) =
      scanBasic false (.character false) (Char.ofNat n :: reversed) rest := by
  have h := hexValues_hex n hn
  simp only [List.map_eq_cons_iff, List.map_eq_nil_iff] at h
  obtain ⟨a, _, htext, ha, b, _, rfl, hb, c, _, rfl, hc, d, _, rfl, hd, rfl⟩ := h
  have hvalid : n.isValidChar := Or.inl (by omega)
  have hvalue : (n / 16) * 16 + n % 16 = n := Nat.div_add_mod' n 16
  simp [htext, scanBasic, escaped?, ha, hb, hc, hd, hvalue, hvalid]

theorem toNat_lt_of_escaped {c : Char} (h : ¬(isPlain c && c != '"' && c != '\\') = true) : c.toNat < 128 := by
  simp only [Bool.and_eq_true, bne_iff_ne, ne_eq, not_and, Decidable.not_not] at h
  by_cases hp : isPlain c = true
  · by_cases hq : c = '"'
    · rw [hq]
      decide
    · rw [h ⟨hp, hq⟩]
      decide
  · exact toNat_lt_of_not_isPlain (Bool.not_eq_true _ ▸ hp)

theorem scanBasic_writeChar (c : Char) (reversed rest : List Char) :
    scanBasic false (.character false) reversed (writeChar c ++ rest) =
      scanBasic false (.character false) (c :: reversed) rest := by
  unfold writeChar
  split
  · next h =>
    simp only [Bool.and_eq_true, bne_iff_ne, ne_eq] at h
    simp [scanBasic, h]
  · next h =>
    rw [List.cons_append, List.cons_append, scanBasic_escape (toNat_lt_of_escaped h), Char.ofNat_toNat]

theorem readBasic_write (s rest : List Char) :
    readBasic (s.flatMap writeChar ++ '"' :: rest) = .ok (String.ofList s, rest) := by
  suffices ∀ reversed, scanBasic false (.character false) reversed (s.flatMap writeChar ++ '"' :: rest) =
      .ok (String.ofList (reversed.reverse ++ s), rest) from this []
  induction s with
  | nil =>
    intro reversed
    simp [scanBasic]
  | cons c s ih =>
    intro reversed
    rw [List.flatMap_cons, List.append_assoc, scanBasic_writeChar, ih]
    simp

theorem head_writeChar (c : Char) (rest : List Char) : (writeChar c ++ rest).head? ≠ some '"' := by
  unfold writeChar
  split
  · next h =>
    simp only [Bool.and_eq_true, bne_iff_ne, ne_eq] at h
    simp [h]
  · simp

theorem readQuoted?_write (s rest : List Char) :
    readQuoted? ('"' :: (s.flatMap writeChar ++ '"' :: '\n' :: rest)) = some (.ok (String.ofList s, '\n' :: rest)) := by
  unfold readQuoted?
  split
  · next more h =>
    -- three quotes would need a first character that is a quote, or a second quote behind an empty text
    have h := (List.cons.inj h).2
    cases s with
    | nil => cases (List.cons.inj (List.cons.inj h).2).1
    | cons c s =>
      rw [List.flatMap_cons, List.append_assoc] at h
      exact absurd (by rw [h]; rfl) (head_writeChar c _)
  · next h =>
    cases h
    rw [readBasic_write]
  · next h => cases (List.cons.inj h).1
  · next h => cases (List.cons.inj h).1
  · next _ h _ _ => exact absurd rfl (h _)

theorem readQuoted?_cons {c : Char} (hc : c ≠ '"') (hc' : c ≠ '\x27') (rest : List Char) :
    readQuoted? (c :: rest) = none := by
  unfold readQuoted?
  split
  · next h => exact absurd (List.cons.inj h).1 hc
  · next h => exact absurd (List.cons.inj h).1 hc
  · next h => exact absurd (List.cons.inj h).1 hc'
  · next h => exact absurd (List.cons.inj h).1 hc'
  · rfl

/-! ## Numbers -/

section
variable {digits : List Char} (hd : ∀ c ∈ digits, Text.isDigit c = true)
include hd

theorem notMem_digits {c : Char} (hc : Text.isDigit c = false) : c ∉ digits := by
  intro h
  rw [hd c h] at hc
  cases hc

theorem areDigits_of_all (hne : digits ≠ []) : areDigits Text.isDigit digits = true := by
  induction digits with
  | nil => exact absurd rfl hne
  | cons c rest ih =>
    obtain ⟨hc, hrest⟩ := List.forall_mem_cons.mp hd
    cases rest with
    | nil => exact hc
    | cons d more =>
      have hu : d ≠ '_' := fun h => absurd (hrest d List.mem_cons_self) (by rw [h]; decide)
      rw [areDigits, hc, ih hrest (List.cons_ne_nil d more)]
      · rfl
      · exact nofun
      · exact fun _ h => hu (List.cons.inj h).1

theorem isDate_digits : isDate digits = false := by
  unfold isDate
  split
  · exact absurd (by simp) (notMem_digits hd (c := '-') (by decide))
  · rfl

theorem isMoment_digits : isMoment digits = false := by
  have htime : isTime digits = false := by
    unfold isTime
    split
    · exact absurd (by simp) (notMem_digits hd (c := ':') (by decide))
    · rfl
  have htake : isDate (digits.take 10) = false := isDate_digits fun c hc => hd c (List.mem_of_mem_take hc)
  simp [isMoment, isDate_digits hd, htime, htake]

theorem splitSign_digits : splitSign digits = (false, digits) := by
  unfold splitSign
  split
  · exact absurd List.mem_cons_self (notMem_digits hd (c := '-') (by decide))
  · exact absurd List.mem_cons_self (notMem_digits hd (c := '+') (by decide))
  · rfl

theorem span_digits {p : Char → Bool} (hp : ∀ c, Text.isDigit c = true → p c = true) :
    digits.span p = (digits, []) := by
  have h : (digits ++ []).span p = (digits, []) :=
    Text.span_append_of_head (fun c hc => hp c (hd c hc)) nofun
  rwa [List.append_nil] at h

theorem float?_digits : float? digits = none := by
  have hi : 'i' ∉ digits := notMem_digits hd (by decide)
  have hn : 'n' ∉ digits := notMem_digits hd (by decide)
  have hinf : digits ≠ ['i', 'n', 'f'] := fun h => hi (h ▸ List.mem_cons_self)
  have hnan : digits ≠ ['n', 'a', 'n'] := fun h => hn (h ▸ List.mem_cons_self)
  have hexp : digits.span (!isExponentLetter ·) = (digits, []) := span_digits hd fun c hc => by
    simp [isExponentLetter, Text.ne_of_holds hc (d := 'e') rfl, Text.ne_of_holds hc (d := 'E') rfl]
  have hpoint : digits.span (· != '.') = (digits, []) := span_digits hd fun c hc =>
    bne_iff_ne.mpr (Text.ne_of_holds hc rfl)
  simp only [float?, splitSign_digits hd, hexp, hpoint, hinf, hnan]
  rfl

end

theorem integer?_toDigits {n : Nat} (hn : n < 2 ^ 63) : integer? (Nat.toDigits 10 n) = some (.integer n) := by
  have hd : ∀ c ∈ Nat.toDigits 10 n, Text.isDigit c = true := fun _ => Text.isDigit_of_mem_toDigits
  have hwhole : areWhole (Nat.toDigits 10 n) = true := by
    rw [areWhole, areDigits_of_all hd Nat.toDigits_ne_nil, Bool.true_and]
    by_cases h : (Nat.toDigits 10 n).head? = some '0'
    · rw [Text.eq_zero_of_head_toDigits h]
      rfl
    · simp [h]
  have hnumber : number 10 (Nat.toDigits 10 n) = n := by
    have hplain : (Nat.toDigits 10 n).filter (· != '_') = Nat.toDigits 10 n :=
      List.filter_eq_self.mpr fun c hc => bne_iff_ne.mpr (Text.ne_of_holds (hd c hc) rfl)
    rw [number, hplain, Text.ofDigits_toDigits (by decide) (by decide)]
  unfold integer?
  split
  · next h => exact absurd (by rw [h]; simp) (notMem_digits hd (c := 'x') (by decide))
  · next h => exact absurd (by rw [h]; simp) (notMem_digits hd (c := 'o') (by decide))
  · next h => exact absurd (by rw [h]; simp) (notMem_digits hd (c := 'b') (by decide))
  · rw [splitSign_digits hd]
    have hrange : -0x8000000000000000 ≤ (n : Int) ∧ (n : Int) < 0x8000000000000000 := by omega
    dsimp only
    rw [if_pos hwhole, if_neg Bool.false_ne_true, hnumber, inRange, if_pos hrange]

theorem ofWord?_toDigits {n : Nat} (hn : n < 2 ^ 63) : ofWord? (Nat.toDigits 10 n) = some (.integer n) := by
  have hd : ∀ c ∈ Nat.toDigits 10 n, Text.isDigit c = true := fun _ => Text.isDigit_of_mem_toDigits
  have htrue : Nat.toDigits 10 n ≠ ['t', 'r', 'u', 'e'] := fun h =>
    notMem_digits hd (c := 't') (by decide) (h ▸ List.mem_cons_self)
  have hfalse : Nat.toDigits 10 n ≠ ['f', 'a', 'l', 's', 'e'] := fun h =>
    notMem_digits hd (c := 'f') (by decide) (h ▸ List.mem_cons_self)
  rw [ofWord?, if_neg htrue, if_neg hfalse, isMoment_digits hd, float?_digits hd, integer?_toDigits hn]
  rfl

theorem readWord_append {word rest : List Char} {v : Value} (hw : ∀ c ∈ word, endsWord c = false)
    (hv : ofWord? word = some v) : readWord (word ++ '\n' :: rest) = .ok (v, '\n' :: rest) := by
  have hspan : (word ++ '\n' :: rest).span (!endsWord ·) = (word, '\n' :: rest) := by
    refine Text.span_append_of_head (fun c hc => by rw [hw c hc]; rfl) ?_
    rintro c ⟨⟩
    rfl
  have hsplit : splitWord (word ++ '\n' :: rest) = (word, '\n' :: rest) := by
    simp only [splitWord, hspan]
    rfl
  simp only [readWord, hsplit, hv]

/-! ## Scalars -/

/-- A value that is no array and no table. -/
theorem readValue_cons {c : Char} (hc : c ≠ '[') (hc' : c ≠ '\x7b') (fuel depth : Nat) (rest : List Char) :
    readValue (fuel + 1) depth (c :: rest) =
      match readQuoted? (c :: rest) with
      | some r => r.map fun (s, rest) => (.text s, rest)
      | none => readWord (c :: rest) := by
  unfold readValue
  split
  · next h => exact absurd (List.cons.inj h).1 hc
  · next h => exact absurd (List.cons.inj h).1 hc
  · next h => exact absurd (List.cons.inj h).1 hc'
  · next h => exact absurd (List.cons.inj h).1 hc'
  · rfl

theorem readValue_word {c : Char} {word rest : List Char} {v : Value} (hc : c.isAlphanum = true)
    (hw : (c :: word).any endsWord = false) (hv : ofWord? (c :: word) = some v) (fuel depth : Nat) :
    readValue (fuel + 1) depth (c :: word ++ '\n' :: rest) = .ok (v, '\n' :: rest) := by
  have hne {d : Char} (hd : d.isAlphanum = false) : c ≠ d := Text.ne_of_holds hc hd
  rw [List.cons_append, readValue_cons (hne rfl) (hne rfl), readQuoted?_cons (hne rfl) (hne rfl)]
  exact readWord_append (fun d hd => by simpa using List.any_eq_false.mp hw d hd) hv

theorem readValue_write {v : Scalar} (hv : v.InRange) (fuel depth : Nat) (rest : List Char) :
    readValue (fuel + 1) depth (v.write ++ '\n' :: rest) = .ok (v.toValue, '\n' :: rest) := by
  cases v with
  | text s =>
    rw [Scalar.write, List.cons_append, List.append_assoc, readValue_cons (by decide) (by decide), List.singleton_append,
      readQuoted?_write, String.ofList_toList]
    rfl
  | integer n =>
    have hd : ∀ c ∈ Nat.toDigits 10 n, Text.isDigit c = true := fun _ => Text.isDigit_of_mem_toDigits
    have hword := ofWord?_toDigits hv
    obtain ⟨c, word, h⟩ := List.exists_cons_of_ne_nil (@Nat.toDigits_ne_nil n 10)
    have halnum : c.isAlphanum = true := by
      have := Nat.isDigit_of_mem_toDigits (by decide) (by decide) (h ▸ List.mem_cons_self)
      simp [Char.isAlphanum, this]
    rw [h] at hd hword
    rw [Scalar.write, h]
    refine readValue_word halnum (List.any_eq_false.mpr fun d hmem => ?_) hword fuel depth
    have hne {e : Char} (he : Text.isDigit e = false) : d ≠ e := Text.ne_of_holds (hd d hmem) he
    simp [endsWord, isBlank, hne (e := ' ') rfl, hne (e := '\t') rfl, hne (e := '\n') rfl, hne (e := '#') rfl,
      hne (e := ',') rfl, hne (e := ']') rfl, hne (e := '\x7d') rfl]
  | boolean b =>
    cases b with
    | true => exact readValue_word (c := 't') (by decide) (by decide) rfl fuel depth
    | false => exact readValue_word (c := 'f') (by decide) (by decide) rfl fuel depth

theorem skipBlank_cons {c : Char} (hc : isBlank c = false) (rest : List Char) : skipBlank (c :: rest) = c :: rest := by
  simp [skipBlank, hc]

theorem skipBlank_write (v : Scalar) (rest : List Char) : skipBlank (v.write ++ rest) = v.write ++ rest := by
  cases v with
  | text s => rfl
  | integer n =>
    obtain ⟨c, word, h⟩ := List.exists_cons_of_ne_nil (@Nat.toDigits_ne_nil n 10)
    have hc : Text.isDigit c = true := Text.isDigit_of_mem_toDigits (h ▸ List.mem_cons_self)
    have hblank : isBlank c = false := by
      simp [isBlank, Text.ne_of_holds hc (d := ' ') rfl, Text.ne_of_holds hc (d := '\t') rfl]
    rw [Scalar.write, h, List.cons_append, skipBlank_cons hblank]
  | boolean b => cases b <;> rfl

theorem return_notMem_writeChar (c : Char) : '\r' ∉ writeChar c := by
  unfold writeChar
  split
  · next h =>
    intro hmem
    rw [← List.mem_singleton.mp hmem] at h
    exact absurd h (by decide)
  · intro hmem
    simp only [Text.hex, List.mem_cons, List.mem_append, List.mem_replicate] at hmem
    rcases hmem with h | h | ⟨-, h⟩ | h
    · exact absurd h (by decide)
    · exact absurd h (by decide)
    · exact absurd h (by decide)
    · obtain ⟨d, hd, h⟩ := Text.mem_toDigits (by decide) h
      exact absurd h ((show ∀ d < 16, '\r' ≠ d.digitChar by decide) d hd)

theorem return_notMem_scalar (v : Scalar) : '\r' ∉ v.write := by
  cases v with
  | text s =>
    simp only [Scalar.write, List.mem_cons, List.mem_append, List.mem_flatMap, List.not_mem_nil, or_false]
    rintro (h | ⟨c, -, h⟩ | h)
    · exact absurd h (by decide)
    · exact return_notMem_writeChar c h
    · exact absurd h (by decide)
  | integer n => exact fun h => absurd (Text.isDigit_of_mem_toDigits h) (by decide)
  | boolean b => cases b <;> decide

end VaultUsage.Toml
