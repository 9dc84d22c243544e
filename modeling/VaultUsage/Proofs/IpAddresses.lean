import Mathlib.Data.List.Induction
import VaultUsage.Proofs.Numerals
import VaultUsage.Url.Host

/-!
# Addresses are read back

An IPv4 address is four bytes and an IPv6 address eight groups of 16 bits, whatever they are read from. Written as
text, with a double colon for the longest run of zeros (`IsRun`), they are read as the same address.
-/

namespace VaultUsage.Url

/-! ## Parts -/

theorem splitAt_eq_splitOnP (p : Char → Bool) (text : List Char) : splitAt p text = text.splitOnP p := by
  induction text with
  | nil => rfl
  | cons c rest ih =>
    rw [splitAt, List.splitOnP_cons_eq_if_modifyHead, ih]
    split
    · rfl
    · obtain ⟨part, parts, hs⟩ := List.exists_cons_of_ne_nil (List.splitOnP_ne_nil p rest)
      rw [hs]
      rfl

/-- Parts are found again between separators. -/
theorem splitAt_intercalate {p : Char → Bool} {sep : Char} (hsep : p sep = true) {parts : List (List Char)}
    (hne : parts ≠ []) (hp : ∀ part ∈ parts, ∀ c ∈ part, p c = false) :
    splitAt p ([sep].intercalate parts) = parts := by
  rw [splitAt_eq_splitOnP]
  induction parts with
  | nil => exact absurd rfl hne
  | cons part parts ih =>
    obtain ⟨hpart, hparts⟩ := List.forall_mem_cons.mp hp
    cases parts with
    | nil => rw [List.intercalate_singleton, List.splitOnP_eq_singleton hpart]
    | cons next parts =>
      rw [List.intercalate_cons_cons, List.append_assoc, List.singleton_append,
        List.splitOnP_append_cons_of_forall_mem hpart sep hsep, ih (List.cons_ne_nil _ _) hparts]

theorem mem_intercalate {sep c : Char} {parts : List (List Char)} (h : c ∈ [sep].intercalate parts) :
    c = sep ∨ ∃ part ∈ parts, c ∈ part := by
  induction parts with
  | nil => cases h
  | cons part parts ih =>
    cases parts with
    | nil => exact .inr ⟨part, List.mem_cons_self, by simpa using h⟩
    | cons next parts =>
      rw [List.intercalate_cons_cons, List.append_assoc, List.singleton_append] at h
      rcases List.mem_append.mp h with h | h
      · exact .inr ⟨part, List.mem_cons_self, h⟩
      · rcases List.mem_cons.mp h with rfl | h
        · exact .inl rfl
        · exact (ih h).imp_right fun ⟨part, hp, hc⟩ => ⟨part, List.mem_cons_of_mem _ hp, hc⟩

/-! ## IPv4 -/

theorem ipv4Number?_toDigits (n : Nat) : ipv4Number? (Nat.toDigits 10 n) = some n := by
  have hdigits : (Nat.toDigits 10 n).all (fun c => (Text.hexValue? c).any (· < 10)) = true := by
    refine List.all_eq_true.mpr fun c hc => ?_
    obtain ⟨d, hd, rfl⟩ := Text.mem_toDigits (by decide) hc
    simp [Text.hexValue?_digitChar d (by omega), hd]
  have hvalue : Text.ofDigits 10 (Nat.toDigits 10 n) = n := Text.ofDigits_toDigits (by decide) (by decide) n
  by_cases hn : n = 0
  · rw [hn]
    rfl
  · have hzero : ∀ rest, Nat.toDigits 10 n ≠ '0' :: rest := fun rest h =>
      hn (Text.eq_zero_of_head_toDigits (by rw [h]; rfl))
    unfold ipv4Number?
    split
    · next h => exact absurd h Nat.toDigits_ne_nil
    · next h => exact absurd h (hzero _)
    · next h => exact absurd h (hzero _)
    · next h => exact absurd h (hzero _)
    · simp only [hdigits, if_true, hvalue]

theorem foldl_bytes_lt {numbers : List Nat} (h : ∀ n ∈ numbers, n ≤ 255) :
    ∀ m, numbers.foldl (fun n x => n * 256 + x) m < (m + 1) * 256 ^ numbers.length := by
  induction numbers with
  | nil =>
    intro m
    simp
  | cons n numbers ih =>
    intro m
    obtain ⟨hn, hnumbers⟩ := List.forall_mem_cons.mp h
    calc (n :: numbers).foldl (fun n x => n * 256 + x) m
      _ = numbers.foldl (fun n x => n * 256 + x) (m * 256 + n) := rfl
      _ < (m * 256 + n + 1) * 256 ^ numbers.length := ih hnumbers _
      _ ≤ (m + 1) * 256 * 256 ^ numbers.length := Nat.mul_le_mul_right _ (by omega)
      _ = (m + 1) * 256 ^ (numbers.length + 1) := by rw [Nat.mul_assoc, Nat.pow_succ']

theorem ipv4OfNumbers?_lt {numbers : List Nat} {address : Nat} (h : ipv4OfNumbers? numbers = some address) :
    address < 256 ^ 4 := by
  unfold ipv4OfNumbers? at h
  split at h
  · cases h
  next last _ =>
  dsimp only at h
  split at h
  · cases h
  next hgood =>
  cases h
  simp only [Bool.or_eq_true, decide_eq_true_eq, List.any_eq_true, not_or, not_exists, not_and, Nat.not_lt,
    Nat.not_le] at hgood
  obtain ⟨⟨hlength, hbytes⟩, hlast⟩ := hgood
  have hleading := foldl_bytes_lt hbytes 0
  generalize numbers.dropLast = leading at *
  generalize leading.foldl _ 0 = n at *
  calc n * Nat.pow 256 (4 - leading.length) + last
    _ < n * 256 ^ (4 - leading.length) + 256 ^ (4 - leading.length) := Nat.add_lt_add_left hlast _
    _ = (n + 1) * 256 ^ (4 - leading.length) := (Nat.succ_mul _ _).symm
    _ ≤ 256 ^ leading.length * 256 ^ (4 - leading.length) := Nat.mul_le_mul_right _ (by omega)
    _ = 256 ^ 4 := by rw [← Nat.pow_add, Nat.add_sub_cancel' (Nat.le_succ_of_le hlength)]

theorem readIpv4_ok {text : List Char} {address : Nat} (h : readIpv4 text = .ok address) : address < 256 ^ 4 := by
  unfold readIpv4 at h
  split at h
  · cases h
  · split at h
    · next haddress =>
      cases h
      exact ipv4OfNumbers?_lt haddress
    · cases h

/-- The bytes of an address, the highest first. -/
def ipv4Bytes (n : Nat) : List Nat := [n / 0x1000000 % 256, n / 0x10000 % 256, n / 256 % 256, n % 256]

theorem toList_ipv4Text (n : Nat) : (ipv4Text n).toList = ['.'].intercalate ((ipv4Bytes n).map (Nat.toDigits 10)) := by
  rw [ipv4Text, String.toList_intercalate, List.map_map]
  have hdigits : String.toList ∘ toString = Nat.toDigits 10 := funext fun n => Nat.toList_repr
  rw [hdigits]
  rfl

theorem only_ipv4Text {p : Char → Bool} (hdot : p '.' = true) (hd : ∀ n < 10, p n.digitChar = true) (address : Nat) :
    Only p (ipv4Text address) := by
  intro c hc
  rw [toList_ipv4Text] at hc
  rcases mem_intercalate hc with rfl | ⟨part, hpart, hc⟩
  · exact hdot
  · obtain ⟨n, -, rfl⟩ := List.mem_map.mp hpart
    obtain ⟨d, hlt, rfl⟩ := Text.mem_toDigits (by decide) hc
    exact hd d hlt

theorem splitAt_ipv4Text (n : Nat) :
    splitAt (· == '.') (ipv4Text n).toList = (ipv4Bytes n).map (Nat.toDigits 10) := by
  rw [toList_ipv4Text]
  refine splitAt_intercalate rfl (by simp [ipv4Bytes]) fun part hpart c hc => ?_
  obtain ⟨m, -, rfl⟩ := List.mem_map.mp hpart
  have hdigit := Text.isDigit_of_mem_toDigits hc
  exact beq_eq_false_iff_ne.mpr fun h => by rw [h] at hdigit; exact absurd hdigit (by decide)

theorem labels_ipv4Text (n : Nat) : labels (ipv4Text n).toList = (ipv4Bytes n).map (Nat.toDigits 10) := by
  have hlast : ((ipv4Bytes n).map (Nat.toDigits 10)).getLast? ≠ some [] := by
    simp [ipv4Bytes, Nat.toDigits_ne_nil]
  simp only [labels, splitAt_ipv4Text, if_neg hlast]

theorem endsInNumber_ipv4Text (n : Nat) : endsInNumber (ipv4Text n).toList = true := by
  have hlast : ((ipv4Bytes n).map (Nat.toDigits 10)).getLast? = some (Nat.toDigits 10 (n % 256)) := rfl
  simp only [endsInNumber, labels_ipv4Text, hlast, ipv4Number?_toDigits, Option.isSome_some, Bool.or_true]

theorem readIpv4_ipv4Text {n : Nat} (h : n < 256 ^ 4) : readIpv4 (ipv4Text n).toList = .ok n := by
  have hnumbers : ((ipv4Bytes n).map (Nat.toDigits 10)).mapM ipv4Number? = some (ipv4Bytes n) := by
    simp [ipv4Bytes, ipv4Number?_toDigits]
  have haddress : ipv4OfNumbers? (ipv4Bytes n) = some n := by
    have hbyte (m : Nat) : m % 256 ≤ 255 := by omega
    have hlast : ¬Nat.pow 256 1 ≤ n % 256 := by
      rw [show Nat.pow 256 1 = 256 from rfl]
      omega
    simp [ipv4OfNumbers?, ipv4Bytes, Nat.not_lt.mpr (hbyte _), hlast]
    omega
  simp only [readIpv4, labels_ipv4Text, hnumbers, haddress]

/-! ## IPv6 -/

theorem hex_one (n : Nat) : Text.hex 1 n = Nat.toDigits 16 n := by
  have hlength : 1 - (Nat.toDigits 16 n).length = 0 := Nat.sub_eq_zero_of_le Nat.length_toDigits_pos
  rw [Text.hex, hlength]
  rfl

theorem isHexDigit_of_mem_toDigits {n : Nat} {c : Char} (h : c ∈ Nat.toDigits 16 n) : Text.isHexDigit c = true := by
  obtain ⟨d, hd, rfl⟩ := Text.mem_toDigits (by decide) h
  rw [Text.isHexDigit, Text.hexValue?_digitChar d hd]
  rfl

theorem ipv6Group?_toDigits {n : Nat} (h : n < 0x10000) : ipv6Group? (Nat.toDigits 16 n) = some n := by
  have hpos : 1 ≤ (Nat.toDigits 16 n).length := Nat.length_toDigits_pos
  have hlength : (Nat.toDigits 16 n).length ≤ 4 := (Nat.length_toDigits_le_iff (by decide) (by decide)).mpr h
  have hdigits : (Nat.toDigits 16 n).all Text.isHexDigit = true :=
    List.all_eq_true.mpr fun c => isHexDigit_of_mem_toDigits
  simp only [ipv6Group?, hpos, hlength, hdigits, decide_true, Bool.and_self, if_true,
    Text.ofDigits_toDigits (by decide : 1 < 16) (by decide)]

theorem ofDigits_hex_lt (digits : List Char) : Text.ofDigits 16 digits < 16 ^ digits.length := by
  induction digits using List.reverseRecOn with
  | nil => decide
  | append_singleton digits c ih =>
    have hvalue : (Text.hexValue? c).getD 0 ≤ 15 := by
      unfold Text.hexValue?
      split
      · next h =>
        have : c.toNat ≤ 57 := h.2
        simp only [Option.getD_some, Char.reduceToNat]
        omega
      split
      · next h =>
        have : c.toNat ≤ 102 := h.2
        simp only [Option.getD_some, Char.reduceToNat]
        omega
      split
      · next h =>
        have : c.toNat ≤ 70 := h.2
        simp only [Option.getD_some, Char.reduceToNat]
        omega
      · exact Nat.zero_le _
    rw [Text.ofDigits_concat, List.length_append, List.length_singleton, Nat.pow_succ]
    omega

theorem ipv6Group?_lt {text : List Char} {n : Nat} (h : ipv6Group? text = some n) : n < 0x10000 := by
  unfold ipv6Group? at h
  split at h
  · next hgood =>
    cases h
    simp only [Bool.and_eq_true, decide_eq_true_eq] at hgood
    exact Nat.lt_of_lt_of_le (ofDigits_hex_lt text) (Nat.pow_le_pow_right (by decide) hgood.1.2)
  · cases h

theorem decimalByte?_le {text : List Char} {n : Nat} (h : decimalByte? text = some n) : n ≤ 255 := by
  unfold decimalByte? at h
  split at h
  · cases h
  · cases h
  · dsimp only at h
    split at h
    · next hgood =>
      cases h
      simp only [Bool.and_eq_true, decide_eq_true_eq] at hgood
      exact hgood.2
    · cases h

theorem forall_mem_of_mapM {α β : Type} {f : α → Option β} {p : β → Prop} (hf : ∀ a b, f a = some b → p b)
    {l : List α} {l' : List β} (h : l.mapM f = some l') : ∀ b ∈ l', p b := by
  induction l generalizing l' with
  | nil =>
    cases h
    exact nofun
  | cons a l ih =>
    rw [List.mapM_cons] at h
    obtain ⟨b, hb, h⟩ := Option.bind_eq_some_iff.mp h
    obtain ⟨bs, hbs, h⟩ := Option.bind_eq_some_iff.mp h
    cases h
    exact List.forall_mem_cons.mpr ⟨hf a b hb, ih hbs⟩

theorem ipv4Groups?_lt {text : List Char} {groups : List Nat} (h : ipv4Groups? text = some groups) :
    ∀ n ∈ groups, n < 0x10000 := by
  unfold ipv4Groups? at h
  split at h
  · next a b c d hbytes =>
    cases h
    have hle : ∀ n ∈ [a, b, c, d], n ≤ 255 := forall_mem_of_mapM (fun _ _ => decimalByte?_le) hbytes
    simp only [List.forall_mem_cons] at hle ⊢
    obtain ⟨ha, hb, hc, hd, -⟩ := hle
    exact ⟨by omega, by omega, nofun⟩
  · cases h

theorem ipv6Groups?_lt {mixed : Bool} {texts : List (List Char)} {groups : List Nat}
    (h : ipv6Groups? mixed texts = some groups) : ∀ n ∈ groups, n < 0x10000 := by
  induction texts generalizing groups with
  | nil =>
    cases h
    exact nofun
  | cons text texts ih =>
    cases texts with
    | nil =>
      unfold ipv6Groups? at h
      split at h
      · next n hn =>
        cases h
        simpa using ipv6Group?_lt hn
      · split at h
        · exact ipv4Groups?_lt h
        · cases h
    | cons next texts =>
      unfold ipv6Groups? at h
      split at h
      · next n l hn hl =>
        cases h
        exact List.forall_mem_cons.mpr ⟨ipv6Group?_lt hn, ih hl⟩
      · cases h

theorem ipv6Groups?_toDigits {mixed : Bool} {groups : List Nat} (h : ∀ n ∈ groups, n < 0x10000) :
    ipv6Groups? mixed (groups.map (Nat.toDigits 16)) = some groups := by
  induction groups with
  | nil => rfl
  | cons n groups ih =>
    obtain ⟨hn, hgroups⟩ := List.forall_mem_cons.mp h
    cases groups with
    | nil => simp [ipv6Groups?, ipv6Group?_toDigits hn]
    | cons m groups =>
      have ih := ih hgroups
      simp only [List.map_cons] at ih ⊢
      simp only [ipv6Groups?, ipv6Group?_toDigits hn, ih]

theorem toList_groupsText (groups : List Nat) :
    (groupsText groups).toList = [':'].intercalate (groups.map (Nat.toDigits 16)) := by
  rw [groupsText, String.toList_intercalate, List.map_map]
  have hdigits : (String.toList ∘ fun n => String.ofList (Text.hex 1 n)) = Nat.toDigits 16 := by
    funext n
    rw [Function.comp_apply, String.toList_ofList, hex_one]
  rw [hdigits]
  rfl

theorem only_ipv6Text {p : Char → Bool} (hcolon : p ':' = true) (hd : ∀ n < 16, p n.digitChar = true)
    (groups : List Nat) : Only p (ipv6Text groups) := by
  have hgroups (groups : List Nat) : Only p (groupsText groups) := by
    intro c hc
    rw [toList_groupsText] at hc
    rcases mem_intercalate hc with rfl | ⟨part, hpart, hc⟩
    · exact hcolon
    · obtain ⟨n, -, rfl⟩ := List.mem_map.mp hpart
      obtain ⟨d, hlt, rfl⟩ := Text.mem_toDigits (by decide) hc
      exact hd d hlt
  have hcolons : Only p "::" := .of_all (by simp [hcolon])
  unfold ipv6Text
  split
  split
  · exact hgroups groups
  · exact ((hgroups _).append hcolons).append (hgroups _)

theorem colon_notMem_toDigits (n : Nat) : ':' ∉ Nat.toDigits 16 n :=
  fun h => absurd (isHexDigit_of_mem_toDigits h) (by decide)

theorem groupTexts_groupsText (groups : List Nat) :
    groupTexts (groupsText groups).toList = groups.map (Nat.toDigits 16) := by
  rw [toList_groupsText, groupTexts]
  cases groups with
  | nil => rfl
  | cons n groups =>
    have hne : ([':'].intercalate ((n :: groups).map (Nat.toDigits 16))).isEmpty = false := by
      rw [List.isEmpty_eq_false_iff]
      obtain ⟨c, digits, hd⟩ := List.exists_cons_of_ne_nil (@Nat.toDigits_ne_nil n 16)
      cases groups <;> simp [hd]
    rw [hne]
    refine splitAt_intercalate rfl (by simp) fun part hpart c hc => ?_
    obtain ⟨m, -, rfl⟩ := List.mem_map.mp hpart
    exact beq_eq_false_iff_ne.mpr fun h => colon_notMem_toDigits m (h ▸ hc)

/-- What comes before a double colon stays in front, if it has no colon in it. -/
theorem cutDoubleColon_append {text : List Char} (h : ':' ∉ text) (rest : List Char) :
    cutDoubleColon (text ++ rest) = (text ++ (cutDoubleColon rest).1, (cutDoubleColon rest).2) := by
  induction text with
  | nil => rfl
  | cons c text ih =>
    obtain ⟨hc, htext⟩ := List.ne_and_not_mem_of_not_mem_cons h
    have hcons : cutDoubleColon (c :: (text ++ rest)) =
        (c :: (cutDoubleColon (text ++ rest)).1, (cutDoubleColon (text ++ rest)).2) := by
      rw [cutDoubleColon]
      exact fun _ he _ => absurd he.symm hc
    rw [List.cons_append, hcons, ih htext]
    rfl

theorem cutDoubleColon_colon {c : Char} (hc : c ≠ ':') (rest : List Char) :
    cutDoubleColon (':' :: c :: rest) = (':' :: (cutDoubleColon (c :: rest)).1, (cutDoubleColon (c :: rest)).2) := by
  rw [cutDoubleColon]
  intro rest' _ h
  exact absurd (List.cons.inj h).1 hc

/-- There is no double colon among groups. -/
theorem cutDoubleColon_groups (groups : List Nat) (rest : List Char) :
    cutDoubleColon ([':'].intercalate (groups.map (Nat.toDigits 16)) ++ rest) =
      ([':'].intercalate (groups.map (Nat.toDigits 16)) ++ (cutDoubleColon rest).1, (cutDoubleColon rest).2) := by
  induction groups with
  | nil => rfl
  | cons n groups ih =>
    cases groups with
    | nil => simpa using cutDoubleColon_append (colon_notMem_toDigits n) rest
    | cons m groups =>
      -- the group behind the colon is not empty, and no colon itself
      obtain ⟨c, more, hc, hne⟩ : ∃ c more,
          [':'].intercalate ((m :: groups).map (Nat.toDigits 16)) = c :: more ∧ c ≠ ':' := by
        obtain ⟨c, digits, hd⟩ := List.exists_cons_of_ne_nil (@Nat.toDigits_ne_nil m 16)
        have hne : c ≠ ':' := fun h => colon_notMem_toDigits m (by rw [hd, h]; exact List.mem_cons_self)
        cases groups with
        | nil => exact ⟨c, digits, by simp [hd], hne⟩
        | cons k groups => exact ⟨c, _, by rw [List.map_cons, List.map_cons, List.intercalate_cons_cons, hd]; rfl, hne⟩
      rw [List.map_cons, List.map_cons, List.intercalate_cons_cons, ← List.map_cons, List.append_assoc,
        List.append_assoc, cutDoubleColon_append (colon_notMem_toDigits n)]
      rw [hc, List.cons_append] at ih
      rw [hc, List.singleton_append, List.cons_append, cutDoubleColon_colon hne, ih]
      simp

/-! ## The longest run of zeros -/

/-- What starts at the given place with as many zeros. -/
def IsRun (groups : List Nat) (run : Nat × Nat) : Prop := List.replicate run.2 0 <+: groups.drop run.1

theorem isRun_longestZeros (groups : List Nat) : IsRun groups (longestZeros groups) := by
  unfold longestZeros
  refine List.foldlRecOn _ _ (motive := IsRun groups) (List.nil_prefix) fun best h i _ => ?_
  dsimp only
  split
  · have hzero : ∀ n ∈ (groups.drop i).takeWhile (· == 0), n = 0 := fun n hn =>
      beq_iff_eq.mp (List.all_eq_true.mp List.all_takeWhile n hn)
    rw [IsRun, ← List.eq_replicate_of_mem hzero]
    exact List.takeWhile_prefix _
  · exact h

theorem IsRun.eq_append {groups : List Nat} {run : Nat × Nat} (h : IsRun groups run) :
    groups = groups.take run.1 ++ List.replicate run.2 0 ++ groups.drop (run.1 + run.2) := by
  obtain ⟨rest, hrest⟩ := h
  have hdrop : groups.drop (run.1 + run.2) = rest := by
    rw [← List.drop_drop, ← hrest, List.drop_left' (List.length_replicate ..)]
  rw [hdrop, List.append_assoc, hrest, List.take_append_drop]

theorem readIpv6_ipv6Text {groups : List Nat} (hl : groups.length = 8) (hg : ∀ n ∈ groups, n < 0x10000) :
    readIpv6 (ipv6Text groups).toList = .ok groups := by
  have hrun := (isRun_longestZeros groups).eq_append
  unfold ipv6Text
  generalize longestZeros groups = run at hrun
  obtain ⟨start, run⟩ := run
  dsimp only at hrun ⊢
  split
  · have hcut : cutDoubleColon (groupsText groups).toList = ((groupsText groups).toList, none) := by
      rw [toList_groupsText]
      simpa [cutDoubleColon] using cutDoubleColon_groups groups []
    simp only [readIpv6, hcut, groupTexts_groupsText, ipv6Groups?_toDigits hg, hl, if_true]
  · next htwo =>
    generalize hleft : groups.take start = left at *
    generalize hright : groups.drop (start + run) = right at *
    have hcut : cutDoubleColon (groupsText left ++ "::" ++ groupsText right).toList =
        ((groupsText left).toList, some (groupsText right).toList) := by
      rw [String.toList_append, String.toList_append, toList_groupsText left, List.append_assoc]
      simpa [cutDoubleColon] using cutDoubleColon_groups left (':' :: ':' :: (groupsText right).toList)
    have hlength := congrArg List.length hrun
    simp only [List.length_append, List.length_replicate, hl] at hlength
    have hlt : left.length + right.length < 8 := by omega
    have hrest : 8 - left.length - right.length = run := by omega
    have hgl : ∀ n ∈ left, n < 0x10000 := fun n hn => hg n (by rw [hrun]; simp [hn])
    have hgr : ∀ n ∈ right, n < 0x10000 := fun n hn => hg n (by rw [hrun]; simp [hn])
    simp only [readIpv6, hcut, groupTexts_groupsText, ipv6Groups?_toDigits hgl, ipv6Groups?_toDigits hgr, hlt, hrest,
      if_true, ← hrun]

theorem readIpv6_ok {text : List Char} {groups : List Nat} (h : readIpv6 text = .ok groups) :
    groups.length = 8 ∧ ∀ n ∈ groups, n < 0x10000 := by
  unfold readIpv6 at h
  split at h
  · split at h
    · next groups' hgroups =>
      split at h
      · next hl =>
        cases h
        exact ⟨hl, ipv6Groups?_lt hgroups⟩
      · cases h
    · cases h
  · split at h
    · next left right hleft hright =>
      split at h
      · next hl =>
        cases h
        refine ⟨by simp; omega, fun n hn => ?_⟩
        rcases List.mem_append.mp hn with hn | hn
        · rcases List.mem_append.mp hn with hn | hn
          · exact ipv6Groups?_lt hleft n hn
          · rw [List.eq_of_mem_replicate hn]
            decide
        · exact ipv6Groups?_lt hright n hn
      · cases h
    · cases h

end VaultUsage.Url
