import VaultUsage.Proofs.IpAddresses
import VaultUsage.Proofs.Percent
import VaultUsage.Proofs.Results
import VaultUsage.Url.Basic

/-!
# Hosts are read back

What reading a host comes to is in a normal form (`Host.IsNormal`): a name in lower case that does not end in a number,
or an address. Whatever is in normal form is read back from its text, and its text ends where the host does.
-/

namespace VaultUsage.Url

/-! ## Labels -/

namespace Label

theorem meaning?_of_isDigit {label : List Char} (h : ∀ c ∈ label, Text.isDigit c = true) :
    meaning? label = some label := by
  unfold meaning?
  split
  · exact absurd (h 'x' List.mem_cons_self) (by decide)
  · rfl

theorem not_turns_of_ascii {label : List Char} (h : ∀ c ∈ label, c.toNat < 0x80) : turns label = false := by
  refine List.any_eq_false.mpr fun c hc => ?_
  rw [direction, if_pos (h c hc)]
  split
  · decide
  · split <;> decide

theorem toNat_lt_of_isDigit {c : Char} (h : Text.isDigit c = true) : c.toNat < 0x80 := by
  simp only [Text.isDigit, Bool.and_eq_true, decide_eq_true_eq] at h
  have : c.toNat ≤ 57 := h.2
  omega

theorem areGood_of_isDigit {labels : List (List Char)} (h : ∀ label ∈ labels, ∀ c ∈ label, Text.isDigit c = true) :
    areGood labels = true := by
  have hmeaning : labels.mapM meaning? = some labels := by
    induction labels with
    | nil => rfl
    | cons label labels ih =>
      obtain ⟨hlabel, hlabels⟩ := List.forall_mem_cons.mp h
      rw [List.mapM_cons, meaning?_of_isDigit hlabel, ih hlabels]
      rfl
  have hturns : labels.any turns = false := List.any_eq_false.mpr fun label hlabel => by
    rw [not_turns_of_ascii fun c hc => toNat_lt_of_isDigit (h label hlabel c hc)]
    decide
  simp only [areGood, hmeaning, hturns, Bool.not_false, Bool.true_or]

end Label

theorem decodeBytes_of_notMem {text : List Char} (h : '%' ∉ text) : decodeBytes text = text := by
  induction text with
  | nil => rfl
  | cons c text ih =>
    obtain ⟨hc, htext⟩ := List.ne_and_not_mem_of_not_mem_cons h
    rw [decodeBytes_cons hc.symm, ih htext]

theorem toLower_cases (c : Char) :
    c.toLower = c ∨ 65 ≤ c.toNat ∧ c.toNat ≤ 90 ∧ c.toLower.toNat = c.toNat + 32 := by
  by_cases h : c.val ≥ 'A'.val ∧ c.val ≤ 'Z'.val
  · have hval : c.toLower.val = c.val + 32 := congrArg Char.val (dif_pos h)
    have hlow : 65 ≤ c.val.toNat := h.1
    have hhigh : c.val.toNat ≤ 90 := h.2
    refine .inr ⟨hlow, hhigh, ?_⟩
    rw [Char.toNat, hval, UInt32.toNat_add]
    exact Nat.mod_eq_of_lt (show c.val.toNat + 32 < UInt32.size by rw [UInt32.size]; omega)
  · exact .inl (dif_neg h)

theorem toLower_toLower (c : Char) : c.toLower.toLower = c.toLower := by
  rcases toLower_cases c.toLower with h | ⟨-, hhigh, -⟩
  · exact h
  · rcases toLower_cases c with h | ⟨hlow, -, hlower⟩
    · rw [h, h]
    · omega

/-! ## Hosts -/

namespace Host

/-- A character of a name. -/
def isNameChar (c : Char) : Bool := !isForbidden c && c.toLower == c

/-- What reading a host comes to. -/
def IsNormal : Host → Prop
  | domain name => Only isNameChar name ∧ Label.areGood (splitAt (· == '.') name.toList) = true ∧ name ≠ "" ∧
      endsInNumber name.toList = false
  | ipv4 address => address < 256 ^ 4
  | ipv6 groups => groups.length = 8 ∧ ∀ n ∈ groups, n < 0x10000

theorem isNormal_read {text : List Char} {host : Host} (h : Host.read text = .ok host) : host.IsNormal := by
  unfold Host.read at h
  split at h
  · unfold readBracketed at h
    split at h
    · obtain ⟨groups, hgroups, rfl⟩ := map_eq_ok.mp h
      exact readIpv6_ok hgroups
    · cases h
  · dsimp only at h
    split at h
    · cases h
    next hbad =>
    split at h
    · cases h
    next hempty =>
    split at h
    · obtain ⟨address, haddress, rfl⟩ := map_eq_ok.mp h
      exact readIpv4_ok haddress
    next hnumber =>
    cases h
    simp only [Bool.or_eq_true, not_or, Bool.not_eq_true, List.any_eq_false, Bool.not_eq_false'] at hbad
    obtain ⟨hforbidden, hgood⟩ := hbad
    refine ⟨fun c hc => ?_, ?_, ?_, ?_⟩
    · rw [String.toList_ofList] at hc
      obtain ⟨d, -, rfl⟩ := List.mem_map.mp hc
      rw [isNameChar, toLower_toLower, beq_self_eq_true, Bool.and_true]
      simpa using hforbidden _ hc
    · rw [String.toList_ofList]
      exact hgood
    · simpa [String.ofList_eq_empty_iff] using hempty
    · rw [String.toList_ofList]
      simpa using hnumber

theorem read_name {name : List Char} (hc : ∀ c ∈ name, isNameChar c = true) (hne : name ≠ [])
    (hgood : Label.areGood (splitAt (· == '.') name) = true) :
    Host.read name =
      if endsInNumber name then (readIpv4 name).map ipv4 else .ok (domain (String.ofList name)) := by
  have hforbidden : ∀ c ∈ name, isForbidden c = false := fun c h => by
    have := hc c h
    simp only [isNameChar, Bool.and_eq_true, Bool.not_eq_true'] at this
    exact this.1
  have hlower : name.map Char.toLower = name := by
    conv => rhs; rw [← List.map_id name]
    refine List.map_congr_left fun c h => ?_
    have := hc c h
    simp only [isNameChar, Bool.and_eq_true, beq_iff_eq] at this
    exact this.2
  have hpercent : '%' ∉ name := fun h => absurd (hforbidden _ h) (by decide)
  have hany : name.any isForbidden = false := List.any_eq_false.mpr fun c h => by simp [hforbidden c h]
  unfold Host.read
  split
  · exact absurd (hforbidden '[' List.mem_cons_self) (by decide)
  · simp only [decodeBytes_of_notMem hpercent, hlower, hany, hgood, List.isEmpty_eq_false_iff.mpr hne, Bool.not_true,
      Bool.or_self, Bool.false_eq_true, if_false]

theorem only_isNameChar_ipv4Text (address : Nat) : Only isNameChar (ipv4Text address) :=
  only_ipv4Text (by decide) (by decide) address

/-- A character of an address in brackets. -/
def isGroupChar (c : Char) : Bool := Text.isHexDigit c || c == ':'

theorem only_isGroupChar_ipv6Text (groups : List Nat) : Only isGroupChar (ipv6Text groups) :=
  only_ipv6Text (by decide) (by decide) groups

theorem toList_render_ipv6 (groups : List Nat) :
    (ipv6 groups).render.toList = '[' :: ((ipv6Text groups).toList ++ [']']) := by
  simp [Host.render]

theorem read_render {host : Host} (h : host.IsNormal) : Host.read host.render.toList = .ok host := by
  cases host with
  | domain name =>
    obtain ⟨hc, hgood, hne, hnumber⟩ := h
    have hne : name.toList ≠ [] := fun h => hne (String.toList_eq_nil_iff.mp h)
    rw [Host.render, read_name hc hne hgood, hnumber, String.ofList_toList]
    rfl
  | ipv4 address =>
    have hsplit := splitAt_ipv4Text address
    have hne : (ipv4Text address).toList ≠ [] := by
      intro he
      rw [he] at hsplit
      simp [splitAt, ipv4Bytes] at hsplit
    have hgood : Label.areGood (splitAt (· == '.') (ipv4Text address).toList) = true := by
      rw [hsplit]
      refine Label.areGood_of_isDigit fun label hlabel c => ?_
      obtain ⟨n, -, rfl⟩ := List.mem_map.mp hlabel
      exact Text.isDigit_of_mem_toDigits
    rw [Host.render, read_name (only_isNameChar_ipv4Text address) hne hgood, endsInNumber_ipv4Text, if_pos rfl,
      readIpv4_ipv4Text h]
    rfl
  | ipv6 groups =>
    have hread : Host.read ('[' :: ((ipv6Text groups).toList ++ [']'])) =
        readBracketed ((ipv6Text groups).toList ++ [']']) := rfl
    rw [toList_render_ipv6, hread, readBracketed, List.getLast?_concat, if_pos rfl, List.dropLast_concat,
      readIpv6_ipv6Text h.1 h.2]
    rfl

/-- A host ends at the first colon outside of brackets, so its text is all of it. -/
theorem hostText_render {host : Host} (h : host.IsNormal) (rest : List Char) :
    hostText false (host.render.toList ++ rest) = host.render.toList ++ hostText false rest := by
  have hname {text : List Char} (ht : ∀ c ∈ text, isNameChar c = true) :
      hostText false (text ++ rest) = text ++ hostText false rest := by
    induction text with
    | nil => rfl
    | cons c text ih =>
      obtain ⟨hc, ht⟩ := List.forall_mem_cons.mp ht
      have hcolon : c ≠ ':' := fun h => absurd (h ▸ hc) (by decide)
      have hbracket : c ≠ '[' := fun h => absurd (h ▸ hc) (by decide)
      simp [hostText, hcolon, hbracket, ih ht]
  have hgroups {text more : List Char} (ht : ∀ c ∈ text, isGroupChar c = true) :
      hostText true (text ++ more) = text ++ hostText true more := by
    induction text with
    | nil => rfl
    | cons c text ih =>
      obtain ⟨hc, ht⟩ := List.forall_mem_cons.mp ht
      have hbracket : c ≠ ']' := fun h => absurd (h ▸ hc) (by decide)
      simp [hostText, hbracket, ih ht]
  cases host with
  | domain name => exact hname h.1
  | ipv4 address => exact hname (only_isNameChar_ipv4Text address)
  | ipv6 groups =>
    have hstart (text : List Char) : hostText false ('[' :: text) = '[' :: hostText true text := rfl
    have hend : hostText true (']' :: rest) = ']' :: hostText false rest := rfl
    rw [toList_render_ipv6, List.cons_append, List.append_assoc, List.singleton_append, hstart,
      hgroups (only_isGroupChar_ipv6Text groups), hend, List.cons_append, List.append_assoc, List.singleton_append]

theorem at_notMem_render {host : Host} (h : host.IsNormal) : '@' ∉ host.render.toList := by
  intro hat
  cases host with
  | domain name => exact absurd (h.1 _ hat) (by decide)
  | ipv4 address => exact absurd (only_isNameChar_ipv4Text address _ hat) (by decide)
  | ipv6 groups =>
    rw [toList_render_ipv6] at hat
    simp only [List.mem_cons, List.mem_append, List.not_mem_nil, or_false, Char.reduceEq, false_or] at hat
    exact absurd (only_isGroupChar_ipv6Text groups _ hat) (by decide)

theorem render_ne_nil {host : Host} (h : host.IsNormal) : host.render.toList ≠ [] := by
  intro hnil
  have hread := read_render h
  rw [hnil] at hread
  cases hread

end Host

end VaultUsage.Url
