import Mathlib.Algebra.GroupWithZero.Nat
import VaultUsage.Vault

/-!
# Totals

Sums of words are capped at the largest word. Capping at each step or once at the end is the same, so the
totals of rows depend neither on their order nor on where a list of them is cut (`totals_capped`). No cap brings a
sum down to zero, so they are zero only for rows that hold nothing.
-/

namespace VaultUsage

namespace Usage

theorem toNat_addCapped (a b : UInt64) : (addCapped a b).toNat = min (a.toNat + b.toNat) (UInt64.size - 1) := by
  unfold addCapped
  rw [UInt64.toNat_ofNat_of_lt']
  simp only [UInt64.size]
  omega

theorem toNat_foldl_addCapped (l : List UInt64) (u : UInt64) :
    (l.foldl addCapped u).toNat = min (u.toNat + (l.map UInt64.toNat).sum) (UInt64.size - 1) := by
  induction l generalizing u with
  | nil =>
    have := u.toNat_lt
    simp only [List.foldl_nil, List.map_nil, List.sum_nil, UInt64.size]
    omega
  | cons a l ih =>
    rw [List.foldl_cons, ih, toNat_addCapped, List.map_cons, List.sum_cons]
    omega

theorem eq_of_toNat {u v : Usage} (hc : u.count.toNat = v.count.toNat) (hs : u.size.toNat = v.size.toNat) : u = v := by
  rw [Usage.mk.injEq]
  exact ⟨UInt64.toNat_inj.mp hc, UInt64.toNat_inj.mp hs⟩

theorem eq_zero_iff {u : Usage} : u = ⟨0, 0⟩ ↔ u.count.toNat = 0 ∧ u.size.toNat = 0 := by
  constructor
  · intro h
    subst h
    exact ⟨rfl, rfl⟩
  · intro h
    exact eq_of_toNat h.1 h.2

end Usage

namespace Row

/-! ## Totals -/

theorem foldl_add (rows : List Row) (u : Usage) :
    rows.foldl (fun sum r => sum.add r.usage) u =
      ⟨(rows.map fileCount).foldl Usage.addCapped u.count, (rows.map totalSize).foldl Usage.addCapped u.size⟩ := by
  induction rows generalizing u with
  | nil => rfl
  | cons r rows ih =>
    rw [List.foldl_cons, ih]
    rfl

theorem toNat_totals_count (rows : List Row) :
    (totals rows).count.toNat = min (rows.map fun r => r.fileCount.toNat).sum (UInt64.size - 1) := by
  rw [totals, foldl_add, Usage.toNat_foldl_addCapped, List.map_map]
  simp [Function.comp_def]

theorem toNat_totals_size (rows : List Row) :
    (totals rows).size.toNat = min (rows.map fun r => r.totalSize.toNat).sum (UInt64.size - 1) := by
  rw [totals, foldl_add, Usage.toNat_foldl_addCapped, List.map_map]
  simp [Function.comp_def]

theorem totals_perm {rows rows' : List Row} (h : rows.Perm rows') : totals rows = totals rows' := by
  apply Usage.eq_of_toNat
  · rw [toNat_totals_count, toNat_totals_count, (h.map _).sum_nat]
  · rw [toNat_totals_size, toNat_totals_size, (h.map _).sum_nat]

theorem totals_append (rows more : List Row) : totals (rows ++ more) = (totals rows).add (totals more) := by
  apply Usage.eq_of_toNat
  · simp only [Usage.add, Usage.toNat_addCapped, toNat_totals_count, List.map_append, List.sum_append_nat]
    omega
  · simp only [Usage.add, Usage.toNat_addCapped, toNat_totals_size, List.map_append, List.sum_append_nat]
    omega

theorem totals_eq_zero_iff (rows : List Row) : totals rows = ⟨0, 0⟩ ↔ ∀ r ∈ rows, r.usage = ⟨0, 0⟩ := by
  have hcap (n : Nat) : min n (UInt64.size - 1) = 0 ↔ n = 0 := by
    simp only [UInt64.size]
    omega
  rw [Usage.eq_zero_iff, toNat_totals_count, toNat_totals_size, hcap, hcap, List.sum_eq_zero_iff_forall_eq_nat,
    List.sum_eq_zero_iff_forall_eq_nat, List.forall_mem_map, List.forall_mem_map]
  simp only [Usage.eq_zero_iff, usage, forall_and]

/-! ## Rows with data -/

theorem countWithData_perm {rows rows' : List Row} (h : rows.Perm rows') :
    countWithData rows = countWithData rows' :=
  (h.filter _).length_eq

theorem countWithData_append (rows more : List Row) :
    countWithData (rows ++ more) = countWithData rows + countWithData more := by
  simp [countWithData]

theorem hasData_eq_false_iff (r : Row) : r.hasData = false ↔ r.usage = ⟨0, 0⟩ := by
  simp [hasData, usage]

theorem countWithData_eq_zero_iff (rows : List Row) : countWithData rows = 0 ↔ totals rows = ⟨0, 0⟩ := by
  rw [totals_eq_zero_iff, countWithData, List.length_eq_zero_iff, List.filter_eq_nil_iff]
  simp only [Bool.not_eq_true, hasData_eq_false_iff]

/-- The totals are the sums, each capped once at the end, whatever the order of the rows, and add up as their parts
do. The rows with data are counted along with them: there is none if and only if the totals are zero. -/
theorem totals_capped (rows : List Row) :
    ((totals rows).count.toNat = min (rows.map fun r => r.fileCount.toNat).sum (2 ^ 64 - 1) ∧
        (totals rows).size.toNat = min (rows.map fun r => r.totalSize.toNat).sum (2 ^ 64 - 1)) ∧
      (∀ rows', rows.Perm rows' → totals rows = totals rows') ∧
      (∀ more, totals (rows ++ more) = (totals rows).add (totals more)) ∧
      (countWithData rows = 0 ↔ totals rows = ⟨0, 0⟩) ∧
      (∀ more, countWithData (rows ++ more) = countWithData rows + countWithData more) ∧
      countWithData rows ≤ rows.length :=
  ⟨⟨toNat_totals_count rows, toNat_totals_size rows⟩, fun _ => totals_perm, totals_append rows,
    countWithData_eq_zero_iff rows, countWithData_append rows, List.length_filter_le _ _⟩

/-- The counts go past the largest word and the sizes do not. -/
theorem totals_capped_full :
    let full : Row := ⟨"a", 18446744073709551615, 7⟩
    let more : Row := ⟨"b", 1, 5⟩
    [full, more].Perm [more, full] ∧ totals [full, more] = ⟨18446744073709551615, 12⟩ ∧
      totals [full, more] = totals [more, full] := by
  intro full more
  have hperm : [full, more].Perm [more, full] := .swap _ _ _
  exact ⟨hperm, by decide, (totals_capped [full, more]).2.1 _ hperm⟩

end Row

end VaultUsage
