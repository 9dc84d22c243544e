import VaultUsage.Proofs.NameMaps
import VaultUsage.Proofs.Utf8
import VaultUsage.Report.Markdown

/-!
# The order of a breakdown

The entries of a map have different names, so that the largest size first and then the order of names in UTF-8 leaves
one order of them only (`eq_sort`). In whatever order a map gives its entries, the report is the same.
-/

namespace VaultUsage

namespace Breakdown

/-- The larger size comes first, of equal sizes the name with the smaller bytes. -/
def Before (a b : String × Usage) : Prop :=
  b.2.size < a.2.size ∨ a.2.size = b.2.size ∧ Text.utf8 a.1 < Text.utf8 b.1

instance : DecidableRel Before := fun _ _ => inferInstanceAs (Decidable (_ ∨ _))

theorem before_iff (a b : String × Usage) :
    Before a b ↔ b.2.size.toNat < a.2.size.toNat ∨ a.2.size.toNat = b.2.size.toNat ∧ a.1 < b.1 := by
  rw [Before, UInt64.lt_iff_toNat_lt, ← UInt64.toNat_inj, Text.utf8_lt_iff]

theorem inOrder_iff (a b : String × Usage) :
    inOrder a b = true ↔ b.2.size.toNat < a.2.size.toNat ∨ a.2.size.toNat = b.2.size.toNat ∧ a.1 ≤ b.1 := by
  simp [inOrder, UInt64.lt_iff_toNat_lt, ← UInt64.toNat_inj]

theorem Before.asymm {a b : String × Usage} (h : Before a b) : ¬ Before b a := by
  rw [before_iff] at h ⊢
  rintro (h' | ⟨heq, hlt⟩)
  · omega
  · rcases h with h | ⟨-, h⟩
    · omega
    · exact lt_asymm h hlt

theorem inOrder_trans (a b c : String × Usage) (hab : inOrder a b = true) (hbc : inOrder b c = true) :
    inOrder a c = true := by
  rw [inOrder_iff] at *
  rcases hab with hab | ⟨hab, hle⟩
  · left
    omega
  · rcases hbc with hbc | ⟨hbc, hle'⟩
    · left
      omega
    · exact .inr ⟨hab.trans hbc, hle.trans hle'⟩

theorem inOrder_total (a b : String × Usage) : (inOrder a b || inOrder b a) = true := by
  rw [Bool.or_eq_true, inOrder_iff, inOrder_iff]
  rcases Nat.lt_trichotomy a.2.size.toNat b.2.size.toNat with h | h | h
  · exact .inr (.inl h)
  · rcases le_total a.1 b.1 with hle | hle
    · exact .inl (.inr ⟨h, hle⟩)
    · exact .inr (.inr ⟨h.symm, hle⟩)
  · exact .inl (.inl h)

theorem before_of_inOrder {a b : String × Usage} (h : inOrder a b = true) (hne : a.1 ≠ b.1) : Before a b := by
  rw [inOrder_iff] at h
  rw [before_iff]
  exact h.imp_right fun ⟨heq, hle⟩ => ⟨heq, lt_of_le_of_ne hle hne⟩

theorem sort_perm (entries : List (String × Usage)) : (sort entries).Perm entries := List.mergeSort_perm _ _

theorem pairwise_sort {entries : List (String × Usage)} (h : (entries.map Prod.fst).Nodup) :
    (sort entries).Pairwise Before := by
  have hnames : (sort entries).Pairwise fun a b => a.1 ≠ b.1 := by
    rw [← List.pairwise_map]
    exact ((sort_perm entries).map Prod.fst).nodup_iff.mpr h
  have hsorted := List.pairwise_mergeSort inOrder_trans inOrder_total entries
  -- different names turn the order of the sort into a strict one
  exact (hsorted.and hnames).imp fun h => before_of_inOrder h.1 h.2

/-- There is one list of the entries that is in order. -/
theorem eq_sort {entries l : List (String × Usage)} (h : (entries.map Prod.fst).Nodup) (hp : l.Perm entries)
    (hl : l.Pairwise Before) : l = sort entries :=
  (hp.trans (sort_perm entries).symm).eq_of_pairwise (fun _ _ _ _ hab hba => absurd hba hab.asymm) hl (pairwise_sort h)

theorem sort_eq_of_same {b : Breakdown} {entries : List (String × Usage)} (h : entries.Perm b.entries) :
    sort entries = sort b.entries := by
  have hnames : (entries.map Prod.fst).Nodup := (h.map Prod.fst).nodup_iff.mpr b.distinct
  exact eq_sort b.distinct ((sort_perm entries).trans h) (pairwise_sort hnames)

end Breakdown

namespace Markdown

theorem breakdownTable_same (sizes : SizeFormat) (c : Category) {b b' : Breakdown} (h : b.Same b') :
    breakdownTable sizes c b.entries = breakdownTable sizes c b'.entries := by
  unfold breakdownTable
  rw [h.isEmpty_eq, Breakdown.sort_eq_of_same h]

theorem breakdownTables_same (sizes : SizeFormat) {s t : Summary} (h : s.Same t) :
    breakdownTables sizes s = breakdownTables sizes t := by
  unfold breakdownTables
  congr 1
  refine List.map_congr_left fun c _ => ?_
  have hmaps := h.2 c
  generalize s.breakdown c = b at hmaps ⊢
  generalize t.breakdown c = b' at hmaps ⊢
  cases hmaps with
  | none => rfl
  | some hsame => exact breakdownTable_same sizes c hsame

theorem breakdown_same (sizes : SizeFormat) (project vault : String) {s t : Summary} (h : s.Same t) :
    breakdown sizes project vault (some s) = breakdown sizes project vault (some t) := by
  simp only [breakdown, h.1, breakdownTables_same sizes h]

/-- However a map gives its entries, they are sorted into one list: all of them, each before the next. So two summaries
with the same maps have one report. -/
theorem breakdown_order_irrelevant :
    (∀ (b : Breakdown) (entries : List (String × Usage)), entries.Perm b.entries →
      Breakdown.sort entries = Breakdown.sort b.entries ∧ (Breakdown.sort entries).Perm b.entries ∧
        (Breakdown.sort entries).Pairwise Breakdown.Before) ∧
    ∀ s t : Summary, s.Same t → ∀ sizes project vault,
      breakdown sizes project vault (some s) = breakdown sizes project vault (some t) := by
  constructor
  · intro b entries h
    have heq := Breakdown.sort_eq_of_same h
    refine ⟨heq, (Breakdown.sort_perm entries).trans h, ?_⟩
    rw [heq]
    exact Breakdown.pairwise_sort b.distinct
  · intro s t h sizes project vault
    exact breakdown_same sizes project vault h

/-- Equal sizes, a name that begins another one, and two names of one character that are in the other order in
UTF-16. -/
theorem breakdown_order_irrelevant_ties :
    let b : Breakdown :=
      ⟨[("ab", ⟨1, 50⟩), ("😀", ⟨2, 50⟩), ("z", ⟨3, 900⟩), ("\uffff", ⟨4, 50⟩), ("a", ⟨5, 50⟩)], by decide⟩
    let reversed : Breakdown := ⟨b.entries.reverse, by decide⟩
    Breakdown.sort reversed.entries =
        [("z", ⟨3, 900⟩), ("a", ⟨5, 50⟩), ("ab", ⟨1, 50⟩), ("\uffff", ⟨4, 50⟩), ("😀", ⟨2, 50⟩)] ∧
      Breakdown.sort reversed.entries = Breakdown.sort b.entries ∧
      (Breakdown.sort reversed.entries).Pairwise Breakdown.Before ∧
      breakdown {} "p" "v" (some { total := ⟨15, 1100⟩, fileType := some reversed }) =
        breakdown {} "p" "v" (some { total := ⟨15, 1100⟩, fileType := some b }) := by
  intro b reversed
  have hperm : reversed.entries.Perm b.entries := List.reverse_perm _
  have hsame : Summary.Same { total := ⟨15, 1100⟩, fileType := some reversed }
      { total := ⟨15, 1100⟩, fileType := some b } := by
    refine ⟨rfl, fun c => ?_⟩
    cases c with
    | fileType => exact .some hperm
    | _ => exact .none
  have hsorted : Breakdown.sort reversed.entries =
      [("z", ⟨3, 900⟩), ("a", ⟨5, 50⟩), ("ab", ⟨1, 50⟩), ("\uffff", ⟨4, 50⟩), ("😀", ⟨2, 50⟩)] :=
    (Breakdown.eq_sort reversed.distinct (by decide) (by decide +kernel)).symm
  obtain ⟨heq, -, hbefore⟩ := breakdown_order_irrelevant.1 b reversed.entries hperm
  exact ⟨hsorted, heq, hbefore, breakdown_order_irrelevant.2 _ _ hsame {} "p" "v"⟩

end Markdown

end VaultUsage
