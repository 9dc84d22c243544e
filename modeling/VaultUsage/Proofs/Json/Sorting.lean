import Mathlib.Data.String.Basic
import VaultUsage.Proofs.Json.Decoding
import VaultUsage.Proofs.Json.Parsing

/-!
# Members put in order

An object that is read as a value has its members in ascending order, and of each name the last one of the text
(`valuesOf_sortedMembers`).
-/

namespace VaultUsage.Json

/-! ## Ascending names -/

def Ascending (members : List (String × Json)) : Prop := members.Pairwise fun a b => a.1 < b.1

theorem mem_putMember {name : String} {v : Json} {m : String × Json} :
    ∀ {members : List (String × Json)}, m ∈ putMember name v members → m = (name, v) ∨ m ∈ members
  | [], h => .inl (List.mem_singleton.mp h)
  | (n, w) :: rest, h => by
    rw [putMember] at h
    split at h
    · exact (List.mem_cons.mp h).imp_right (List.mem_cons_of_mem _)
    · split at h
      · exact List.mem_cons.mp h
      · rcases List.mem_cons.mp h with rfl | h
        · exact .inr List.mem_cons_self
        · exact (mem_putMember h).imp_right (List.mem_cons_of_mem _)

theorem Ascending.putMember {members : List (String × Json)} (h : Ascending members) (name : String) (v : Json) :
    Ascending (putMember name v members) := by
  induction members with
  | nil => exact List.pairwise_singleton _ _
  | cons m rest ih =>
    obtain ⟨n, w⟩ := m
    obtain ⟨hfirst, hrest⟩ := List.pairwise_cons.mp h
    rw [Json.putMember]
    split
    · next hn => exact List.pairwise_cons.mpr ⟨fun m hm => hn ▸ hfirst m hm, hrest⟩
    · next hn =>
      split
      · next hlt =>
        refine List.pairwise_cons.mpr ⟨List.forall_mem_cons.mpr ⟨hlt, fun m hm => ?_⟩, h⟩
        exact lt_trans hlt (hfirst m hm)
      · next hlt =>
        refine List.pairwise_cons.mpr ⟨fun m hm => ?_, ih hrest⟩
        rcases mem_putMember hm with rfl | hm
        · exact lt_of_le_of_ne (not_lt.mp hlt) hn
        · exact hfirst m hm

theorem valuesOf_eq_nil {name : String} {members : List (String × Json)} (h : ∀ m ∈ members, m.1 ≠ name) :
    valuesOf name (memberTrees members) = [] := by
  rw [memberTrees_eq_map, valuesOf, List.map_eq_nil_iff, List.filter_eq_nil_iff]
  intro m hm
  obtain ⟨member, hmem, rfl⟩ := List.mem_map.mp hm
  simpa using h member hmem

theorem valuesOf_putMember {members : List (String × Json)} (h : Ascending members) (name n : String) (v : Json) :
    valuesOf name (memberTrees (putMember n v members)) =
      if n = name then [v.tree] else valuesOf name (memberTrees members) := by
  induction members with
  | nil =>
    split
    · next hn => rw [hn]; exact valuesOf_cons_self name v.tree []
    · next hn => exact valuesOf_singleton_ne (by simpa using hn) v.tree
  | cons m rest ih =>
    obtain ⟨k, w⟩ := m
    obtain ⟨hfirst, hrest⟩ := List.pairwise_cons.mp h
    have hnone : valuesOf k (memberTrees rest) = [] := valuesOf_eq_nil fun m hm => (hfirst m hm).ne'
    rw [putMember]
    split
    · next hk =>
      subst hk
      split
      · next hn => rw [← hn, memberTrees, valuesOf_cons_self, hnone]
      · next hn =>
        have hne : some k ≠ some name := by simpa using hn
        rw [memberTrees, memberTrees, valuesOf_cons_ne hne, valuesOf_cons_ne hne]
    · next hk =>
      split
      · next hlt =>
        rw [memberTrees]
        split
        · next hn =>
          have hgreater : ∀ m ∈ (k, w) :: rest, m.1 ≠ name :=
            List.forall_mem_cons.mpr ⟨hn ▸ hlt.ne', fun m hm => hn ▸ (hlt.trans (hfirst m hm)).ne'⟩
          rw [hn, valuesOf_cons_self, valuesOf_eq_nil hgreater]
        · next hn => rw [valuesOf_cons_ne (by simpa using hn)]
      · rw [memberTrees, memberTrees]
        by_cases hname : k = name
        · have hn : n ≠ name := fun hn => hk (hname.trans hn.symm)
          rw [hname, valuesOf_cons_self, valuesOf_cons_self, ih hrest, if_neg hn, if_neg hn]
        · have hne : some k ≠ some name := by simpa using hname
          rw [valuesOf_cons_ne hne, valuesOf_cons_ne hne, ih hrest]

/-! ## The last member of a name -/

def lastOf? (name : String) (members : List (String × Json)) : Option Json :=
  (members.reverse.find? fun m => m.1 = name).map Prod.snd

theorem lastOf?_cons (name : String) (m : String × Json) (members : List (String × Json)) :
    lastOf? name (m :: members) = (lastOf? name members).or (if m.1 = name then some m.2 else none) := by
  rw [lastOf?, lastOf?, List.reverse_cons, List.find?_append, Option.map_or, List.find?_singleton]
  congr 1
  by_cases h : m.1 = name <;> simp [h]

theorem valuesOf_sortedMembers_append (name : String) {members before : List (String × Json)} (h : Ascending before) :
    valuesOf name (memberTrees (sortedMembers members before)) =
      match lastOf? name members with
      | some v => [v.sorted.tree]
      | none => valuesOf name (memberTrees before) := by
  induction members generalizing before with
  | nil => rfl
  | cons m members ih =>
    obtain ⟨n, v⟩ := m
    rw [sortedMembers, ih (h.putMember n v.sorted), valuesOf_putMember h, lastOf?_cons]
    cases lastOf? name members with
    | some w => rfl
    | none => by_cases hn : n = name <;> simp [hn]

/-- In order, a name has the value of its last member only. -/
theorem valuesOf_sortedMembers (name : String) (members : List (String × Json)) :
    valuesOf name (memberTrees (sortedMembers members [])) =
      ((lastOf? name members).map fun v => v.sorted.tree).toList := by
  rw [valuesOf_sortedMembers_append name List.Pairwise.nil]
  cases lastOf? name members <;> rfl

/-- The last one of the values in text order. -/
theorem getLast?_valuesOf (name : String) (members : List (String × Json)) :
    (valuesOf name (memberTrees members)).getLast? = (lastOf? name members).map tree := by
  induction members with
  | nil => rfl
  | cons m members ih =>
    obtain ⟨n, v⟩ := m
    rw [memberTrees, lastOf?_cons]
    by_cases hn : n = name
    · rw [hn, valuesOf_cons_self, List.getLast?_cons, ih]
      cases lastOf? name members <;> simp
    · rw [valuesOf_cons_ne (by simpa using hn), ih]
      simp [hn]

end VaultUsage.Json
