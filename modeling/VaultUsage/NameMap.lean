/-!
# Finite maps by name

A map from names to values is a list of pairs without a repeated name, in the order of first insertion.
Inserting a name again replaces its value in place.
-/

namespace VaultUsage

structure NameMap (α : Type) where
  entries : List (String × α)
  distinct : (entries.map Prod.fst).Nodup

namespace NameMap

variable {α : Type}

def empty : NameMap α := ⟨[], List.nodup_nil⟩

instance : Inhabited (NameMap α) := ⟨empty⟩

instance [Repr α] : Repr (NameMap α) := ⟨fun m => reprPrec m.entries⟩

@[ext] theorem ext {m n : NameMap α} (h : m.entries = n.entries) : m = n := by
  cases m; cases n; cases h; rfl

instance [DecidableEq α] : DecidableEq (NameMap α) := fun m n =>
  decidable_of_iff (m.entries = n.entries) ⟨ext, fun h => h ▸ rfl⟩

def put (name : String) (value : α) : List (String × α) → List (String × α)
  | [] => [(name, value)]
  | (n, v) :: rest => if n = name then (n, value) :: rest else (n, v) :: put name value rest

theorem names_put (name : String) (value : α) (l : List (String × α)) :
    (put name value l).map Prod.fst =
      if name ∈ l.map Prod.fst then l.map Prod.fst else l.map Prod.fst ++ [name] := by
  induction l with
  | nil => rfl
  | cons e rest ih =>
    obtain ⟨n, v⟩ := e
    unfold put
    by_cases h : n = name
    · simp [h]
    · have h' : ¬ name = n := fun e => h e.symm
      simp only [h, if_false, List.map_cons, ih, List.mem_cons, h', false_or]
      split <;> rfl

theorem nodup_put (name : String) (value : α) {l : List (String × α)} (h : (l.map Prod.fst).Nodup) :
    ((put name value l).map Prod.fst).Nodup := by
  rw [names_put]
  split
  · exact h
  · next hn =>
    rw [List.nodup_append]
    refine ⟨h, by simp, ?_⟩
    intro a ha b hb e
    simp only [List.mem_singleton] at hb
    exact hn (hb ▸ e ▸ ha)

def insert (m : NameMap α) (name : String) (value : α) : NameMap α :=
  ⟨put name value m.entries, nodup_put name value m.distinct⟩

def ofList (l : List (String × α)) : NameMap α := l.foldl (fun m e => m.insert e.1 e.2) empty

def isEmpty (m : NameMap α) : Bool := m.entries.isEmpty

def byName (m : NameMap α) : NameMap α :=
  ofList (m.entries.mergeSort fun a b => decide (a.1 ≤ b.1))

/-! ## Orders of a map -/

/-- The same names with the same values. -/
def Same (m n : NameMap α) : Prop := m.entries.Perm n.entries

theorem put_append {name : String} {l : List (String × α)} (h : name ∉ l.map Prod.fst) (a : α) :
    put name a l = l ++ [(name, a)] := by
  induction l with
  | nil => rfl
  | cons e l ih =>
    simp only [List.map_cons, List.mem_cons, not_or] at h
    rw [put, if_neg (Ne.symm h.1), ih h.2]
    rfl

theorem entries_insert {m : NameMap α} {name : String} (h : name ∉ m.entries.map Prod.fst) (a : α) :
    (m.insert name a).entries = m.entries ++ [(name, a)] := put_append h a

theorem entries_foldl_insert {l : List (String × α)} :
    ∀ {m : NameMap α}, ((m.entries ++ l).map Prod.fst).Nodup →
      (l.foldl (fun m e => m.insert e.1 e.2) m).entries = m.entries ++ l := by
  induction l with
  | nil => exact fun _ => (List.append_nil _).symm
  | cons e l ih =>
    intro m h
    have hnew : e.1 ∉ m.entries.map Prod.fst := by
      rw [List.map_append, List.nodup_append] at h
      exact fun hm => h.2.2 _ hm _ (List.mem_map_of_mem List.mem_cons_self) rfl
    have hm : (m.insert e.1 e.2).entries = m.entries ++ [e] := entries_insert hnew e.2
    rw [List.foldl_cons, ih (by rw [hm, List.append_assoc]; exact h), hm, List.append_assoc]
    rfl

theorem entries_ofList {l : List (String × α)} (h : (l.map Prod.fst).Nodup) : (ofList l).entries = l :=
  @entries_foldl_insert α l empty h

theorem ofList_entries (m : NameMap α) : ofList m.entries = m := ext (entries_ofList m.distinct)

theorem byName_same (m : NameMap α) : m.Same m.byName := by
  have hperm := List.mergeSort_perm m.entries fun a b => decide (a.1 ≤ b.1)
  rw [Same, byName, entries_ofList ((hperm.map Prod.fst).nodup_iff.mpr m.distinct)]
  exact hperm.symm

end NameMap

end VaultUsage
