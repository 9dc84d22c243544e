import VaultUsage.Proofs.Json.Decoding

/-!
# Values as data

A value is read as data exactly when its tree is this data (`Shape.ofJson_eq_ok`).
-/

namespace VaultUsage.Json

/-! ## Scalars -/

section
variable {v : Json}

theorem toText_eq_ok {a : String} : v.toText = .ok a ↔ v.tree = .string (some a) := by
  cases v with
  | string s =>
    rw [tree, Tree.string.injEq, Option.some.injEq]
    exact ⟨Except.ok.inj, congrArg _⟩
  | _ => exact ⟨nofun, nofun⟩

theorem toWhole_eq_ok {name : String} {a : UInt64} :
    v.toWhole name = .ok a ↔
      ∃ i : Int, v.tree = .number (some (.integer i)) ∧ 0 ≤ i ∧ UInt64.ofNat i.toNat = a := by
  cases v with
  | number n =>
    cases n with
    | real x => exact ⟨nofun, fun ⟨_, h, _⟩ => nomatch h⟩
    | integer i =>
      rw [toWhole]
      split
      · next hi =>
        constructor
        · intro h
          exact ⟨i, rfl, hi, Except.ok.inj h⟩
        · rintro ⟨j, hj, -, rfl⟩
          cases hj
          rfl
      · next hi =>
        refine ⟨nofun, ?_⟩
        rintro ⟨j, hj, hnonneg, -⟩
        cases hj
        exact absurd hnonneg hi
  | _ => exact ⟨nofun, fun ⟨_, h, _⟩ => nomatch h⟩

theorem toReal_eq_ok {a : Binary64} :
    v.toReal = .ok a ↔ ∃ n : Number, v.tree = .number (some n) ∧ n.toBinary64 = a := by
  cases v with
  | number n =>
    have hread : (number n).toReal = .ok n.toBinary64 := by cases n <;> rfl
    rw [hread]
    constructor
    · intro h
      exact ⟨n, rfl, Except.ok.inj h⟩
    · rintro ⟨m, hm, rfl⟩
      cases hm
      rfl
  | _ => exact ⟨nofun, fun ⟨_, h, _⟩ => nomatch h⟩

theorem toInstant_eq_ok {a : Instant} :
    v.toInstant = .ok a ↔ ∃ s : String, v.tree = .string (some s) ∧ Instant.read s.toList = .ok a := by
  cases v with
  | string s =>
    refine mapError_eq_ok.trans ?_
    constructor
    · intro h
      exact ⟨s, rfl, h⟩
    · rintro ⟨s', hs, h⟩
      cases hs
      exact h
  | _ => exact ⟨nofun, fun ⟨_, h, _⟩ => nomatch h⟩

end

/-! ## Lists and tables -/

section
variable {α : Type} {read : Json → Except Cause α} {r : Tree → α → Prop} (hread : ∀ {v a}, read v = .ok a ↔ r v.tree a)
include hread

theorem mapM_read_eq_ok {items : List Json} {l : List α} :
    items.mapM read = .ok l ↔ List.Forall₂ r (itemTrees items) l := by
  simp only [mapM_eq_ok, itemTrees_eq_map, List.forall₂_map_left_iff, hread]

theorem readTable_members_eq_ok {members : List (String × Json)} {m m' : NameMap α} :
    readTable read members m = .ok m' ↔
      ∃ entries, List.Forall₂ (IsEntry r) (memberTrees members) entries ∧
        entries.foldl (fun m e => m.insert e.1 e.2) m = m' := by
  induction members generalizing m with
  | nil => simp [memberTrees, readTable]
  | cons member members ih =>
    obtain ⟨name, v⟩ := member
    simp only [memberTrees, List.forall₂_cons_left_iff]
    constructor
    · intro h
      rw [readTable] at h
      split at h
      · next a ha =>
        obtain ⟨entries, he, rfl⟩ := ih.mp h
        exact ⟨_, ⟨(name, a), entries, ⟨rfl, hread.mp ha⟩, he, rfl⟩, rfl⟩
      · cases h
    · rintro ⟨_, ⟨⟨name', a⟩, entries, ⟨hname, ha⟩, he, rfl⟩, rfl⟩
      cases hname
      rw [readTable, hread.mpr ha]
      exact ih.mpr ⟨entries, he, rfl⟩

end

/-! ## Records -/

theorem assignAll_eq_ok {r : TableRule} {fields : Fields}
    (hassign : ∀ {n v} {slots slots' : fields.Slots},
      fields.assignJson n v slots = .ok slots' ↔ fields.Fill r slots [(some n, v.tree)] slots')
    {members : List (String × Json)} {slots slots' : fields.Slots} :
    members.foldlM (fun slots m => fields.assignJson m.1 m.2 slots) slots = .ok slots' ↔
      fields.Fill r slots (memberTrees members) slots' := by
  induction members generalizing slots with
  | nil =>
    rw [memberTrees, Fields.fill_nil]
    exact ⟨fun h => (Except.ok.inj h).symm, fun h => h ▸ rfl⟩
  | cons m members ih =>
    rw [memberTrees, Fields.fill_cons, List.foldlM_cons, bind_eq_ok]
    simp only [hassign, ih]

theorem Shape.ofJson_array {name : String} {fields : Fields} {items : List Json} {a : fields.Value} :
    (Shape.record name fields).ofJson (.array items) = .ok a ↔
      fields.rowOfJson (lengthExpectation name fields) 0 items = .ok (a, []) := by
  unfold Shape.ofJson
  dsimp only
  split
  · next hread =>
    rw [hread]
    exact ⟨fun h => by cases h; rfl, fun h => by cases h; rfl⟩
  · next hread =>
    rw [hread]
    exact ⟨nofun, nofun⟩
  · next hread =>
    rw [hread]
    exact ⟨nofun, nofun⟩

mutual

theorem Shape.ofJson_eq_ok {shape : Shape} (hs : shape.isSound = true) {v : Json} {a : shape.Value} :
    shape.ofJson v = .ok a ↔ shape.Reads Collects v.tree a := by
  cases shape with
  | text => exact toText_eq_ok
  | whole => exact toWhole_eq_ok
  | real => exact toReal_eq_ok
  | instant => exact toInstant_eq_ok
  | list item =>
    cases v with
    | array items => exact (mapM_read_eq_ok (item.ofJson_eq_ok hs)).trans Shape.reads_list.symm
    | _ => exact ⟨nofun, fun ⟨_, ht, _⟩ => nomatch ht⟩
  | table item =>
    cases v with
    | object members => exact (readTable_members_eq_ok (item.ofJson_eq_ok hs)).trans Shape.reads_table.symm
    | _ => exact ⟨nofun, fun ⟨_, _, ht, _⟩ => nomatch ht⟩
  | optional item =>
    rw [Shape.isSound, Bool.and_eq_true] at hs
    have hitem (hne : v.tree ≠ .null) : (item.ofJson v).map some = .ok a ↔
        (Shape.optional item).Reads Collects v.tree a := by
      refine map_eq_ok.trans (Iff.trans ?_ (Shape.reads_optional hne).symm)
      exact exists_congr fun w => and_congr_left' (item.ofJson_eq_ok hs.2)
    cases v with
    | null => exact (Except.ok.injEq _ _).to_iff.trans Shape.reads_optional_null.symm
    | _ => exact hitem nofun
  | record name fields =>
    rw [Shape.isSound, Bool.and_eq_true, decide_eq_true_iff] at hs
    cases v with
    | object members =>
      have hassign {slots : fields.Slots} :
          members.foldlM (fun slots m => fields.assignJson m.1 m.2 slots) fields.noSlots = .ok slots ↔
            fields.Fill Collects fields.noSlots (memberTrees members) slots :=
        assignAll_eq_ok (fields.assignJson_eq_ok hs.2 hs.1)
      refine bind_eq_ok.trans ((exists_congr fun slots => and_congr_left' hassign).trans ?_)
      exact Fields.fill_noSlots.trans
        ((and_iff_right named_memberTrees).symm.trans Shape.reads_record_object.symm)
    | array items =>
      exact Shape.ofJson_array.trans ((fields.rowOfJson_eq_ok hs.2 _ 0).trans Shape.reads_record_array.symm)
    | _ => exact ⟨nofun, fun h => h.elim (fun ⟨_, ht, _⟩ => nomatch ht) fun ⟨_, ht, _⟩ => nomatch ht⟩

theorem Fields.assignJson_eq_ok {fields : Fields} (hs : fields.areSound = true) (hn : fields.names.Nodup)
    {name : String} {v : Json} {slots slots' : fields.Slots} :
    fields.assignJson name v slots = .ok slots' ↔ fields.Fill Collects slots [(some name, v.tree)] slots' := by
  cases fields with
  | nil => exact iff_of_true rfl trivial
  | cons n shape rest =>
    rw [Fields.areSound, Bool.and_eq_true] at hs
    rw [Fields.names, List.nodup_cons] at hn
    rw [Fields.assignJson]
    split
    · next hname =>
      subst hname
      refine Iff.trans ?_ (Fields.fill_self hn.1).symm
      split
      · next a hslot =>
        refine ⟨nofun, fun hfill => ?_⟩
        cases hslot.symm.trans hfill.1
      · next hslot =>
        refine map_eq_ok.trans ?_
        simp only [shape.ofJson_eq_ok hs.1, hslot, true_and]
        exact Iff.rfl
    · next hname =>
      refine map_eq_ok.trans (Iff.trans ?_ (Fields.fill_rest hname).symm)
      simp only [rest.assignJson_eq_ok hs.2 hn.2]
      exact Iff.rfl

theorem Fields.rowOfJson_eq_ok {fields : Fields} (hs : fields.areSound = true) (expected : String) (index : Nat)
    {items : List Json} {a : fields.Value} :
    fields.rowOfJson expected index items = .ok (a, []) ↔ fields.ReadRow Collects (itemTrees items) a := by
  cases fields with
  | nil =>
    cases items with
    | nil => exact iff_of_true rfl rfl
    | cons => exact ⟨nofun, nofun⟩
  | cons n shape rest =>
    rw [Fields.areSound, Bool.and_eq_true] at hs
    cases items with
    | nil =>
      have hrow : rest.rowOfJson expected (index + 1) [] = .ok (a.2, []) ↔ rest.ReadRow Collects [] a.2 :=
        rest.rowOfJson_eq_ok hs.2 expected (index + 1)
      refine Iff.trans ?_ ((and_congr_right' hrow).trans Fields.readRow_nil.symm)
      rw [Fields.rowOfJson]
      split
      · next w hw => exact map_first_eq_ok.trans (by rw [hw, Option.some.injEq])
      · next hnone => simp [hnone]
    | cons v items =>
      have hrow : rest.rowOfJson expected (index + 1) items = .ok (a.2, []) ↔
          rest.ReadRow Collects (itemTrees items) a.2 := rest.rowOfJson_eq_ok hs.2 expected (index + 1)
      refine Iff.trans ?_ ((and_congr (shape.ofJson_eq_ok hs.1) hrow).trans Fields.readRow_cons.symm)
      rw [Fields.rowOfJson]
      split
      · next w hw => exact map_first_eq_ok.trans (by rw [hw, Except.ok.injEq])
      · next e he => simp [he]

end

end VaultUsage.Json
