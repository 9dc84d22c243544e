import VaultUsage.Proofs.Json.Decoding
import VaultUsage.Proofs.Json.WellFormed

/-!
# Texts as data

A text is read as data exactly when it is well-formed and its tree is this data (`Shape.read_eq_ok`).
-/

namespace VaultUsage.Json

variable {r : TableRule}

/-! ## Scalars -/

section
variable {s : Source} {t : Tree} (h : s.Shows t)
include h

theorem readText_eq_ok {v : String} : s.readText = .ok v ↔ t = .string (some v) := by
  cases h with
  | string h => rw [Source.readText, ← toOption_eq_some, h, Tree.string.injEq]
  | _ => exact ⟨nofun, nofun⟩

theorem readWhole_eq_ok {name : String} {v : UInt64} :
    s.readWhole name = .ok v ↔ ∃ i : Int, t = .number (some (.integer i)) ∧ 0 ≤ i ∧ UInt64.ofNat i.toNat = v := by
  cases h with
  | @number n m p h =>
    subst h
    cases n with
    | error e => exact ⟨nofun, fun ⟨_, h, _⟩ => nomatch h⟩
    | ok n =>
      cases n with
      | real x => exact ⟨nofun, fun ⟨_, h, _⟩ => nomatch h⟩
      | integer i =>
        rw [Source.readWhole]
        split
        · next hi =>
          constructor
          · intro h
            exact ⟨i, rfl, hi, Except.ok.inj h⟩
          · rintro ⟨j, hj, -, rfl⟩
            cases hj
            rfl
        · next hi =>
          refine ⟨nofun, ?_⟩
          rintro ⟨j, hj, hnonneg, -⟩
          cases hj
          exact absurd hnonneg hi
  | _ => exact ⟨nofun, fun ⟨_, h, _⟩ => nomatch h⟩

theorem readReal_eq_ok {v : Binary64} :
    s.readReal = .ok v ↔ ∃ n : Number, t = .number (some n) ∧ n.toBinary64 = v := by
  cases h with
  | @number n m p h =>
    subst h
    cases n with
    | error e => exact ⟨nofun, fun ⟨_, h, _⟩ => nomatch h⟩
    | ok n =>
      have hread : (Source.number (.ok n) p).readReal = .ok n.toBinary64 := by cases n <;> rfl
      rw [hread]
      constructor
      · intro h
        exact ⟨n, rfl, Except.ok.inj h⟩
      · rintro ⟨m, hm, rfl⟩
        cases hm
        rfl
  | _ => exact ⟨nofun, fun ⟨_, h, _⟩ => nomatch h⟩

theorem readInstant_eq_ok {v : Instant} :
    s.readInstant = .ok v ↔ ∃ s : String, t = .string (some s) ∧ Instant.read s.toList = .ok v := by
  cases h with
  | @string s t p h =>
    subst h
    cases s with
    | error e => exact ⟨nofun, fun ⟨_, h, _⟩ => nomatch h⟩
    | ok s =>
      have hread : (Source.string (.ok s) p).readInstant = .ok v ↔ Instant.read s.toList = .ok v := by
        rw [Source.readInstant]
        cases Instant.read s.toList with
        | ok i => exact ⟨fun h => congrArg Except.ok (Except.ok.inj h), fun h => congrArg Except.ok (Except.ok.inj h)⟩
        | error fault => exact ⟨nofun, nofun⟩
      rw [hread]
      constructor
      · intro h
        exact ⟨s, rfl, h⟩
      · rintro ⟨s', hs, h⟩
        cases hs
        exact h
  | _ => exact ⟨nofun, fun ⟨_, h, _⟩ => nomatch h⟩

end

/-! ## Lists and tables -/

section
variable {α : Type} {read : Source → Except Error α} {r : Tree → α → Prop}
  (hread : ∀ {s t a}, s.Shows t → (read s = .ok a ↔ r t a))
include hread

theorem readAll_eq_ok {items : Items} {trees : List Tree} (h : items.Show trees) {l : List α} :
    items.readAll read = .ok l ↔ List.Forall₂ r trees l := by
  induction trees generalizing items l with
  | nil =>
    cases h
    rw [List.forall₂_nil_left_iff]
    exact ⟨fun h => (Except.ok.inj h).symm, fun h => h ▸ rfl⟩
  | cons t trees ih =>
    cases h with
    | @item p s rest _ _ hs hrest =>
      rw [List.forall₂_cons_left_iff]
      constructor
      · intro h
        rw [Items.readAll] at h
        split at h
        · next a ha =>
          obtain ⟨l, hl, rfl⟩ := map_eq_ok.mp h
          exact ⟨a, l, (hread hs).mp ha, (ih hrest).mp hl, rfl⟩
        · cases h
      · rintro ⟨a, l, ha, hl, rfl⟩
        rw [Items.readAll, (hread hs).mpr ha, (ih hrest).mpr hl]
        rfl

theorem readTable_eq_ok {members : Members} {trees : List (Option String × Tree)} (h : members.Show trees)
    {m m' : NameMap α} :
    members.readTable read m = .ok m' ↔
      ∃ entries, List.Forall₂ (IsEntry r) trees entries ∧ entries.foldl (fun m e => m.insert e.1 e.2) m = m' := by
  induction trees generalizing members m with
  | nil =>
    cases h
    simp [Members.readTable]
  | cons t trees ih =>
    cases h with
    | @member name n p s rest t _ hn hs hrest =>
      simp only [List.forall₂_cons_left_iff]
      cases name with
      | error e =>
        refine ⟨nofun, ?_⟩
        rintro ⟨_, ⟨e, _, ⟨he, -⟩, -⟩, -⟩
        cases hn.trans he
      | ok name =>
        cases hn
        constructor
        · intro h
          rw [Members.readTable] at h
          split at h
          · next a ha =>
            obtain ⟨entries, he, rfl⟩ := (ih hrest).mp h
            exact ⟨_, ⟨(name, a), entries, ⟨rfl, (hread hs).mp ha⟩, he, rfl⟩, rfl⟩
          · cases h
        · rintro ⟨_, ⟨⟨name', a⟩, entries, ⟨hname, ha⟩, he, rfl⟩, rfl⟩
          cases hname
          rw [Members.readTable, (hread hs).mpr ha]
          exact (ih hrest).mpr ⟨entries, he, rfl⟩

end

/-! ## Reading text -/

theorem readFields_eq_ok {fields : Fields} (hassign : ∀ {n p s t} {slots slots' : fields.Slots}, s.Shows t →
      (fields.assignSource n p s slots = .ok slots' ↔ fields.Fill r slots [(some n, t)] slots'))
    {trees : List (Option String × Tree)} {members : Members} (h : members.Show trees) {slots slots' : fields.Slots} :
    (∃ stop, members.readFields fields.assignSource slots = .ok (slots', stop)) ↔
      (∀ m ∈ trees, m.1 ≠ none) ∧ fields.Fill r slots trees slots' := by
  induction trees generalizing members slots with
  | nil =>
    cases h
    rw [Fields.fill_nil]
    constructor
    · rintro ⟨stop, h⟩
      cases h
      exact ⟨nofun, rfl⟩
    · rintro ⟨-, rfl⟩
      exact ⟨_, rfl⟩
  | cons t trees ih =>
    cases h with
    | @member name n p s rest t _ hn hs hrest =>
      cases name with
      | error e =>
        subst hn
        exact ⟨fun ⟨_, h⟩ => (nomatch h), fun ⟨h, _⟩ => absurd rfl (h _ List.mem_cons_self)⟩
      | ok name =>
        subst hn
        have hnames : (∀ m ∈ ((Except.ok name : Except Error String).toOption, t) :: trees, m.1 ≠ none) ↔
            ∀ m ∈ trees, m.1 ≠ none := by simp [Except.toOption]
        rw [hnames, Fields.fill_cons]
        constructor
        · rintro ⟨stop, h⟩
          rw [Members.readFields] at h
          split at h
          · next between hb =>
            obtain ⟨hnames, hfill⟩ := (ih hrest).mp ⟨stop, h⟩
            exact ⟨hnames, between, (hassign hs).mp hb, hfill⟩
          · cases h
        · rintro ⟨hnames, between, hb, hfill⟩
          obtain ⟨stop, h⟩ := (ih hrest).mpr ⟨hnames, hfill⟩
          refine ⟨stop, ?_⟩
          rw [Members.readFields, (hassign hs).mpr hb]
          exact h

theorem finish_eq_ok {items : Items} {trees : List Tree} (h : items.Show trees) :
    items.finish = .ok () ↔ trees = [] := by
  cases h with
  | closed => exact iff_of_true rfl rfl
  | item => exact ⟨nofun, nofun⟩

theorem Shape.ofSource_object {name : String} {fields : Fields} {p : Position} {members : Members} {v : fields.Value} :
    (Shape.record name fields).ofSource (.object p members) = .ok v ↔
      ∃ slots, (∃ stop, members.readFields fields.assignSource fields.noSlots = .ok (slots, stop)) ∧
        fields.close slots = .ok v := by
  unfold Shape.ofSource
  dsimp only
  split
  · next slots stop hread =>
    constructor
    · intro h
      exact ⟨slots, ⟨stop, hread⟩, mapError_eq_ok.mp h⟩
    · rintro ⟨slots', ⟨stop', hread'⟩, hclose⟩
      cases hread.symm.trans hread'
      exact mapError_eq_ok.mpr hclose
  · next e hread =>
    refine ⟨nofun, ?_⟩
    rintro ⟨slots', ⟨stop', hread'⟩, -⟩
    cases hread.symm.trans hread'

theorem Shape.ofSource_array {name : String} {fields : Fields} {p : Position} {items : Items} {v : fields.Value} :
    (Shape.record name fields).ofSource (.array p items) = .ok v ↔
      ∃ rest, fields.rowOfSource (lengthExpectation name fields) 0 items = .ok (v, rest) ∧ rest.finish = .ok () := by
  unfold Shape.ofSource
  dsimp only
  split
  · next w rest hread =>
    constructor
    · intro h
      obtain ⟨⟨⟩, hfinish, rfl⟩ := map_eq_ok.mp h
      exact ⟨rest, hread, hfinish⟩
    · rintro ⟨rest', hread', hfinish⟩
      cases hread.symm.trans hread'
      exact map_eq_ok.mpr ⟨(), hfinish, rfl⟩
  · next e hread =>
    refine ⟨nofun, ?_⟩
    rintro ⟨rest', hread', -⟩
    cases hread.symm.trans hread'

mutual

theorem Shape.ofSource_eq_ok {shape : Shape} (hs : shape.isSound = true) {s : Source} {t : Tree} (h : s.Shows t)
    {v : shape.Value} : shape.ofSource s = .ok v ↔ shape.Reads Collects t v := by
  cases shape with
  | text => exact readText_eq_ok h
  | whole => exact readWhole_eq_ok h
  | real => exact readReal_eq_ok h
  | instant => exact readInstant_eq_ok h
  | list item =>
    cases h with
    | array h => exact (readAll_eq_ok (fun h => item.ofSource_eq_ok hs h) h).trans Shape.reads_list.symm
    | _ => exact ⟨nofun, fun ⟨_, ht, _⟩ => nomatch ht⟩
  | table item =>
    cases h with
    | object h => exact (readTable_eq_ok (fun h => item.ofSource_eq_ok hs h) h).trans Shape.reads_table.symm
    | _ => exact ⟨nofun, fun ⟨_, _, ht, _⟩ => nomatch ht⟩
  | optional item =>
    rw [Shape.isSound, Bool.and_eq_true] at hs
    have hitem (hne : t ≠ .null) : (item.ofSource s).map some = .ok v ↔ (Shape.optional item).Reads Collects t v := by
      refine map_eq_ok.trans (Iff.trans ?_ (Shape.reads_optional hne).symm)
      exact exists_congr fun w => and_congr_left' (item.ofSource_eq_ok hs.2 h)
    cases h with
    | null => exact (Except.ok.injEq _ _).to_iff.trans Shape.reads_optional_null.symm
    | _ => exact hitem nofun
  | record name fields =>
    rw [Shape.isSound, Bool.and_eq_true, decide_eq_true_iff] at hs
    cases h with
    | @object _ members trees h =>
      have hread {slots : fields.Slots} :
          (∃ stop, members.readFields fields.assignSource fields.noSlots = .ok (slots, stop)) ↔
            (∀ m ∈ trees, m.1 ≠ none) ∧ fields.Fill Collects fields.noSlots trees slots :=
        readFields_eq_ok (fun h => fields.assignSource_eq_ok hs.2 hs.1 h) h
      refine Shape.ofSource_object.trans (Iff.trans ?_ Shape.reads_record_object.symm)
      simp only [hread, and_assoc, exists_and_left]
      exact and_congr_right' Fields.fill_noSlots
    | array h =>
      exact Shape.ofSource_array.trans ((fields.rowOfSource_eq_ok hs.2 _ 0 h).trans Shape.reads_record_array.symm)
    | _ => exact ⟨nofun, fun h => h.elim (fun ⟨_, ht, _⟩ => nomatch ht) fun ⟨_, ht, _⟩ => nomatch ht⟩

theorem Fields.assignSource_eq_ok {fields : Fields} (hs : fields.areSound = true) (hn : fields.names.Nodup)
    {name : String} {p : Position} {s : Source} {t : Tree} (h : s.Shows t) {slots slots' : fields.Slots} :
    fields.assignSource name p s slots = .ok slots' ↔ fields.Fill Collects slots [(some name, t)] slots' := by
  cases fields with
  | nil => exact iff_of_true h.skip trivial
  | cons n shape rest =>
    rw [Fields.areSound, Bool.and_eq_true] at hs
    rw [Fields.names, List.nodup_cons] at hn
    rw [Fields.assignSource]
    split
    · next hname =>
      subst hname
      refine Iff.trans ?_ (Fields.fill_self hn.1).symm
      split
      · next v hslot =>
        refine ⟨nofun, fun hfill => ?_⟩
        cases hslot.symm.trans hfill.1
      · next hslot =>
        refine map_eq_ok.trans ?_
        simp only [shape.ofSource_eq_ok hs.1 h, hslot, true_and]
        exact Iff.rfl
    · next hname =>
      refine map_eq_ok.trans (Iff.trans ?_ (Fields.fill_rest hname).symm)
      simp only [rest.assignSource_eq_ok hs.2 hn.2 h]
      exact Iff.rfl

theorem Fields.rowOfSource_eq_ok {fields : Fields} (hs : fields.areSound = true) (expected : String) (index : Nat)
    {items : Items} {trees : List Tree} (h : items.Show trees) {v : fields.Value} :
    (∃ rest, fields.rowOfSource expected index items = .ok (v, rest) ∧ rest.finish = .ok ()) ↔
      fields.ReadRow Collects trees v := by
  cases fields with
  | nil =>
    refine Iff.trans ?_ (finish_eq_ok h)
    constructor
    · rintro ⟨rest, hr, hfinish⟩
      cases hr
      exact hfinish
    · exact fun hfinish => ⟨items, rfl, hfinish⟩
  | cons n shape rest =>
    rw [Fields.areSound, Bool.and_eq_true] at hs
    cases h with
    | @item p s more t trees hv hmore =>
      have hstep {left : Items} :
          (Fields.cons n shape rest).rowOfSource expected index (.item p s more) = .ok (v, left) ↔
            shape.ofSource s = .ok v.1 ∧ rest.rowOfSource expected (index + 1) more = .ok (v.2, left) := by
        rw [Fields.rowOfSource]
        split
        · next a ha => exact map_first_eq_ok.trans (by rw [ha, Except.ok.injEq])
        · next e he => simp [he]
      rw [Fields.readRow_cons, ← rest.rowOfSource_eq_ok hs.2 expected (index + 1) hmore, ← shape.ofSource_eq_ok hs.1 hv]
      simp only [hstep, and_assoc, exists_and_left]
    | @closed p =>
      have hstep {left : Items} :
          (Fields.cons n shape rest).rowOfSource expected index (.closed p) = .ok (v, left) ↔
            shape.missing? = some v.1 ∧ rest.rowOfSource expected (index + 1) (.closed p) = .ok (v.2, left) := by
        rw [Fields.rowOfSource]
        split
        · next a ha => exact map_first_eq_ok.trans (by rw [ha, Option.some.injEq])
        · next hnone => simp [hnone]
      rw [Fields.readRow_nil, ← rest.rowOfSource_eq_ok hs.2 expected (index + 1) (@Items.Show.closed p)]
      simp only [hstep, and_assoc, exists_and_left]

end

/-! ## Whole texts -/

/-- Where `finish` stands behind the last field of a row, the array ends. -/
theorem skip_of_finish {items : Items} (h : items.finish = .ok ()) : items.skip = .ok () := by
  cases items with
  | closed => rfl
  | item => cases h
  | broken fault =>
    rw [Items.finish] at h
    split at h <;> cases h

section
variable {α σ : Type}

theorem skip_of_readAll {read : Source → Except Error α} (hread : ∀ {s a}, read s = .ok a → s.skip = .ok ())
    {items : Items} {l : List α} (h : items.readAll read = .ok l) : items.skip = .ok () := by
  cases items with
  | closed => rfl
  | broken => cases h
  | item p s rest =>
    rw [Items.readAll] at h
    split at h
    · next a ha =>
      obtain ⟨l, hl, -⟩ := map_eq_ok.mp h
      rw [Items.skip, hread ha]
      exact skip_of_readAll hread hl
    · cases h

theorem skip_of_readTable {read : Source → Except Error α} (hread : ∀ {s a}, read s = .ok a → s.skip = .ok ())
    {members : Members} {m m' : NameMap α} (h : members.readTable read m = .ok m') : members.skip = .ok () := by
  cases members with
  | closed => rfl
  | broken => cases h
  | member name p s rest =>
    cases name with
    | error e => cases h
    | ok name =>
      rw [Members.readTable] at h
      split at h
      · next a ha =>
        rw [Members.skip, hread ha]
        exact skip_of_readTable hread h
      · cases h

theorem skip_of_readFields {assign : String → Position → Source → σ → Except Error σ}
    (hassign : ∀ {n p s slots slots'}, assign n p s slots = .ok slots' → s.skip = .ok ())
    {members : Members} {slots : σ} {e : σ × Position} (h : members.readFields assign slots = .ok e) :
    members.skip = .ok () := by
  cases members with
  | closed => rfl
  | broken => cases h
  | member name p s rest =>
    cases name with
    | error e => cases h
    | ok name =>
      rw [Members.readFields] at h
      split at h
      · next between hb =>
        rw [Members.skip, hassign hb]
        exact skip_of_readFields hassign h
      · cases h

end

mutual

/-- What is read as data has good syntax, also in the members that are passed over. -/
theorem Shape.skip_of_ofSource {shape : Shape} {s : Source} {v : shape.Value} (h : shape.ofSource s = .ok v) :
    s.skip = .ok () := by
  cases shape with
  | text =>
    cases s with
    | string => rfl
    | _ => cases h
  | whole name =>
    cases s with
    | number => rfl
    | _ => cases h
  | real =>
    cases s with
    | number => rfl
    | _ => cases h
  | instant =>
    cases s with
    | string => rfl
    | _ => cases h
  | list item =>
    cases s with
    | array p items => exact skip_of_readAll (fun h => item.skip_of_ofSource h) h
    | _ => cases h
  | table item =>
    cases s with
    | object p members => exact skip_of_readTable (fun h => item.skip_of_ofSource h) h
    | _ => cases h
  | optional item =>
    cases s with
    | null => rfl
    | _ =>
      obtain ⟨w, hw, -⟩ := map_eq_ok.mp h
      exact item.skip_of_ofSource hw
  | record name fields =>
    cases s with
    | object p members =>
      obtain ⟨slots, ⟨stop, hread⟩, -⟩ := Shape.ofSource_object.mp h
      exact skip_of_readFields (fun h => fields.skip_of_assignSource h) hread
    | array p items =>
      obtain ⟨rest, hread, hfinish⟩ := Shape.ofSource_array.mp h
      exact fields.skip_of_rowOfSource hread (skip_of_finish hfinish)
    | _ => cases h

theorem Fields.skip_of_assignSource {fields : Fields} {name : String} {p : Position} {s : Source}
    {slots slots' : fields.Slots} (h : fields.assignSource name p s slots = .ok slots') : s.skip = .ok () := by
  cases fields with
  | nil => exact h
  | cons n shape rest =>
    rw [Fields.assignSource] at h
    split at h
    · split at h
      · cases h
      · obtain ⟨v, hv, -⟩ := map_eq_ok.mp h
        exact shape.skip_of_ofSource hv
    · obtain ⟨others, hothers, -⟩ := map_eq_ok.mp h
      exact rest.skip_of_assignSource hothers

theorem Fields.skip_of_rowOfSource {fields : Fields} {expected : String} {index : Nat} {items left : Items}
    {v : fields.Value} (h : fields.rowOfSource expected index items = .ok (v, left)) (hleft : left.skip = .ok ()) :
    items.skip = .ok () := by
  cases fields with
  | nil =>
    cases h
    exact hleft
  | cons n shape rest =>
    cases items with
    | closed => rfl
    | broken => cases h
    | item p s more =>
      rw [Fields.rowOfSource] at h
      split at h
      · next a ha =>
        obtain ⟨r, hr, he⟩ := map_eq_ok.mp h
        cases he
        rw [Items.skip, shape.skip_of_ofSource ha]
        exact rest.skip_of_rowOfSource hr hleft
      · cases h

end

/-- The texts that are read along a shape, each as the data that it is. -/
theorem Shape.read_eq_ok {shape : Shape} (hs : shape.isSound = true) {text : String} {v : shape.Value} :
    shape.read text = .ok v ↔ ∃ t, IsWellFormed text.toList t ∧ shape.Reads Collects t v := by
  constructor
  · intro h
    obtain ⟨w, hvalue, hend⟩ := bind_eq_ok.mp h
    split at hend
    · next hnone =>
      cases hend
      have hread : Document.read text.toList = ⟨(Document.read text.toList).value, none⟩ := by rw [← hnone]
      obtain ⟨t, ht, hshows⟩ := Document.isWellFormed hread (shape.skip_of_ofSource hvalue)
      exact ⟨t, ht, (shape.ofSource_eq_ok hs hshows).mp hvalue⟩
    · cases hend
  · rintro ⟨t, ht, hv⟩
    obtain ⟨s, hread, hshows⟩ := Document.read_shows ht
    rw [Shape.read, hread]
    exact bind_eq_ok.mpr ⟨v, (shape.ofSource_eq_ok hs hshows).mpr hv, rfl⟩

theorem Shape.read_of_isWellFormed {shape : Shape} (hs : shape.isSound = true) {text : String} {t : Tree}
    (ht : IsWellFormed text.toList t) {v : shape.Value} : shape.read text = .ok v ↔ shape.Reads Collects t v := by
  rw [shape.read_eq_ok hs]
  constructor
  · rintro ⟨t', ht', hv⟩
    rwa [isWellFormed_unique ht ht']
  · exact fun hv => ⟨t, ht, hv⟩

end VaultUsage.Json
