import Mathlib.Data.List.Nodup
import Mathlib.Data.List.Perm.Basic
import Mathlib.Logic.Relation
import VaultUsage.Proofs.Json.Pointers
import VaultUsage.Proofs.NameMaps

/-!
# Trees that are the same data

Two steps leave what a tree is as data: to put the members of one object in another order (`Tree.Reorders`), and to
give one more member to an object that is read as a record (`Shape.Extends`). They are shown of trees in which the
names of a table are different; such a tree is the same data by both rules for tables, up to the order of entries.
-/

namespace VaultUsage.Json

/-! ## Steps -/

/-- The members of one object, at any depth, in another order. -/
inductive Tree.Reorders : Tree → Tree → Prop where
  | here {members members' : List (Option String × Tree)} :
    members.Perm members' → Reorders (.object members) (.object members')
  | item {before after : List Tree} {t t' : Tree} :
    t.Reorders t' → Reorders (.array (before ++ t :: after)) (.array (before ++ t' :: after))
  | member {before after : List (Option String × Tree)} {name : Option String} {t t' : Tree} :
    t.Reorders t' → Reorders (.object (before ++ (name, t) :: after)) (.object (before ++ (name, t') :: after))

/-- One more member, of any value, in an object that is a record along the shape and has no field of that name. -/
inductive Shape.Extends : Shape → Tree → Tree → Prop where
  | here {record name : String} {fields : Fields} {before after : List (Option String × Tree)} {t : Tree} :
    name ∉ fields.names →
      Extends (.record record fields) (.object (before ++ after)) (.object (before ++ (some name, t) :: after))
  | field {record name : String} {fields : Fields} {shape : Shape} {before after : List (Option String × Tree)}
    {t t' : Tree} : fields.Pointer name shape → shape.Extends t t' →
      Extends (.record record fields) (.object (before ++ (some name, t) :: after))
        (.object (before ++ (some name, t') :: after))
  | place {record name : String} {fields : Fields} {shape : Shape} {before after : List Tree} {t t' : Tree}
    (p : fields.Pointer name shape) : before.length = p.index → shape.Extends t t' →
      Extends (.record record fields) (.array (before ++ t :: after)) (.array (before ++ t' :: after))
  | item {item : Shape} {before after : List Tree} {t t' : Tree} :
    item.Extends t t' → Extends (.list item) (.array (before ++ t :: after)) (.array (before ++ t' :: after))
  | entry {item : Shape} {name : Option String} {before after : List (Option String × Tree)} {t t' : Tree} :
    item.Extends t t' →
      Extends (.table item) (.object (before ++ (name, t) :: after)) (.object (before ++ (name, t') :: after))
  | optional {item : Shape} {t t' : Tree} : item.Extends t t' → Extends (.optional item) t t'

/-- Any number of steps of both kinds. -/
def Shape.Rearranges (shape : Shape) : Tree → Tree → Prop :=
  Relation.ReflTransGen fun t t' => t.Reorders t' ∨ shape.Extends t t'

/-! ## One value in another's place -/

theorem forall₂_replace {α β : Type} {p : α → β → Prop} {a a' : α} (h : ∀ b, p a b → p a' b) {before after : List α}
    {l : List β} (hl : List.Forall₂ p (before ++ a :: after) l) : List.Forall₂ p (before ++ a' :: after) l := by
  induction before generalizing l with
  | nil =>
    cases hl with
    | cons hb hrest => exact .cons (h _ hb) hrest
  | cons b before ih =>
    cases hl with
    | cons hb hrest => exact .cons hb (ih hrest)

section
variable {r : TableRule} {t t' : Tree}

theorem Fields.readMembers_replace {name : String} {before after : List (Option String × Tree)}
    (h : ∀ {shape : Shape} {v : shape.Value}, shape.Reads r t v → shape.Reads r t' v) : ∀ {fields : Fields}
      {v : fields.Value}, fields.ReadMembers r (before ++ (some name, t) :: after) v →
        fields.ReadMembers r (before ++ (some name, t') :: after) v
  | nil, _, _ => trivial
  | cons n shape rest, v, ⟨hfirst, hrest⟩ => by
    refine ⟨?_, readMembers_replace h hrest⟩
    by_cases hn : name = n
    · subst hn
      rcases hfirst with ⟨u, hu, hv⟩ | ⟨hnone, -⟩
      · obtain ⟨rfl, hone⟩ := valuesOf_replace (c := t') hu
        exact .inl ⟨t', hone, h hv⟩
      · rw [valuesOf_append, valuesOf_cons_self] at hnone
        cases (List.append_eq_nil_iff.mp hnone).2
    · rw [valuesOf_replace_ne hn t' t]
      exact hfirst

theorem Fields.readRow_replace (h : ∀ {shape : Shape} {v : shape.Value}, shape.Reads r t v → shape.Reads r t' v) :
    ∀ {fields : Fields} {before after : List Tree} {v : fields.Value},
      fields.ReadRow r (before ++ t :: after) v → fields.ReadRow r (before ++ t' :: after) v
  | nil, [], _, _, h => nomatch h
  | nil, _ :: _, _, _, h => nomatch h
  | cons _ _ _, [], _, _, hv => by
    obtain ⟨hfirst, hrest⟩ := readRow_cons.mp hv
    exact readRow_cons.mpr ⟨h hfirst, hrest⟩
  | cons _ _ _, _ :: _, _, _, hv => by
    obtain ⟨hfirst, hrest⟩ := readRow_cons.mp hv
    exact readRow_cons.mpr ⟨hfirst, readRow_replace h hrest⟩

/-- Only tables and records tell the members of an object. -/
theorem Shape.reads_object_imp {members members' : List (Option String × Tree)}
    (htable : ∀ item v, (table item).Reads r (.object members) v → (table item).Reads r (.object members') v)
    (hrecord : ∀ name fields v,
      (record name fields).Reads r (.object members) v → (record name fields).Reads r (.object members') v) :
    ∀ {shape : Shape} {v : shape.Value}, shape.Reads r (.object members) v → shape.Reads r (.object members') v
  | text, _, h => by cases h
  | whole _, _, ⟨_, h, _⟩ => by cases h
  | real, _, ⟨_, h, _⟩ => by cases h
  | instant, _, ⟨_, h, _⟩ => by cases h
  | list _, _, ⟨_, h, _⟩ => by cases h
  | table item, v, h => htable item v h
  | optional _, _, .inl ⟨h, _⟩ => by cases h
  | optional _, _, .inr ⟨_, w, hw, h⟩ => .inr ⟨by simp, w, hw, reads_object_imp htable hrecord h⟩
  | record name fields, v, h => hrecord name fields v h

/-- Only lists and records tell the items of an array. -/
theorem Shape.reads_array_imp {items items' : List Tree}
    (hlist : ∀ item v, (list item).Reads r (.array items) v → (list item).Reads r (.array items') v)
    (hrecord : ∀ name fields v,
      (record name fields).Reads r (.array items) v → (record name fields).Reads r (.array items') v) :
    ∀ {shape : Shape} {v : shape.Value}, shape.Reads r (.array items) v → shape.Reads r (.array items') v
  | text, _, h => by cases h
  | whole _, _, ⟨_, h, _⟩ => by cases h
  | real, _, ⟨_, h, _⟩ => by cases h
  | instant, _, ⟨_, h, _⟩ => by cases h
  | list item, v, h => hlist item v h
  | table _, _, ⟨_, _, h, _⟩ => by cases h
  | optional _, _, .inl ⟨h, _⟩ => by cases h
  | optional _, _, .inr ⟨_, w, hw, h⟩ => .inr ⟨by simp, w, hw, reads_array_imp hlist hrecord h⟩
  | record name fields, v, h => hrecord name fields v h

end

/-! ## Reordering -/

theorem Fields.readMembers_perm {r : TableRule} {members members' : List (Option String × Tree)}
    (h : members.Perm members') : ∀ {fields : Fields} {v : fields.Value},
      fields.ReadMembers r members v → fields.ReadMembers r members' v
  | nil, _, _ => trivial
  | cons name shape rest, v, ⟨hfirst, hrest⟩ => by
    have hvalues : (valuesOf name members').Perm (valuesOf name members) := ((h.filter _).map _).symm
    refine ⟨?_, readMembers_perm h hrest⟩
    rcases hfirst with ⟨t, ht, hv⟩ | ⟨hnone, hv⟩
    · exact .inl ⟨t, List.perm_singleton.mp (ht ▸ hvalues), hv⟩
    · exact .inr ⟨List.perm_nil.mp (hnone ▸ hvalues), hv⟩

/-- The order of members makes no difference where the names of a table are different. -/
theorem Tree.Reorders.reads {t t' : Tree} (h : t.Reorders t') :
    ∀ {shape : Shape} {v : shape.Value}, shape.Reads Lists t v → shape.Reads Lists t' v := by
  induction h with
  | here hperm =>
    refine Shape.reads_object_imp (fun item v h => ?table) fun name fields v h => ?record
    case table =>
      obtain ⟨entries, hentries, hv⟩ := Shape.reads_table.mp h
      obtain ⟨entries', hentries', hperm'⟩ := List.perm_comp_forall₂ hperm.symm hentries
      exact Shape.reads_table.mpr ⟨entries', hentries', hperm'.trans hv⟩
    case record =>
      obtain ⟨hnames, hv⟩ := Shape.reads_record_object.mp h
      exact Shape.reads_record_object.mpr
        ⟨fun m hm => hnames m (hperm.mem_iff.mpr hm), Fields.readMembers_perm hperm hv⟩
  | item h ih =>
    refine Shape.reads_array_imp (fun item v h => ?list) fun name fields v h => ?record
    case list => exact Shape.reads_list.mpr (forall₂_replace (fun _ => ih) (Shape.reads_list.mp h))
    case record =>
      exact Shape.reads_record_array.mpr (Fields.readRow_replace ih (Shape.reads_record_array.mp h))
  | @member before after name t t' h ih =>
    refine Shape.reads_object_imp (fun item v h => ?table) fun record fields v h => ?record
    case table =>
      obtain ⟨entries, hentries, hv⟩ := Shape.reads_table.mp h
      exact Shape.reads_table.mpr ⟨entries, forall₂_replace (fun _ he => ⟨he.1, ih he.2⟩) hentries, hv⟩
    case record =>
      obtain ⟨hnames, hv⟩ := Shape.reads_record_object.mp h
      cases name with
      | none => exact absurd rfl (hnames (none, t) (by simp))
      | some name =>
        exact Shape.reads_record_object.mpr ⟨named_replace hnames, Fields.readMembers_replace ih hv⟩

/-! ## Extending -/

theorem Shape.Extends.ne_null {shape : Shape} {t t' : Tree} (h : shape.Extends t t') : t ≠ .null ∧ t' ≠ .null := by
  induction h with
  | optional _ ih => exact ih
  | _ => exact ⟨nofun, nofun⟩

/-- Members that a record has besides its fields make no difference. -/
theorem Shape.Extends.reads {r : TableRule} {shape : Shape} {t t' : Tree} (h : shape.Extends t t') :
    shape.isSound = true → ∀ {v : shape.Value}, shape.Reads r t v → shape.Reads r t' v := by
  induction h with
  | @here record name fields before after t hname =>
    intro _ v h
    obtain ⟨hnames, hv⟩ := Shape.reads_record_object.mp h
    refine Shape.reads_record_object.mpr ⟨?_, (Fields.readMembers_congr fun n hn => ?_).mp hv⟩
    · rw [List.forall_mem_append] at hnames ⊢
      exact ⟨hnames.1, List.forall_mem_cons.mpr ⟨Option.some_ne_none name, hnames.2⟩⟩
    · rw [valuesOf_append, valuesOf_append, valuesOf_cons_ne (by rintro ⟨⟩; exact hname hn)]
  | field p h ih =>
    intro hs v h
    obtain ⟨hnames, hv⟩ := Shape.reads_record_object.mp h
    rw [Shape.isSound, Bool.and_eq_true, decide_eq_true_iff] at hs
    exact Shape.reads_record_object.mpr ⟨named_replace hnames, p.readMembers_imp hs.1 (ih (p.isSound hs.2)) hv⟩
  | place p hlength h ih =>
    intro hs v h
    rw [Shape.isSound, Bool.and_eq_true] at hs
    exact Shape.reads_record_array.mpr
      (p.readRow_imp (ih (p.isSound hs.2)) hlength (Shape.reads_record_array.mp h))
  | item h ih =>
    intro hs v h
    exact Shape.reads_list.mpr (forall₂_replace (fun _ => ih hs) (Shape.reads_list.mp h))
  | entry h ih =>
    intro hs v h
    obtain ⟨entries, hentries, hv⟩ := Shape.reads_table.mp h
    exact Shape.reads_table.mpr ⟨entries, forall₂_replace (fun _ he => ⟨he.1, ih hs he.2⟩) hentries, hv⟩
  | optional hextends ih =>
    intro hs v h
    rw [Shape.isSound, Bool.and_eq_true] at hs
    obtain ⟨w, hw, hv⟩ := (Shape.reads_optional hextends.ne_null.1).mp h
    exact (Shape.reads_optional hextends.ne_null.2).mpr ⟨w, ih hs.2 hw, hv⟩

theorem Shape.Rearranges.reads {shape : Shape} (hs : shape.isSound = true) {t t' : Tree} (h : shape.Rearranges t t')
    {v : shape.Value} (hv : shape.Reads Lists t v) : shape.Reads Lists t' v := by
  induction h with
  | refl => exact hv
  | tail _ hstep ih =>
    rcases hstep with hstep | hstep
    · exact hstep.reads ih
    · exact hstep.reads hs ih

/-! ## Tables by both rules -/

/-- No object has two members of one name. -/
inductive Tree.HasDistinctNames : Tree → Prop where
  | null : HasDistinctNames .null
  | boolean {b : Bool} : HasDistinctNames (.boolean b)
  | number {n : Option Number} : HasDistinctNames (.number n)
  | string {s : Option String} : HasDistinctNames (.string s)
  | array {items : List Tree} : (∀ t ∈ items, t.HasDistinctNames) → HasDistinctNames (.array items)
  | object {members : List (Option String × Tree)} :
    (members.filterMap Prod.fst).Nodup → (∀ m ∈ members, m.2.HasDistinctNames) → HasDistinctNames (.object members)

theorem forall₂_imp_mem {α β : Type} {p q : α → β → Prop} {l : List α} {l' : List β} (h : List.Forall₂ p l l')
    (himp : ∀ a ∈ l, ∀ b, p a b → q a b) : List.Forall₂ q l l' := by
  induction h with
  | nil => exact .nil
  | cons h _ ih =>
    rw [List.forall_mem_cons] at himp
    exact .cons (himp.1 _ h) (ih himp.2)

theorem names_of_isEntry {α : Type} {p : Tree → α → Prop} {members : List (Option String × Tree)}
    {entries : List (String × α)} (h : List.Forall₂ (IsEntry p) members entries) :
    members.filterMap Prod.fst = entries.map Prod.fst := by
  induction h with
  | nil => rfl
  | cons h _ ih => rw [List.filterMap_cons_some h.1, ih, List.map_cons]

mutual

theorem Shape.reads_lists {shape : Shape} {t : Tree} (ht : t.HasDistinctNames) {v : shape.Value}
    (h : shape.Reads Collects t v) : shape.Reads Lists t v := by
  cases shape with
  | text => exact h
  | whole => exact h
  | real => exact h
  | instant => exact h
  | list item =>
    obtain ⟨items, rfl, hv⟩ := h
    cases ht with
    | array ht => exact ⟨items, rfl, forall₂_imp_mem hv fun t hm _ => item.reads_lists (ht t hm)⟩
  | table item =>
    obtain ⟨members, entries, rfl, hentries, rfl⟩ := h
    cases ht with
    | object hnames ht =>
      rw [names_of_isEntry hentries] at hnames
      refine ⟨members, entries, rfl, forall₂_imp_mem hentries fun m hm _ h => ⟨h.1, item.reads_lists (ht m hm) h.2⟩, ?_⟩
      exact .of_eq (NameMap.entries_ofList hnames).symm
  | optional item => exact h.imp_right fun ⟨hne, w, hw, h⟩ => ⟨hne, w, hw, item.reads_lists ht h⟩
  | record name fields =>
    rcases h with ⟨members, rfl, hnames, h⟩ | ⟨items, rfl, h⟩
    · cases ht with
      | object _ ht => exact .inl ⟨members, rfl, hnames, fields.readMembers_lists ht h⟩
    · cases ht with
      | array ht => exact .inr ⟨items, rfl, fields.readRow_lists ht h⟩

theorem Fields.readMembers_lists {fields : Fields} {members : List (Option String × Tree)}
    (hm : ∀ m ∈ members, m.2.HasDistinctNames) {v : fields.Value} (h : fields.ReadMembers Collects members v) :
    fields.ReadMembers Lists members v := by
  cases fields with
  | nil => trivial
  | cons name shape rest =>
    obtain ⟨hfirst, hrest⟩ := h
    refine ⟨hfirst.imp_left fun ⟨t, ht, hv⟩ => ⟨t, ht, shape.reads_lists ?_ hv⟩, rest.readMembers_lists hm hrest⟩
    exact hm _ (mem_of_valuesOf (ht ▸ List.mem_singleton_self t))

theorem Fields.readRow_lists {fields : Fields} {items : List Tree} (hm : ∀ t ∈ items, t.HasDistinctNames)
    {v : fields.Value} (h : fields.ReadRow Collects items v) : fields.ReadRow Lists items v := by
  cases fields with
  | nil => exact h
  | cons name shape rest =>
    rcases h with ⟨t, more, rfl, hv, hrest⟩ | ⟨rfl, hv, hrest⟩
    · rw [List.forall_mem_cons] at hm
      exact .inl ⟨t, more, rfl, shape.reads_lists hm.1 hv, rest.readRow_lists hm.2 hrest⟩
    · exact .inr ⟨rfl, hv, rest.readRow_lists hm hrest⟩

end

mutual

/-- Equal but for the order of entries in tables. -/
def Shape.Same (shape : Shape) (v w : shape.Value) : Prop :=
  match shape with
  | .list item => List.Forall₂ item.Same v w
  | .table item =>
    ∃ entries, (NameMap.entries v).Perm entries ∧
      List.Forall₂ (fun a b => a.1 = b.1 ∧ item.Same a.2 b.2) entries (NameMap.entries w)
  | .optional item => Option.Rel item.Same v w
  | .record _ fields => fields.AreSame v w
  | _ => v = w
termination_by structural shape

def Fields.AreSame (fields : Fields) (v w : fields.Value) : Prop :=
  match fields with
  | .nil => True
  | .cons _ shape rest => shape.Same v.1 w.1 ∧ rest.AreSame v.2 w.2
termination_by structural fields

end

theorem forall₂_exists {α β : Type} {p q : α → β → Prop} {s : β → β → Prop}
    (h : ∀ {a b}, p a b → ∃ c, q a c ∧ s b c) {l : List α} {l' : List β} (hl : List.Forall₂ p l l') :
    ∃ k, List.Forall₂ q l k ∧ List.Forall₂ s l' k := by
  induction hl with
  | nil => exact ⟨[], .nil, .nil⟩
  | cons hab _ ih =>
    obtain ⟨c, hq, hs⟩ := h hab
    obtain ⟨k, hqs, hss⟩ := ih
    exact ⟨c :: k, .cons hq hqs, .cons hs hss⟩

theorem Shape.same_of_missing {shape : Shape} {v : shape.Value} (h : shape.missing? = some v) : shape.Same v v := by
  cases shape with
  | optional item =>
    cases h
    exact .none
  | _ => cases h

mutual

/-- What has different names in its tables can be read, with the entries in some order. -/
theorem Shape.exists_reads {shape : Shape} {t : Tree} {v : shape.Value} (h : shape.Reads Lists t v) :
    ∃ w, shape.Reads Collects t w ∧ shape.Same v w := by
  cases shape with
  | text => exact ⟨v, h, rfl⟩
  | whole => exact ⟨v, h, rfl⟩
  | real => exact ⟨v, h, rfl⟩
  | instant => exact ⟨v, h, rfl⟩
  | list item =>
    obtain ⟨items, rfl, hv⟩ := h
    obtain ⟨w, hw, hsame⟩ := forall₂_exists (fun h => item.exists_reads h) hv
    exact ⟨w, ⟨items, rfl, hw⟩, hsame⟩
  | table item =>
    obtain ⟨members, entries, rfl, hentries, hperm⟩ := h
    have hstep {m : Option String × Tree} {a : String × item.Value} (h : IsEntry (item.Reads Lists) m a) :
        ∃ b, IsEntry (item.Reads Collects) m b ∧ a.1 = b.1 ∧ item.Same a.2 b.2 := by
      obtain ⟨w, hw, hsame⟩ := item.exists_reads h.2
      exact ⟨(a.1, w), ⟨h.1, hw⟩, rfl, hsame⟩
    obtain ⟨entries', hentries', hsame⟩ := forall₂_exists @hstep hentries
    have hnames : (entries'.map Prod.fst).Nodup := by
      rw [← names_of_isEntry hentries', names_of_isEntry hentries]
      exact (hperm.map Prod.fst).nodup_iff.mpr (NameMap.distinct v)
    refine ⟨NameMap.ofList entries', ⟨members, entries', rfl, hentries', rfl⟩, entries, hperm.symm, ?_⟩
    rwa [NameMap.entries_ofList hnames]
  | optional item =>
    rcases h with ⟨rfl, rfl⟩ | ⟨hne, v, rfl, h⟩
    · exact ⟨none, .inl ⟨rfl, rfl⟩, .none⟩
    · obtain ⟨w, hw, hsame⟩ := item.exists_reads h
      exact ⟨some w, .inr ⟨hne, w, rfl, hw⟩, .some hsame⟩
  | record name fields =>
    rcases h with ⟨members, rfl, hnames, h⟩ | ⟨items, rfl, h⟩
    · obtain ⟨w, hw, hsame⟩ := fields.exists_readMembers h
      exact ⟨w, .inl ⟨members, rfl, hnames, hw⟩, hsame⟩
    · obtain ⟨w, hw, hsame⟩ := fields.exists_readRow h
      exact ⟨w, .inr ⟨items, rfl, hw⟩, hsame⟩

theorem Fields.exists_readMembers {fields : Fields} {members : List (Option String × Tree)} {v : fields.Value}
    (h : fields.ReadMembers Lists members v) : ∃ w, fields.ReadMembers Collects members w ∧ fields.AreSame v w := by
  cases fields with
  | nil => exact ⟨(), trivial, trivial⟩
  | cons name shape rest =>
    obtain ⟨hfirst, hrest⟩ := h
    obtain ⟨ws, hws, hsame⟩ := rest.exists_readMembers hrest
    rcases hfirst with ⟨t, ht, hv⟩ | ⟨hnone, hv⟩
    · obtain ⟨w, hw, hsame'⟩ := shape.exists_reads hv
      exact ⟨(w, ws), ⟨.inl ⟨t, ht, hw⟩, hws⟩, hsame', hsame⟩
    · exact ⟨(v.1, ws), ⟨.inr ⟨hnone, hv⟩, hws⟩, Shape.same_of_missing hv, hsame⟩

theorem Fields.exists_readRow {fields : Fields} {items : List Tree} {v : fields.Value}
    (h : fields.ReadRow Lists items v) : ∃ w, fields.ReadRow Collects items w ∧ fields.AreSame v w := by
  cases fields with
  | nil => exact ⟨(), h, trivial⟩
  | cons name shape rest =>
    rcases h with ⟨t, more, rfl, hv, hrest⟩ | ⟨rfl, hv, hrest⟩
    · obtain ⟨ws, hws, hsame⟩ := rest.exists_readRow hrest
      obtain ⟨w, hw, hsame'⟩ := shape.exists_reads hv
      exact ⟨(w, ws), .inl ⟨t, more, rfl, hw, hws⟩, hsame', hsame⟩
    · obtain ⟨ws, hws, hsame⟩ := rest.exists_readRow hrest
      exact ⟨(v.1, ws), .inr ⟨rfl, hv, hws⟩, Shape.same_of_missing hv, hsame⟩

end

end VaultUsage.Json
