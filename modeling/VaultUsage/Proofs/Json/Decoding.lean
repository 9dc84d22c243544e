import Mathlib.Data.List.Forall2
import VaultUsage.Json.Shape.OfValue
import VaultUsage.Proofs.Json.Trees

/-!
# What a tree is as data

`Shape.Reads` says which data a tree is along a shape. It knows no order of reading and no places: a record is an
object in which each field stands once, or may be missing, and whatever else stands there does not count. This is what
is read of a text (`Shape.read_eq_ok`) and of a value (`Shape.ofJson_eq_ok`). Both readers put the members of a record
into slots one by one; `Fields.Fill` is what becomes of the slots.
-/

namespace VaultUsage.Json

/-! ## Shapes that can be read -/

namespace Fields

def names : Fields → List String
  | nil => []
  | cons name _ rest => name :: rest.names

end Fields

def Shape.isOptional : Shape → Bool
  | optional _ => true
  | _ => false

mutual

/-- The fields of a record have different names, and nothing is optional twice. -/
def Shape.isSound (shape : Shape) : Bool :=
  match shape with
  | .list item => item.isSound
  | .table item => item.isSound
  | .optional item => !item.isOptional && item.isSound
  | .record _ fields => decide fields.names.Nodup && fields.areSound
  | _ => true
termination_by structural shape

def Fields.areSound (fields : Fields) : Bool :=
  match fields with
  | .nil => true
  | .cons _ shape rest => shape.isSound && rest.areSound
termination_by structural fields

end

/-! ## The relation -/

/-- The values of all members of a name. -/
def valuesOf {α : Type} (name : String) (members : List (Option String × α)) : List α :=
  (members.filter fun m => m.1 = some name).map Prod.snd

def Number.toBinary64 : Number → Binary64
  | integer i => .ofInt i
  | real x => x

/-- Which map a list of entries makes. -/
abbrev TableRule := (α : Type) → List (String × α) → NameMap α → Prop

/-- The last of several entries of a name counts. -/
def Collects : TableRule := fun _ entries m => NameMap.ofList entries = m

/-- All entries have different names. -/
def Lists : TableRule := fun _ entries m => entries.Perm m.entries

/-- The member of a table is the entry, by a relation of their values. -/
def IsEntry {α : Type} (r : Tree → α → Prop) (m : Option String × Tree) (e : String × α) : Prop :=
  m.1 = some e.1 ∧ r m.2 e.2

mutual

def Shape.Reads (r : TableRule) (shape : Shape) (t : Tree) (v : shape.Value) : Prop :=
  match shape with
  | .text => t = .string (some v)
  | .whole _ => ∃ i : Int, t = .number (some (.integer i)) ∧ 0 ≤ i ∧ UInt64.ofNat i.toNat = v
  | .real => ∃ n : Number, t = .number (some n) ∧ n.toBinary64 = v
  | .instant => ∃ s : String, t = .string (some s) ∧ Instant.read s.toList = .ok v
  | .list item => ∃ items, t = .array items ∧ List.Forall₂ (item.Reads r) items v
  | .table item =>
    ∃ members entries, t = .object members ∧
      List.Forall₂ (IsEntry (item.Reads r)) members entries ∧ r item.Value entries v
  | .optional item => t = .null ∧ v = none ∨ t ≠ .null ∧ ∃ w, v = some w ∧ item.Reads r t w
  | .record _ fields =>
    (∃ members, t = .object members ∧ (∀ m ∈ members, m.1 ≠ none) ∧ fields.ReadMembers r members v) ∨
      ∃ items, t = .array items ∧ fields.ReadRow r items v
termination_by structural shape

def Fields.ReadMembers (r : TableRule) (fields : Fields) (members : List (Option String × Tree)) (v : fields.Value) :
    Prop :=
  match fields with
  | .nil => True
  | .cons name shape rest =>
    ((∃ t, valuesOf name members = [t] ∧ shape.Reads r t v.1) ∨
      valuesOf name members = [] ∧ shape.missing? = some v.1) ∧ rest.ReadMembers r members v.2
termination_by structural fields

/-- The fields of a record in their order; the last ones may be missing. -/
def Fields.ReadRow (r : TableRule) (fields : Fields) (items : List Tree) (v : fields.Value) : Prop :=
  match fields with
  | .nil => items = []
  | .cons _ shape rest =>
    (∃ t more, items = t :: more ∧ shape.Reads r t v.1 ∧ rest.ReadRow r more v.2) ∨
      items = [] ∧ shape.missing? = some v.1 ∧ rest.ReadRow r [] v.2
termination_by structural fields

end

section
variable {r : TableRule} {name : String} {shape : Shape} {rest : Fields} {v : (Fields.cons name shape rest).Value}

theorem Fields.readRow_cons {t : Tree} {items : List Tree} :
    (Fields.cons name shape rest).ReadRow r (t :: items) v ↔ shape.Reads r t v.1 ∧ rest.ReadRow r items v.2 := by
  constructor
  · rintro (⟨_, _, h, hv, hrest⟩ | ⟨h, -⟩)
    · cases h
      exact ⟨hv, hrest⟩
    · cases h
  · rintro ⟨hv, hrest⟩
    exact .inl ⟨t, items, rfl, hv, hrest⟩

theorem Fields.readMembers_required (h : shape.missing? = none) {members : List (Option String × Tree)} :
    (Fields.cons name shape rest).ReadMembers r members v ↔
      (∃ t, valuesOf name members = [t] ∧ shape.Reads r t v.1) ∧ rest.ReadMembers r members v.2 := by
  rw [Fields.ReadMembers, h]
  exact and_congr_left' (or_iff_left nofun)

theorem Fields.readRow_required (h : shape.missing? = none) {items : List Tree} :
    (Fields.cons name shape rest).ReadRow r items v ↔
      ∃ t more, items = t :: more ∧ shape.Reads r t v.1 ∧ rest.ReadRow r more v.2 := by
  rw [Fields.ReadRow, h]
  exact or_iff_left nofun

theorem Fields.readRow_nil :
    (Fields.cons name shape rest).ReadRow r [] v ↔ shape.missing? = some v.1 ∧ rest.ReadRow r [] v.2 := by
  constructor
  · rintro (⟨_, _, h, -⟩ | ⟨-, hv, hrest⟩)
    · cases h
    · exact ⟨hv, hrest⟩
  · rintro ⟨hv, hrest⟩
    exact .inr ⟨rfl, hv, hrest⟩

end

section
variable {r : TableRule} {item : Shape} {name : String} {fields : Fields} {items : List Tree}
  {members : List (Option String × Tree)}

theorem Shape.reads_list {v : (list item).Value} :
    (list item).Reads r (.array items) v ↔ List.Forall₂ (item.Reads r) items v := by
  constructor
  · rintro ⟨_, ht, hv⟩
    cases ht
    exact hv
  · exact fun hv => ⟨items, rfl, hv⟩

theorem Shape.reads_table {v : (table item).Value} :
    (table item).Reads r (.object members) v ↔
      ∃ entries, List.Forall₂ (IsEntry (item.Reads r)) members entries ∧ r item.Value entries v := by
  constructor
  · rintro ⟨_, entries, ht, hentries, hv⟩
    cases ht
    exact ⟨entries, hentries, hv⟩
  · rintro ⟨entries, hentries, hv⟩
    exact ⟨members, entries, rfl, hentries, hv⟩

theorem Shape.reads_optional_null {v : (optional item).Value} : (optional item).Reads r .null v ↔ none = v := by
  constructor
  · rintro (⟨-, hv⟩ | ⟨hne, -⟩)
    · exact hv.symm
    · exact absurd rfl hne
  · exact fun hv => .inl ⟨rfl, hv.symm⟩

theorem Shape.reads_optional {t : Tree} (hne : t ≠ .null) {v : (optional item).Value} :
    (optional item).Reads r t v ↔ ∃ w, item.Reads r t w ∧ some w = v := by
  constructor
  · rintro (⟨ht, -⟩ | ⟨-, w, rfl, hw⟩)
    · exact absurd ht hne
    · exact ⟨w, hw, rfl⟩
  · rintro ⟨w, hw, rfl⟩
    exact .inr ⟨hne, w, rfl, hw⟩

theorem Shape.reads_record_object {v : fields.Value} :
    (record name fields).Reads r (.object members) v ↔
      (∀ m ∈ members, m.1 ≠ none) ∧ fields.ReadMembers r members v := by
  constructor
  · rintro (⟨_, ht, hv⟩ | ⟨_, ht, -⟩)
    · cases ht
      exact hv
    · cases ht
  · exact fun hv => .inl ⟨members, rfl, hv⟩

theorem Shape.reads_record_array {v : fields.Value} :
    (record name fields).Reads r (.array items) v ↔ fields.ReadRow r items v := by
  constructor
  · rintro (⟨_, ht, -⟩ | ⟨_, ht, hv⟩)
    · cases ht
    · cases ht
      exact hv
  · exact fun hv => .inr ⟨items, rfl, hv⟩

end

/-- A row is read when its first field and the others are. -/
theorem map_first_eq_ok {ε α β σ : Type} {rest : Except ε (β × σ)} {a : α} {v : α × β} {left : σ} :
    (rest.map fun r : β × σ => ((a, r.1), r.2)) = .ok (v, left) ↔ a = v.1 ∧ rest = .ok (v.2, left) := by
  refine map_eq_ok.trans ⟨?_, ?_⟩
  · rintro ⟨r, hr, h⟩
    cases h
    exact ⟨rfl, hr⟩
  · rintro ⟨rfl, hr⟩
    exact ⟨_, hr, rfl⟩

/-! ## Members of records -/

theorem valuesOf_cons_self {α : Type} (name : String) (v : α) (members : List (Option String × α)) :
    valuesOf name ((some name, v) :: members) = v :: valuesOf name members := by
  simp [valuesOf]

theorem valuesOf_cons_ne {α : Type} {name : String} {n : Option String} (h : n ≠ some name) (v : α)
    (members : List (Option String × α)) : valuesOf name ((n, v) :: members) = valuesOf name members := by
  simp [valuesOf, h]

theorem valuesOf_singleton_ne {α : Type} {name : String} {n : Option String} (h : n ≠ some name) (v : α) :
    valuesOf name [(n, v)] = [] := valuesOf_cons_ne h v []

theorem valuesOf_append {α : Type} (name : String) (l l' : List (Option String × α)) :
    valuesOf name (l ++ l') = valuesOf name l ++ valuesOf name l' := by
  simp [valuesOf]

theorem mem_of_valuesOf {α : Type} {name : String} {l : List (Option String × α)} {a : α}
    (h : a ∈ valuesOf name l) : (some name, a) ∈ l := by
  obtain ⟨m, hm, rfl⟩ := List.mem_map.mp h
  obtain ⟨hm, hname⟩ := List.mem_filter.mp hm
  rw [← of_decide_eq_true hname]
  exact hm

theorem length_valuesOf {α : Type} (name : String) (l : List (Option String × α)) :
    (valuesOf name l).length = (l.filterMap Prod.fst).count name := by
  induction l with
  | nil => rfl
  | cons m l ih =>
    obtain ⟨n, a⟩ := m
    cases n with
    | none => exact ih
    | some n =>
      have hfilter : ((some n, a) :: l).filterMap Prod.fst = n :: l.filterMap Prod.fst := rfl
      by_cases hn : n = name
      · rw [hfilter, hn, valuesOf_cons_self, List.length_cons, ih, List.count_cons_self]
      · rw [hfilter, valuesOf_cons_ne (by simpa using hn), ih, List.count_cons_of_ne hn]

theorem named_replace {name : Option String} {before after : List (Option String × Tree)} {t t' : Tree}
    (h : ∀ m ∈ before ++ (name, t) :: after, m.1 ≠ none) : ∀ m ∈ before ++ (name, t') :: after, m.1 ≠ none := by
  rw [List.forall_mem_append, List.forall_mem_cons] at h ⊢
  exact h

/-- The only value of a name is the one in its place. -/
theorem valuesOf_replace {α : Type} {name : String} {before after : List (Option String × α)} {a b c : α}
    (h : valuesOf name (before ++ (some name, a) :: after) = [b]) :
    b = a ∧ valuesOf name (before ++ (some name, c) :: after) = [c] := by
  rw [valuesOf_append, valuesOf_cons_self] at h ⊢
  obtain ⟨hbefore, hrest⟩ | ⟨_, hbefore, hrest⟩ := List.append_eq_cons_iff.mp h
  · obtain ⟨rfl, hafter⟩ := List.cons.inj hrest
    rw [hbefore, hafter]
    exact ⟨rfl, rfl⟩
  · cases (List.nil_eq_append_iff.mp hrest).2

theorem valuesOf_replace_ne {α : Type} {name n : String} (h : n ≠ name) {before after : List (Option String × α)}
    (a b : α) :
    valuesOf name (before ++ (some n, a) :: after) = valuesOf name (before ++ (some n, b) :: after) := by
  have hne : some n ≠ some name := by simpa using h
  rw [valuesOf_append, valuesOf_append, valuesOf_cons_ne hne, valuesOf_cons_ne hne]

variable {r : TableRule}

/-- Only the values of the fields count. -/
theorem Fields.readMembers_congr {members members' : List (Option String × Tree)} : ∀ {fields : Fields}
    {v : fields.Value}, (∀ name ∈ fields.names, valuesOf name members = valuesOf name members') →
      (fields.ReadMembers r members v ↔ fields.ReadMembers r members' v)
  | nil, _, _ => Iff.rfl
  | cons name shape rest, v, h => by
    rw [names, List.forall_mem_cons] at h
    rw [ReadMembers, ReadMembers, h.1, readMembers_congr h.2]

theorem Fields.readMembers_other {fields : Fields} {name : String} (h : name ∉ fields.names) {t : Tree}
    {members : List (Option String × Tree)} {v : fields.Value} :
    fields.ReadMembers r ((some name, t) :: members) v ↔ fields.ReadMembers r members v :=
  readMembers_congr fun n hn => valuesOf_cons_ne (by rintro ⟨⟩; exact h hn) t members

/-- Reading the members into a slot: it takes one member of its name, and none if it is taken. -/
def Shape.FillSlot (r : TableRule) (shape : Shape) (name : String) (slot : Option shape.Value)
    (members : List (Option String × Tree)) (slot' : Option shape.Value) : Prop :=
  valuesOf name members = [] ∧ slot' = slot ∨
    ∃ t v, valuesOf name members = [t] ∧ slot = none ∧ shape.Reads r t v ∧ slot' = some v

theorem Shape.fillSlot_nil {shape : Shape} {name : String} {members : List (Option String × Tree)}
    (h : valuesOf name members = []) (slot slot' : Option shape.Value) :
    shape.FillSlot r name slot members slot' ↔ slot' = slot := by
  refine ⟨?_, fun hs => .inl ⟨h, hs⟩⟩
  rintro (⟨-, hs⟩ | ⟨t, v, ht, -⟩)
  · exact hs
  · cases h.symm.trans ht

theorem Shape.fillSlot_cons {shape : Shape} {name : String} {m : Option String × Tree}
    {members : List (Option String × Tree)} {slot slot' : Option shape.Value} :
    shape.FillSlot r name slot (m :: members) slot' ↔
      ∃ between, shape.FillSlot r name slot [m] between ∧ shape.FillSlot r name between members slot' := by
  obtain ⟨n, t⟩ := m
  by_cases hn : n = some name
  · subst hn
    -- the member takes the slot, so no other one may have its name
    have hone : valuesOf name [(some name, t)] = [t] := valuesOf_cons_self name t []
    simp only [FillSlot, valuesOf_cons_self, hone]
    constructor
    · rintro (⟨h, -⟩ | ⟨u, v, hu, hslot, hv, hslot'⟩)
      · cases h
      · obtain ⟨rfl, hnil⟩ := List.cons.inj hu
        exact ⟨some v, .inr ⟨t, v, rfl, hslot, hv, rfl⟩, .inl ⟨hnil, hslot'⟩⟩
    · rintro ⟨between, ⟨hone, -⟩ | ⟨u, v, hu, hslot, hv, rfl⟩, hrest⟩
      · cases hone
      · rcases hrest with ⟨hnil, rfl⟩ | ⟨_, _, -, htaken, -⟩
        · exact .inr ⟨u, v, by rw [hnil, hu], hslot, hv, rfl⟩
        · cases htaken
  · have hnil := valuesOf_singleton_ne hn t
    simp only [fillSlot_nil hnil, exists_eq_left]
    simp only [FillSlot, valuesOf_cons_ne hn]

theorem Shape.fillSlot_none {shape : Shape} {name : String} {members : List (Option String × Tree)}
    {v : shape.Value} :
    (∃ slot, shape.FillSlot r name none members slot ∧ slot.or shape.missing? = some v) ↔
      (∃ t, valuesOf name members = [t] ∧ shape.Reads r t v) ∨
        valuesOf name members = [] ∧ shape.missing? = some v := by
  constructor
  · rintro ⟨slot, ⟨hnil, rfl⟩ | ⟨t, w, ht, -, hw, rfl⟩, hv⟩
    · exact .inr ⟨hnil, hv⟩
    · cases hv
      exact .inl ⟨t, ht, hw⟩
  · rintro (⟨t, ht, hv⟩ | ⟨hnil, hv⟩)
    · exact ⟨some v, .inr ⟨t, v, ht, rfl, hv, rfl⟩, rfl⟩
    · exact ⟨none, .inl ⟨hnil, rfl⟩, hv⟩

namespace Fields

def Fill (r : TableRule) : (fields : Fields) → fields.Slots → List (Option String × Tree) → fields.Slots → Prop
  | nil, _, _, _ => True
  | cons name shape rest, slots, members, slots' =>
    shape.FillSlot r name slots.1 members slots'.1 ∧ rest.Fill r slots.2 members slots'.2

theorem slots_eq_iff {name : String} {shape : Shape} {rest : Fields} {slots slots' : (cons name shape rest).Slots} :
    slots' = slots ↔ slots'.1 = slots.1 ∧ slots'.2 = slots.2 :=
  Prod.ext_iff

theorem fill_nil : ∀ {fields : Fields} {slots slots' : fields.Slots}, fields.Fill r slots [] slots' ↔ slots' = slots
  | nil, (), () => iff_of_true trivial rfl
  | cons _ _ _, slots, slots' =>
    (and_congr (Shape.fillSlot_nil rfl slots.1 slots'.1) fill_nil).trans slots_eq_iff.symm

/-- A member of no field changes nothing. -/
theorem fill_other {name : String} {t : Tree} : ∀ {fields : Fields} {slots slots' : fields.Slots},
    name ∉ fields.names → (fields.Fill r slots [(some name, t)] slots' ↔ slots' = slots)
  | nil, (), (), _ => iff_of_true trivial rfl
  | cons n _ _, slots, slots', h => by
    rw [names, List.mem_cons, not_or] at h
    have hnil : valuesOf n [(some name, t)] = [] := valuesOf_singleton_ne (by simpa using h.1) t
    exact (and_congr (Shape.fillSlot_nil hnil slots.1 slots'.1) (fill_other h.2)).trans slots_eq_iff.symm

/-- The member of the first field takes its slot. -/
theorem fill_self {name : String} {shape : Shape} {rest : Fields} (hn : name ∉ rest.names) {t : Tree}
    {slots slots' : (cons name shape rest).Slots} :
    (cons name shape rest).Fill r slots [(some name, t)] slots' ↔
      slots.1 = none ∧ ∃ v, shape.Reads r t v ∧ (some v, slots.2) = slots' := by
  obtain ⟨slot, slots⟩ := slots
  obtain ⟨slot', slots'⟩ := slots'
  refine (and_congr Iff.rfl (fill_other hn)).trans ?_
  constructor
  · rintro ⟨⟨h, -⟩ | ⟨u, v, hu, hslot, hv, hslot'⟩, hslots⟩
    · cases (valuesOf_cons_self name t []).symm.trans h
    · cases (valuesOf_cons_self name t []).symm.trans hu
      cases hslot'
      cases hslots
      exact ⟨hslot, v, hv, rfl⟩
  · rintro ⟨hslot, v, hv, h⟩
    cases h
    exact ⟨.inr ⟨t, v, valuesOf_cons_self name t [], hslot, hv, rfl⟩, rfl⟩

/-- A member of another name is for the fields that follow. -/
theorem fill_rest {name n : String} {shape : Shape} {rest : Fields} (hn : name ≠ n) {t : Tree}
    {slots slots' : (cons n shape rest).Slots} :
    (cons n shape rest).Fill r slots [(some name, t)] slots' ↔
      ∃ others, rest.Fill r slots.2 [(some name, t)] others ∧ (slots.1, others) = slots' := by
  obtain ⟨slot, slots⟩ := slots
  obtain ⟨slot', slots'⟩ := slots'
  have hnil : valuesOf n [(some name, t)] = [] := valuesOf_singleton_ne (by simpa using hn) t
  refine (and_congr (Shape.fillSlot_nil hnil slot slot') Iff.rfl).trans ?_
  constructor
  · rintro ⟨rfl, hfill⟩
    exact ⟨slots', hfill, rfl⟩
  · rintro ⟨others, hfill, h⟩
    cases h
    exact ⟨rfl, hfill⟩

theorem fill_cons {m : Option String × Tree} {members : List (Option String × Tree)} :
    ∀ {fields : Fields} {slots slots' : fields.Slots},
      fields.Fill r slots (m :: members) slots' ↔
        ∃ between, fields.Fill r slots [m] between ∧ fields.Fill r between members slots'
  | nil, _, _ => ⟨fun _ => ⟨(), trivial, trivial⟩, fun _ => trivial⟩
  | cons name shape rest, (slot, slots), (slot', slots') => by
    refine (and_congr Shape.fillSlot_cons fill_cons).trans ?_
    constructor
    · rintro ⟨⟨b, hb, hb'⟩, bs, hbs, hbs'⟩
      exact ⟨(b, bs), ⟨hb, hbs⟩, hb', hbs'⟩
    · rintro ⟨⟨b, bs⟩, ⟨hb, hbs⟩, hb', hbs'⟩
      exact ⟨⟨b, hb, hb'⟩, bs, hbs, hbs'⟩

theorem close_eq_ok {name : String} {shape : Shape} {rest : Fields} {slot : Option shape.Value} {slots : rest.Slots}
    {v : shape.Value} {vs : rest.Value} :
    (cons name shape rest).close (slot, slots) = .ok (v, vs) ↔
      slot.or shape.missing? = some v ∧ rest.close slots = .ok vs := by
  have hmap (w : shape.Value) : ((rest.close slots).map fun r => (w, r)) = .ok (v, vs) ↔
      some w = some v ∧ rest.close slots = .ok vs := by
    rw [map_eq_ok]
    constructor
    · rintro ⟨us, hus, h⟩
      cases h
      exact ⟨rfl, hus⟩
    · rintro ⟨h, hus⟩
      cases h
      exact ⟨vs, hus, rfl⟩
  cases slot with
  | some w => exact hmap w
  | none =>
    cases shape with
    | optional item => exact hmap none
    | _ => exact ⟨nofun, fun h => nomatch h.1⟩

/-- What the slots hold in the end, with what may be missing, is what the members are. -/
theorem fill_noSlots {members : List (Option String × Tree)} : ∀ {fields : Fields} {v : fields.Value},
    (∃ slots, fields.Fill r fields.noSlots members slots ∧ fields.close slots = .ok v) ↔ fields.ReadMembers r members v
  | nil, () => ⟨fun _ => trivial, fun _ => ⟨(), trivial, rfl⟩⟩
  | cons name shape rest, (v, vs) => by
    simp only [ReadMembers, ← Shape.fillSlot_none, ← fill_noSlots]
    constructor
    · rintro ⟨⟨slot, slots⟩, ⟨hslot, hslots⟩, hclose⟩
      obtain ⟨hv, hvs⟩ := close_eq_ok.mp hclose
      exact ⟨⟨slot, hslot, hv⟩, slots, hslots, hvs⟩
    · rintro ⟨⟨slot, hslot, hv⟩, slots, hslots, hvs⟩
      exact ⟨(slot, slots), ⟨hslot, hslots⟩, close_eq_ok.mpr ⟨hv, hvs⟩⟩

end Fields

end VaultUsage.Json
