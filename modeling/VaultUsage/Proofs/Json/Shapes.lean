import VaultUsage.Json.Shape.ToValue
import VaultUsage.Proofs.Json.FromText
import VaultUsage.Proofs.Json.Printing
import VaultUsage.Proofs.NameMaps

/-!
# Data comes back from its text

What a shape writes, the same shape reads (`Shape.read_pretty`). The values written and read are related, since a
real number may come back as another one; a shape without reals and instants gives back what it was given
(`Shape.returns_self`).
-/

namespace VaultUsage.Json

/-! ## What comes back -/

mutual

/-- What is written of the value does not depend on how a text is read. -/
def Shape.isExact (shape : Shape) : Bool :=
  match shape with
  | .real => false
  | .instant => false
  | .list item => item.isExact
  | .table item => item.isExact
  | .optional item => item.isExact
  | .record _ fields => fields.areExact
  | _ => true
termination_by structural shape

def Fields.areExact (fields : Fields) : Bool :=
  match fields with
  | .nil => true
  | .cons _ shape rest => shape.isExact && rest.areExact
termination_by structural fields

end

mutual

/-- Written, the first value comes back as the second one. -/
def Shape.Returns (shape : Shape) (v w : shape.Value) : Prop :=
  match shape with
  | .text => v = w
  | .whole _ => v = w
  | .real => Number.Returns (.real v) (.real w)
  | .instant => v = w ∧ Instant.read (Instant.render v).toList = .ok v
  | .list item => List.Forall₂ item.Returns v w
  | .table item =>
    List.Forall₂ (fun a b => a.1 = b.1 ∧ item.Returns a.2 b.2) (NameMap.entries v) (NameMap.entries w)
  | .optional item => Option.Rel item.Returns v w
  | .record _ fields => fields.Return v w
termination_by structural shape

def Fields.Return (fields : Fields) (v w : fields.Value) : Prop :=
  match fields with
  | .nil => True
  | .cons _ shape rest => shape.Returns v.1 w.1 ∧ rest.Return v.2 w.2
termination_by structural fields

end

theorem forall₂_self {α : Type} {r : α → α → Prop} (h : ∀ a, r a a) (l : List α) : List.Forall₂ r l l := by
  induction l with
  | nil => exact .nil
  | cons a l ih => exact .cons (h a) ih

mutual

theorem Shape.returns_self (shape : Shape) (he : shape.isExact = true) (v : shape.Value) : shape.Returns v v := by
  cases shape with
  | text => rfl
  | whole => rfl
  | real => cases he
  | instant => cases he
  | list item => exact forall₂_self (item.returns_self he) v
  | table item => exact forall₂_self (fun e => ⟨rfl, item.returns_self he e.2⟩) _
  | optional item =>
    cases v with
    | none => exact .none
    | some v => exact .some (item.returns_self he v)
  | record name fields => exact fields.return_self he v

theorem Fields.return_self (fields : Fields) (he : fields.areExact = true) (v : fields.Value) : fields.Return v v := by
  cases fields with
  | nil => trivial
  | cons name shape rest =>
    simp only [Fields.areExact, Bool.and_eq_true] at he
    exact ⟨shape.returns_self he.1 v.1, rest.return_self he.2 v.2⟩

end

/-! ## Written values -/

theorem itemsReturn_map {α : Type} {r : α → α → Prop} {f : α → Json} (hf : ∀ {a b}, r a b → Json.Returns (f a) (f b))
    {l l' : List α} (h : List.Forall₂ r l l') : ItemsReturn (l.map f) (l'.map f) := by
  induction h with
  | nil => exact .nil
  | cons h _ ih => exact .cons (hf h) ih

theorem membersReturn_map {α : Type} {r : α → α → Prop} {f : α → Json}
    (hf : ∀ {a b}, r a b → Json.Returns (f a) (f b)) {l l' : List (String × α)}
    (h : List.Forall₂ (fun a b => a.1 = b.1 ∧ r a.2 b.2) l l') :
    MembersReturn (l.map fun e => (e.1, f e.2)) (l'.map fun e => (e.1, f e.2)) := by
  induction h with
  | nil => exact .nil
  | @cons a b l l' h _ ih =>
    rw [List.map_cons, List.map_cons, h.1]
    exact .cons (hf h.2) ih

theorem Shape.isAbsent_congr {shape : Shape} {v w : shape.Value} (h : shape.Returns v w) :
    shape.isAbsent v = shape.isAbsent w := by
  cases shape with
  | optional item =>
    cases h with
    | some => rfl
    | none => rfl
  | _ => rfl

mutual

theorem Shape.returns_toJson {shape : Shape} {v w : shape.Value} (h : shape.Returns v w) :
    Json.Returns (shape.toJson v) (shape.toJson w) := by
  cases shape with
  | text =>
    cases h
    exact .string
  | whole =>
    cases h
    exact .number (Number.integer_returns (UInt64.toNat_lt v))
  | real => exact .number h
  | instant =>
    cases h.1
    exact .string
  | list item => exact .array (itemsReturn_map (r := item.Returns) (fun h => item.returns_toJson h) h)
  | table item => exact .object (membersReturn_map (r := item.Returns) (fun h => item.returns_toJson h) h)
  | optional item =>
    cases h with
    | none => exact .null
    | some h => exact item.returns_toJson h
  | record name fields => exact .object (fields.returns_toMembers h)

theorem Fields.returns_toMembers {fields : Fields} {v w : fields.Value} (h : fields.Return v w) :
    MembersReturn (fields.toMembers v) (fields.toMembers w) := by
  cases fields with
  | nil => exact .nil
  | cons name shape rest =>
    simp only [Fields.toMembers, Shape.isAbsent_congr h.1]
    split
    · exact rest.returns_toMembers h.2
    · exact .cons (shape.returns_toJson h.1) (rest.returns_toMembers h.2)

end

/-! ## Trees of written values -/

theorem forall₂_map_tree {α : Type} {r : α → α → Prop} {f : α → Json} {p : Tree → α → Prop}
    (hf : ∀ {a b}, r a b → p (f b).tree b) {l l' : List α} (h : List.Forall₂ r l l') :
    List.Forall₂ p (itemTrees (l'.map f)) l' := by
  induction h with
  | nil => exact .nil
  | cons h _ ih => exact .cons (hf h) ih

theorem forall₂_isEntry {α : Type} {r : α → α → Prop} {f : α → Json} {p : Tree → α → Prop}
    (hf : ∀ {a b}, r a b → p (f b).tree b) {l l' : List (String × α)}
    (h : List.Forall₂ (fun a b => a.1 = b.1 ∧ r a.2 b.2) l l') :
    List.Forall₂ (IsEntry p) (memberTrees (l'.map fun e => (e.1, f e.2))) l' := by
  induction h with
  | nil => exact .nil
  | cons h _ ih => exact .cons ⟨rfl, hf h.2⟩ ih

theorem Shape.tree_toJson_ne_null {shape : Shape} (h : shape.isOptional = false) (v : shape.Value) :
    (shape.toJson v).tree ≠ .null := by
  cases shape with
  | optional => cases h
  | _ => exact nofun

theorem Shape.missing?_of_isAbsent {shape : Shape} {v : shape.Value} (h : shape.isAbsent v = true) :
    shape.missing? = some v := by
  cases shape with
  | optional item =>
    cases v with
    | none => rfl
    | some v => cases h
  | _ => cases h

theorem Fields.valuesOf_toMembers {fields : Fields} {v : fields.Value} {name : String} (h : name ∉ fields.names) :
    valuesOf name (memberTrees (fields.toMembers v)) = [] := by
  cases fields with
  | nil => rfl
  | cons n shape rest =>
    rw [Fields.names, List.mem_cons, not_or] at h
    rw [Fields.toMembers]
    split
    · exact rest.valuesOf_toMembers h.2
    · rw [memberTrees, valuesOf_cons_ne (by simpa using Ne.symm h.1), rest.valuesOf_toMembers h.2]

mutual

theorem Shape.reads_toJson {shape : Shape} (hs : shape.isSound = true) {v w : shape.Value} (h : shape.Returns v w) :
    shape.Reads Collects (shape.toJson w).tree w := by
  cases shape with
  | text => rfl
  | whole => exact ⟨w.toNat, rfl, Int.natCast_nonneg _, UInt64.ofNat_toNat⟩
  | real => exact ⟨.real w, rfl, rfl⟩
  | instant =>
    cases h.1
    exact ⟨_, rfl, h.2⟩
  | list item => exact ⟨_, rfl, forall₂_map_tree (r := item.Returns) (fun h => item.reads_toJson hs h) h⟩
  | table item =>
    exact ⟨_, w.entries, rfl, forall₂_isEntry (r := item.Returns) (fun h => item.reads_toJson hs h) h,
      NameMap.ofList_entries w⟩
  | optional item =>
    rw [Shape.isSound, Bool.and_eq_true, Bool.not_eq_true'] at hs
    cases h with
    | none => exact .inl ⟨rfl, rfl⟩
    | @some v w h => exact .inr ⟨item.tree_toJson_ne_null hs.1 w, w, rfl, item.reads_toJson hs.2 h⟩
  | record name fields =>
    rw [Shape.isSound, Bool.and_eq_true, decide_eq_true_iff] at hs
    exact .inl ⟨_, rfl, named_memberTrees, fields.reads_toMembers hs.2 hs.1 h⟩

theorem Fields.reads_toMembers {fields : Fields} (hs : fields.areSound = true) (hn : fields.names.Nodup)
    {v w : fields.Value} (h : fields.Return v w) :
    fields.ReadMembers Collects (memberTrees (fields.toMembers w)) w := by
  cases fields with
  | nil => trivial
  | cons name shape rest =>
    rw [Fields.areSound, Bool.and_eq_true] at hs
    rw [Fields.names, List.nodup_cons] at hn
    have hrest := rest.reads_toMembers hs.2 hn.2 h.2
    have hnone := rest.valuesOf_toMembers (v := w.2) hn.1
    rw [Fields.toMembers]
    split
    · next ha => exact ⟨.inr ⟨hnone, Shape.missing?_of_isAbsent ha⟩, hrest⟩
    · refine ⟨.inl ⟨_, ?_, shape.reads_toJson hs.1 h.1⟩, (Fields.readMembers_other hn.1).mpr hrest⟩
      rw [memberTrees, valuesOf_cons_self, hnone]

end

/-! ## Texts -/

/-- What a shape writes is read along the shape as what comes back. -/
theorem Shape.read_pretty {shape : Shape} (hs : shape.isSound = true) {v w : shape.Value} (h : shape.Returns v w) :
    shape.read ((shape.toJson v).pretty 0) = .ok w :=
  (shape.read_of_isWellFormed hs (isWellFormed_tree.mpr (isText_pretty (shape.returns_toJson h)))).mpr
    (shape.reads_toJson hs h)

end VaultUsage.Json
