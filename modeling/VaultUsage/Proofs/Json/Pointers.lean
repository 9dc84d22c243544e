import VaultUsage.Proofs.Json.Decoding
import VaultUsage.Proofs.Json.Places

/-!
# Fields and their places

A field is read from what stands in its place, in an object or in an array. With something else there that can be read,
the record is the same but for this field (`Fields.Pointer.exists_inner`).
-/

namespace VaultUsage.Json

/-- A field of a record, with its name and shape. -/
inductive Fields.Pointer : Fields → String → Shape → Type where
  | here {name : String} {shape : Shape} {rest : Fields} : Pointer (.cons name shape rest) name shape
  | there {n name : String} {s shape : Shape} {rest : Fields} :
    Pointer rest name shape → Pointer (.cons n s rest) name shape

namespace Fields.Pointer

variable {fields : Fields} {name : String} {shape : Shape}

def index {fields : Fields} : fields.Pointer name shape → Nat
  | here => 0
  | there p => p.index + 1

def get : {fields : Fields} → fields.Pointer name shape → fields.Value → shape.Value
  | cons _ _ _, here, v => v.1
  | cons _ _ _, there p, v => p.get v.2

def set : {fields : Fields} → fields.Pointer name shape → shape.Value → fields.Value → fields.Value
  | cons _ _ _, here, w, v => (w, v.2)
  | cons _ _ _, there p, w, v => (v.1, p.set w v.2)

theorem set_get : ∀ {fields : Fields} (p : fields.Pointer name shape) (v : fields.Value), p.set (p.get v) v = v
  | cons _ _ _, here, _ => rfl
  | cons _ _ _, there p, v => congrArg (Prod.mk v.1) (p.set_get v.2)

theorem mem_names {fields : Fields} : fields.Pointer name shape → name ∈ fields.names
  | here => List.mem_cons_self
  | there p => List.mem_cons_of_mem _ p.mem_names

theorem isSound {fields : Fields} (p : fields.Pointer name shape) (hs : fields.areSound = true) :
    shape.isSound = true := by
  induction p with
  | here => exact (Bool.and_eq_true_iff.mp hs).1
  | there p ih => exact ih (Bool.and_eq_true_iff.mp hs).2

variable {r : TableRule} {t t' : Tree}

/-! ## Members -/

section
variable {before after : List (Option String × Tree)}

theorem readMembers_get : ∀ {fields : Fields} (p : fields.Pointer name shape) {v : fields.Value},
    fields.ReadMembers r (before ++ (some name, t) :: after) v → shape.Reads r t (p.get v)
  | cons _ _ _, here, v, ⟨.inl ⟨u, hu, hv⟩, _⟩ => by
    obtain ⟨rfl, -⟩ := valuesOf_replace (c := t) hu
    exact hv
  | cons _ _ _, here, _, ⟨.inr ⟨hnone, _⟩, _⟩ => by
    rw [valuesOf_append, valuesOf_cons_self] at hnone
    cases (List.append_eq_nil_iff.mp hnone).2
  | cons _ _ _, there p, _, ⟨_, hrest⟩ => p.readMembers_get hrest

theorem readMembers_set : ∀ {fields : Fields} (p : fields.Pointer name shape), fields.names.Nodup →
    ∀ {v : fields.Value} {w : shape.Value}, fields.ReadMembers r (before ++ (some name, t) :: after) v →
      shape.Reads r t' w → fields.ReadMembers r (before ++ (some name, t') :: after) (p.set w v)
  | cons _ _ rest, here, hn, v, w, ⟨hfirst, hrest⟩, hw => by
    rw [names, List.nodup_cons] at hn
    refine ⟨?_, (readMembers_congr fun n hmem => ?_).mp hrest⟩
    · rcases hfirst with ⟨u, hu, -⟩ | ⟨hnone, -⟩
      · exact .inl ⟨t', (valuesOf_replace hu).2, hw⟩
      · rw [valuesOf_append, valuesOf_cons_self] at hnone
        cases (List.append_eq_nil_iff.mp hnone).2
    · exact valuesOf_replace_ne (by rintro rfl; exact hn.1 hmem) t t'
  | cons n _ rest, there p, hn, v, w, ⟨hfirst, hrest⟩, hw => by
    rw [names, List.nodup_cons] at hn
    have hne : name ≠ n := by
      rintro rfl
      exact hn.1 p.mem_names
    rw [valuesOf_replace_ne hne t t'] at hfirst
    exact ⟨hfirst, p.readMembers_set hn.2 hrest hw⟩

theorem readMembers_imp (p : fields.Pointer name shape) (hn : fields.names.Nodup)
    (h : ∀ {w}, shape.Reads r t w → shape.Reads r t' w) {v : fields.Value}
    (hv : fields.ReadMembers r (before ++ (some name, t) :: after) v) :
    fields.ReadMembers r (before ++ (some name, t') :: after) v := by
  have hset := p.readMembers_set hn hv (h (p.readMembers_get hv))
  rwa [p.set_get] at hset

end

/-! ## Rows -/

theorem readRow_get : ∀ {fields : Fields} (p : fields.Pointer name shape) {before after : List Tree} {v : fields.Value},
    before.length = p.index → fields.ReadRow r (before ++ t :: after) v → shape.Reads r t (p.get v)
  | cons _ _ _, here, before, _, _, hlength, hv => by
    cases List.length_eq_zero_iff.mp hlength
    exact (readRow_cons.mp hv).1
  | cons _ _ _, there p, [], _, _, hlength, _ => nomatch hlength
  | cons _ _ _, there p, _ :: before, _, _, hlength, hv => p.readRow_get (Nat.succ.inj hlength) (readRow_cons.mp hv).2

theorem readRow_set : ∀ {fields : Fields} (p : fields.Pointer name shape) {before after : List Tree} {v : fields.Value}
    {w : shape.Value}, before.length = p.index → fields.ReadRow r (before ++ t :: after) v → shape.Reads r t' w →
      fields.ReadRow r (before ++ t' :: after) (p.set w v)
  | cons _ _ _, here, before, _, _, _, hlength, hv, hw => by
    cases List.length_eq_zero_iff.mp hlength
    exact readRow_cons.mpr ⟨hw, (readRow_cons.mp hv).2⟩
  | cons _ _ _, there p, [], _, _, _, hlength, _, _ => nomatch hlength
  | cons _ _ _, there p, _ :: before, _, _, _, hlength, hv, hw => by
    obtain ⟨hfirst, hrest⟩ := readRow_cons.mp hv
    exact readRow_cons.mpr ⟨hfirst, p.readRow_set (Nat.succ.inj hlength) hrest hw⟩

theorem readRow_imp (p : fields.Pointer name shape) (h : ∀ {w}, shape.Reads r t w → shape.Reads r t' w)
    {before after : List Tree} {v : fields.Value} (hlength : before.length = p.index)
    (hv : fields.ReadRow r (before ++ t :: after) v) : fields.ReadRow r (before ++ t' :: after) v := by
  have hset := p.readRow_set hlength hv (h (p.readRow_get hlength hv))
  rwa [p.set_get] at hset

/-! ## Records -/

/-- The field of a record that is reached first on the way to a place, and the way on from there. -/
theorem exists_inner (p : fields.Pointer name shape) {c : Context} {path : List (String × Nat)}
    (hc : c.Follows ((name, p.index) :: path)) (record : String) :
    ∃ inner : Context, inner.Follows path ∧
      (∀ {t v}, (Shape.record record fields).Reads r (c.plug t) v → shape.Reads r (inner.plug t) (p.get v)) ∧
      (fields.names.Nodup → ∀ {t t' v w}, (Shape.record record fields).Reads r (c.plug t) v →
        shape.Reads r (inner.plug t') w → (Shape.record record fields).Reads r (c.plug t') (p.set w v)) := by
  cases c with
  | here => cases hc
  | item before inner after =>
    obtain ⟨field, more, hpath, hlength, hinner⟩ := hc
    cases hpath
    refine ⟨inner, hinner, fun h => ?_, fun _ _ _ _ _ h hw => ?_⟩
    · exact p.readRow_get hlength (Shape.reads_record_array.mp h)
    · exact Shape.reads_record_array.mpr (p.readRow_set hlength (Shape.reads_record_array.mp h) hw)
  | member before n inner after =>
    obtain ⟨field, more, hpath, rfl, hinner⟩ := hc
    cases hpath
    refine ⟨inner, hinner, fun h => ?_, fun hn _ _ _ _ h hw => ?_⟩
    · exact p.readMembers_get (Shape.reads_record_object.mp h).2
    · obtain ⟨hnames, hv⟩ := Shape.reads_record_object.mp h
      exact Shape.reads_record_object.mpr ⟨named_replace hnames, p.readMembers_set hn hv hw⟩

end Fields.Pointer

end VaultUsage.Json
