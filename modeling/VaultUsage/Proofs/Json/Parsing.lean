import VaultUsage.Proofs.Json.WellFormed

/-!
# Texts as values

A text of the grammar that is not nested too deep is read as the value it stands for, with the members of each
object put in order, and no other text is read (`parse_eq_ok`).
-/

namespace VaultUsage.Json

mutual

/-- How deep arrays and objects are nested. -/
def nesting (v : Json) : Nat :=
  match v with
  | .array items => nestingItems items + 1
  | .object members => nestingMembers members + 1
  | _ => 0
termination_by structural v

def nestingItems (items : List Json) : Nat :=
  match items with
  | [] => 0
  | v :: rest => max v.nesting (nestingItems rest)
termination_by structural items

def nestingMembers (members : List (String × Json)) : Nat :=
  match members with
  | [] => 0
  | (_, v) :: rest => max v.nesting (nestingMembers rest)
termination_by structural members

end

mutual

/-- The value with the members of its objects in ascending order; the last of several with one name counts. -/
def sorted (v : Json) : Json :=
  match v with
  | .array items => .array (sortedItems items)
  | .object members => .object (sortedMembers members [])
  | v => v
termination_by structural v

def sortedItems (items : List Json) : List Json :=
  match items with
  | [] => []
  | v :: rest => v.sorted :: sortedItems rest
termination_by structural items

def sortedMembers (members before : List (String × Json)) : List (String × Json) :=
  match members with
  | [] => before
  | (name, v) :: rest => sortedMembers rest (putMember name v.sorted before)
termination_by structural members

end

theorem sortedItems_eq_map (items : List Json) : sortedItems items = items.map sorted := by
  induction items with
  | nil => rfl
  | cons v items ih => rw [sortedItems, ih, List.map_cons]

mutual

theorem Source.toJson_holds {s : Source} {v : Json} (h : s.Holds v) {depth : Nat} (hd : v.nesting ≤ depth) :
    s.toJson depth = .ok v.sorted := by
  cases h with
  | null => rfl
  | boolean => rfl
  | number => rfl
  | string => rfl
  | array h =>
    rw [nesting] at hd
    have hitems := Items.toJson_hold h (by omega : _ ≤ depth - 1)
    rw [Source.toJson, if_neg (by omega), hitems]
    rfl
  | object h =>
    rw [nesting] at hd
    have hmembers := Members.toJson_hold h (by omega : _ ≤ depth - 1) []
    rw [Source.toJson, if_neg (by omega), hmembers]
    rfl

theorem Items.toJson_hold {items : Items} {values : List Json} (h : items.Hold values) {depth : Nat}
    (hd : nestingItems values ≤ depth) : items.toJson depth = .ok (sortedItems values) := by
  cases h with
  | closed => rfl
  | item hs hrest =>
    rw [nestingItems, Nat.max_le] at hd
    rw [Items.toJson, Source.toJson_holds hs hd.1, Items.toJson_hold hrest hd.2]
    rfl

theorem Members.toJson_hold {members : Members} {values : List (String × Json)} (h : members.Hold values) {depth : Nat}
    (hd : nestingMembers values ≤ depth) (before : List (String × Json)) :
    members.toJson depth before = .ok (sortedMembers values before) := by
  cases h with
  | closed => rfl
  | member hs hrest =>
    rw [nestingMembers, Nat.max_le] at hd
    rw [Members.toJson, Source.toJson_holds hs hd.1]
    exact Members.toJson_hold hrest hd.2 _

end

theorem parse_eq {text : String} {v : Json} (h : IsText text.toList v) (hd : v.nesting ≤ maxDepth) :
    parse text = .ok v.sorted := by
  obtain ⟨s, hs, hh⟩ := Document.read_holds h
  rw [parse, hs, Document.toJson, Source.toJson_holds hh hd]
  rfl

/-! ## Nothing else is read -/

mutual

theorem Source.exists_holds (s : Source) {depth : Nat} {w : Json} (h : s.toJson depth = .ok w) :
    ∃ v, s.Holds v ∧ v.nesting ≤ depth ∧ v.sorted = w := by
  cases s with
  | null p =>
    cases h
    exact ⟨_, .null, Nat.zero_le _, rfl⟩
  | boolean b p =>
    cases h
    exact ⟨_, .boolean, Nat.zero_le _, rfl⟩
  | number n p =>
    obtain ⟨m, rfl, rfl⟩ := map_eq_ok.mp h
    exact ⟨_, .number, Nat.zero_le _, rfl⟩
  | string t p =>
    obtain ⟨t, rfl, rfl⟩ := map_eq_ok.mp h
    exact ⟨_, .string, Nat.zero_le _, rfl⟩
  | array p items =>
    rw [Source.toJson] at h
    split at h
    · cases h
    next hdepth =>
    obtain ⟨values, hitems, rfl⟩ := map_eq_ok.mp h
    obtain ⟨before, hhold, hnesting, rfl⟩ := items.exists_hold hitems
    exact ⟨_, .array hhold, by rw [nesting]; omega, rfl⟩
  | object p members =>
    rw [Source.toJson] at h
    split at h
    · cases h
    next hdepth =>
    obtain ⟨values, hmembers, rfl⟩ := map_eq_ok.mp h
    obtain ⟨before, hhold, hnesting, rfl⟩ := members.exists_hold hmembers
    exact ⟨_, .object hhold, by rw [nesting]; omega, rfl⟩
  | broken => cases h

theorem Items.exists_hold (items : Items) {depth : Nat} {values : List Json} (h : items.toJson depth = .ok values) :
    ∃ before, items.Hold before ∧ nestingItems before ≤ depth ∧ sortedItems before = values := by
  cases items with
  | closed p =>
    cases h
    exact ⟨_, .closed, Nat.zero_le _, rfl⟩
  | item p s rest =>
    rw [Items.toJson] at h
    split at h
    · next v hs =>
      obtain ⟨values, hrest, rfl⟩ := map_eq_ok.mp h
      obtain ⟨u, hholds, hnesting, rfl⟩ := s.exists_holds hs
      obtain ⟨before, hhold, hnesting', rfl⟩ := rest.exists_hold hrest
      exact ⟨_, .item hholds hhold, Nat.max_le.mpr ⟨hnesting, hnesting'⟩, rfl⟩
    · cases h
  | broken => cases h

theorem Members.exists_hold (members : Members) {depth : Nat} {read values : List (String × Json)}
    (h : members.toJson depth read = .ok values) :
    ∃ before, members.Hold before ∧ nestingMembers before ≤ depth ∧ sortedMembers before read = values := by
  cases members with
  | closed p =>
    cases h
    exact ⟨_, .closed, Nat.zero_le _, rfl⟩
  | member name p s rest =>
    cases name with
    | error e => cases h
    | ok n =>
      rw [Members.toJson] at h
      split at h
      · next v hs =>
        obtain ⟨u, hholds, hnesting, rfl⟩ := s.exists_holds hs
        obtain ⟨before, hhold, hnesting', rfl⟩ := rest.exists_hold h
        exact ⟨_, .member hholds hhold, Nat.max_le.mpr ⟨hnesting, hnesting'⟩, rfl⟩
      · cases h
  | broken => cases h

end

/-- The texts that are read, each as the value that it stands for. -/
theorem parse_eq_ok {text : String} {w : Json} :
    parse text = .ok w ↔ ∃ v, IsText text.toList v ∧ v.nesting ≤ maxDepth ∧ v.sorted = w := by
  constructor
  · intro h
    obtain ⟨w', hvalue, hend⟩ := bind_eq_ok.mp h
    obtain ⟨v, hholds, hnesting, rfl⟩ := Source.exists_holds _ hvalue
    split at hend
    · next hnone =>
      cases hend
      have hread : Document.read text.toList = ⟨(Document.read text.toList).value, none⟩ := by rw [← hnone]
      obtain ⟨t, ht, hshows⟩ := Document.isWellFormed hread hholds.shows.skip
      rw [hshows.unique hholds.shows, isWellFormed_tree] at ht
      exact ⟨v, ht, hnesting, rfl⟩
    · cases hend
  · rintro ⟨v, ht, hnesting, rfl⟩
    exact parse_eq ht hnesting

end VaultUsage.Json
