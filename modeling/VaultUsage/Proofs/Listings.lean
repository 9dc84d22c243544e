import VaultUsage.Proofs.Catalog
import VaultUsage.Proofs.Json.FromText
import VaultUsage.Proofs.Json.FromValue
import VaultUsage.Proofs.Json.Rearranging
import VaultUsage.Proofs.Json.Sorting

/-!
# Listings of vaults

What the catalog is for every answer to its request (`Client.catalog_all_or_nothing`). The body is read as a value
first, with the members of its objects put in order, and then as vaults. Read as vaults at once, it gives the same
ones where no name is repeated, and never others (`Vault.readList_of_listOfJson`).
-/

namespace VaultUsage

open Json (Shape Tree IsWellFormed IsText itemTrees memberTrees valuesOf lastOf?)

/-! ## Strings -/

namespace Json

theorem tree_eq_string {v : Json} {s : String} : v.tree = .string (some s) ↔ v = .string s := by
  cases v with
  | string => rw [tree, Tree.string.injEq, Option.some.injEq, Json.string.injEq]
  | _ => simp [tree]

theorem tree_sorted_eq_string {v : Json} {s : String} : v.sorted.tree = .string (some s) ↔ v = .string s := by
  rw [tree_eq_string]
  cases v with
  | string => exact Iff.rfl
  | _ => simp [sorted]

theorem map_eq_strings {f : Json → Tree} (hf : ∀ {v s}, f v = .string (some s) ↔ v = .string s) {items : List Json}
    {l : List String} : (items.map f = l.map fun s => .string (some s)) ↔ items = l.map .string := by
  induction items generalizing l with
  | nil => cases l <;> simp
  | cons v items ih => cases l <;> simp [hf, ih]

end Json

/-! ## Vaults as JSON -/

namespace Vault

/-- In an object the last member of each name counts, in whatever place; an array has the fields in order. -/
def Describes (item : Json) (v : Vault) : Prop :=
  (∃ members, item = .object members ∧ lastOf? "vaultId" members = some (.string v.id) ∧
    lastOf? "name" members = some (.string v.name)) ∨ item = .array [.string v.id, .string v.name]

theorem reads_iff {r : Json.TableRule} {t : Tree} {v : Vault} :
    shape.Reads r t v.toFields ↔
      (∃ members, t = .object members ∧ (∀ m ∈ members, m.1 ≠ none) ∧
        valuesOf "vaultId" members = [.string (some v.id)] ∧ valuesOf "name" members = [.string (some v.name)]) ∨
      t = .array [.string (some v.id), .string (some v.name)] := by
  refine or_congr (exists_congr fun members => and_congr Iff.rfl (and_congr Iff.rfl ?_)) ?_
  · refine (Json.Fields.readMembers_required rfl).trans (and_congr ?_ ?_)
    · exact ⟨fun ⟨t, ht, hv⟩ => hv ▸ ht, fun h => ⟨_, h, rfl⟩⟩
    · refine (Json.Fields.readMembers_required rfl).trans ((and_iff_left trivial).trans ?_)
      exact ⟨fun ⟨t, ht, hv⟩ => hv ▸ ht, fun h => ⟨_, h, rfl⟩⟩
  · constructor
    · rintro ⟨items, rfl, hrow⟩
      obtain ⟨id, more, rfl, rfl, hmore⟩ := (Json.Fields.readRow_required rfl).mp hrow
      obtain ⟨name, none, rfl, rfl, rfl⟩ := (Json.Fields.readRow_required rfl).mp hmore
      rfl
    · rintro rfl
      refine ⟨_, rfl, (Json.Fields.readRow_required rfl).mpr ⟨_, _, rfl, rfl, ?_⟩⟩
      exact (Json.Fields.readRow_required rfl).mpr ⟨_, _, rfl, rfl, rfl⟩

/-- What an item of the text is read as, once its members are in order. -/
theorem ofJson_sorted_iff {item : Json} {v : Vault} : shape.ofJson item.sorted = .ok v.toFields ↔ Describes item v := by
  rw [shape.ofJson_eq_ok (by decide), reads_iff]
  have hlast (name s : String) (members : List (String × Json)) :
      valuesOf name (memberTrees (Json.sortedMembers members [])) = [.string (some s)] ↔
        lastOf? name members = some (.string s) := by
    rw [Json.valuesOf_sortedMembers]
    cases lastOf? name members with
    | none => simp
    | some v => simp [Json.tree_sorted_eq_string]
  cases item with
  | object members =>
    refine or_congr ?_ (by simp [Json.sorted, Json.tree])
    constructor
    · rintro ⟨_, ht, -, hid, hname⟩
      cases ht
      exact ⟨members, rfl, (hlast _ _ _).mp hid, (hlast _ _ _).mp hname⟩
    · rintro ⟨_, ht, hid, hname⟩
      cases ht
      exact ⟨_, rfl, Json.named_memberTrees, (hlast _ _ _).mpr hid, (hlast _ _ _).mpr hname⟩
  | array items =>
    refine or_congr (by simp [Json.sorted, Json.tree]) ?_
    rw [Json.sorted, Json.sortedItems_eq_map, Json.tree, Json.itemTrees_eq_map, List.map_map, Tree.array.injEq,
      Json.array.injEq]
    exact Json.map_eq_strings (f := Json.tree ∘ Json.sorted) Json.tree_sorted_eq_string (l := [v.id, v.name])
  | _ => simp [Json.sorted, Json.tree, Describes]

theorem listOfJson_sorted {items : List Json} {vaults : List Vault} :
    listOfJson (.array (Json.sortedItems items)) = .ok vaults ↔ List.Forall₂ Describes items vaults := by
  rw [listOfJson_array, Json.sortedItems_eq_map, List.forall₂_map_left_iff]
  simp only [ofJson_sorted_iff]

/-- The error of a listing is that of its first item that is no vault. -/
theorem listOfJson_sorted_error {items : List Json} {e : Json.Error} :
    listOfJson (.array (Json.sortedItems items)) = .error e ↔
      ∃ front item back, items = front ++ item :: back ∧ (∀ i ∈ front, ∃ v, Describes i v) ∧
        shape.readValue item.sorted = .error e := by
  have hread : listOfJson (.array (Json.sortedItems items)) = .error e ↔
      items.mapM (fun item => shape.readValue item.sorted) = .error e := by
    have hvalue : listShape.readValue (.array (Json.sortedItems items)) =
        items.mapM fun item => shape.readValue item.sorted := by
      rw [Json.sortedItems_eq_map]
      exact (mapM_mapError _ _ _).trans List.mapM_map
    rw [listOfJson, map_eq_error, hvalue]
    exact Iff.rfl
  have hdescribes (item : Json) : (∃ fields, shape.readValue item.sorted = .ok fields) ↔ ∃ v, Describes item v := by
    simp only [Shape.readValue, mapError_eq_ok, ← ofJson_sorted_iff]
    constructor
    · rintro ⟨fields, h⟩
      exact ⟨ofFields fields, h⟩
    · rintro ⟨v, h⟩
      exact ⟨v.toFields, h⟩
  rw [hread, mapM_eq_error]
  simp only [hdescribes]

/-! ## Read at once -/

/-- Who is read at once has each field once, so it is also the last one. -/
theorem describes_of_reads {item : Json} {v : Vault} (h : shape.Reads Json.Collects item.tree v.toFields) :
    Describes item v := by
  have hlast {name s : String} {members : List (String × Json)}
      (h : valuesOf name (memberTrees members) = [.string (some s)]) : lastOf? name members = some (.string s) := by
    have hget := Json.getLast?_valuesOf name members
    rw [h, List.getLast?_singleton] at hget
    obtain ⟨w, hw, ht⟩ := Option.map_eq_some_iff.mp hget.symm
    rw [hw, Json.tree_eq_string.mp ht]
  cases item with
  | object members =>
    rcases reads_iff.mp h with ⟨_, ht, -, hid, hname⟩ | ht
    · cases ht
      exact .inl ⟨members, rfl, hlast hid, hlast hname⟩
    · cases ht
  | array items =>
    rcases reads_iff.mp h with ⟨_, ht, -⟩ | ht
    · cases ht
    · rw [Json.tree, Json.itemTrees_eq_map, Tree.array.injEq] at ht
      exact .inr (congrArg _ ((Json.map_eq_strings Json.tree_eq_string (l := [v.id, v.name])).mp ht))
  | _ =>
    rcases reads_iff.mp h with ⟨_, ht, -⟩ | ht
    · cases ht
    · cases ht

theorem reads_of_describes {item : Json} {v : Vault} (hnames : item.tree.HasDistinctNames) (h : Describes item v) :
    shape.Reads Json.Collects item.tree v.toFields := by
  rcases h with ⟨members, rfl, hid, hname⟩ | rfl
  · cases hnames with
    | object hnames _ =>
      have honly {name s : String} (h : lastOf? name members = some (.string s)) :
          valuesOf name (memberTrees members) = [.string (some s)] := by
        have hlength := Json.length_valuesOf name (memberTrees members)
        have hcount := List.nodup_iff_count_le_one.mp hnames name
        have hget := Json.getLast?_valuesOf name members
        rw [h] at hget
        match hvalues : valuesOf name (memberTrees members), hget with
        | [t], hget => exact congrArg (· :: []) (Option.some.inj hget)
        | _ :: _ :: _, _ => rw [hvalues] at hlength; simp only [List.length_cons] at hlength; omega
      exact reads_iff.mpr (.inl ⟨_, rfl, Json.named_memberTrees, honly hid, honly hname⟩)
  · exact reads_iff.mpr (.inr rfl)

theorem readList_eq_ok {body : String} {v : Json} (hbody : IsText body.toList v) {vaults : List Vault} :
    readList body = .ok vaults ↔
      ∃ items, v = .array items ∧
        List.Forall₂ (fun item vault => shape.Reads Json.Collects item.tree vault.toFields) items vaults := by
  have hread {fields : listShape.Value} :
      listShape.read body = .ok fields ↔ listShape.Reads Json.Collects v.tree fields :=
    listShape.read_of_isWellFormed (by decide) (Json.isWellFormed_tree.mpr hbody)
  rw [readList, map_eq_ok]
  simp only [hread]
  constructor
  · rintro ⟨fields, ⟨trees, htrees, hv⟩, rfl⟩
    cases v with
    | array items =>
      rw [Json.tree, Json.itemTrees_eq_map, Tree.array.injEq] at htrees
      subst htrees
      exact ⟨items, rfl, List.forall₂_map_right_iff.mpr (List.forall₂_map_left_iff.mp hv)⟩
    | _ => cases htrees
  · rintro ⟨items, rfl, hv⟩
    refine ⟨vaults.map toFields, ⟨_, rfl, ?_⟩, List.map_map.trans (List.map_id vaults)⟩
    rw [Json.itemTrees_eq_map]
    exact List.forall₂_map_left_iff.mpr (List.forall₂_map_right_iff.mpr hv)

/-- A body that is a value and an array: where no object has a name twice, the vaults of the value are those that the
text is read as at once. Whatever else the text is read as at once, the value is read as the same. -/
theorem listOfJson_agrees_readList {body : String} {items : List Json} (h : Json.parse body = .ok (.array items)) :
    (∀ t, IsWellFormed body.toList t → t.HasDistinctNames →
      ∀ vaults, listOfJson (.array items) = .ok vaults → readList body = .ok vaults) ∧
    ∀ vaults, readList body = .ok vaults → listOfJson (.array items) = .ok vaults := by
  obtain ⟨v, hbody, -, hsorted⟩ := Json.parse_eq_ok.mp h
  obtain ⟨before, rfl, rfl⟩ : ∃ before, v = .array before ∧ Json.sortedItems before = items := by
    cases v with
    | array before => exact ⟨before, rfl, Json.array.inj hsorted⟩
    | _ => cases hsorted
  simp only [listOfJson_sorted, readList_eq_ok hbody, Json.array.injEq, exists_eq_left']
  constructor
  · intro t ht hnames vaults hv
    cases Json.isWellFormed_unique ht (Json.isWellFormed_tree.mpr hbody)
    cases hnames with
    | array hnames =>
      rw [Json.itemTrees_eq_map] at hnames
      exact Json.forall₂_imp_mem hv fun item hi vault => reads_of_describes (hnames _ (List.mem_map_of_mem hi))
  · exact fun vaults hv => hv.imp fun _ _ => describes_of_reads

/-- Names in another order and with an escape, an unknown member with a nested value, and a vault given as an array. -/
theorem listOfJson_agrees_readList_unknown :
    let body := "[\x7b\"vault\\u0049d\":\"a\",\"x\":[[-7]],\"name\":\"A\"\x7d, [\"b\",\"B\"]]"
    ∃ items, Json.parse body = .ok (.array items) ∧ listOfJson (.array items) = .ok [⟨"a", "A"⟩, ⟨"b", "B"⟩] ∧
      readList body = .ok [⟨"a", "A"⟩, ⟨"b", "B"⟩] := by
  intro body
  let first := [("vaultId", Json.string "a"), ("x", .array [.array [.number (.integer (-7))]]), ("name", .string "A")]
  let v : Json := .array [.object first, .array [.string "b", .string "B"]]
  have hbody : IsText body.toList v := by decide +kernel
  have hparse : Json.parse body = .ok v.sorted := Json.parse_eq hbody (by decide)
  have hnames : v.tree.HasDistinctNames := by
    refine .array (List.forall_mem_cons.mpr ⟨.object (by decide) ?_, List.forall_mem_singleton.mpr ?_⟩)
    · exact List.forall_mem_cons.mpr ⟨.string, List.forall_mem_cons.mpr
        ⟨.array (List.forall_mem_singleton.mpr (.array (List.forall_mem_singleton.mpr .number))),
          List.forall_mem_singleton.mpr .string⟩⟩
    · exact .array (List.forall_mem_cons.mpr ⟨.string, List.forall_mem_singleton.mpr .string⟩)
  have hlist : listOfJson v.sorted = .ok [⟨"a", "A"⟩, ⟨"b", "B"⟩] :=
    listOfJson_sorted.mpr (.cons (.inl ⟨first, rfl, rfl, rfl⟩) (.cons (.inr rfl) .nil))
  exact ⟨_, hparse, hlist, (listOfJson_agrees_readList hparse).1 _ (Json.isWellFormed_tree.mpr hbody) hnames _ hlist⟩

end Vault

/-! ## Catalogs -/

namespace Client

theorem vaultsOf_array (url : Url) (items : List Json) :
    (vaultsOf url (.array items)).1 = (Vault.listOfJson (.array items)).mapError (.decode url) := by
  rw [vaultsOf]
  cases Vault.listOfJson (.array items) <;> rfl

/-- What the catalog is for each answer. With status 200 and a body that is an array, it is the vaults that the items
describe, one for each and in their order, or else the error of the first item that describes none; so it is not empty
unless the array is. -/
theorem catalog_all_or_nothing (c : Client) (before : Nat) :
    (∀ detail, c.network.answer before c.catalogRequest = .error detail →
      (c.catalog before).result = .error (.transport detail)) ∧
    ∀ reply, c.network.answer before c.catalogRequest = .ok reply →
      (reply.status ≠ 200 → (c.catalog before).result = .ok []) ∧
      (reply.status = 200 →
        ((¬∃ v, IsText reply.body.toList v ∧ v.nesting ≤ Json.maxDepth) →
          ∃ cause, Json.parse reply.body = .error cause ∧
            (c.catalog before).result = .error (.decode c.catalogRequest.url cause)) ∧
        ∀ v, IsText reply.body.toList v → v.nesting ≤ Json.maxDepth →
          ((∀ items, v ≠ .array items) → (c.catalog before).result = .ok []) ∧
          ∀ items, v = .array items →
            (∀ vaults, (c.catalog before).result = .ok vaults ↔ List.Forall₂ Vault.Describes items vaults) ∧
            ((¬∃ vaults, List.Forall₂ Vault.Describes items vaults) →
              ∃ front item back cause, items = front ++ item :: back ∧ (∀ i ∈ front, ∃ vault, Vault.Describes i vault) ∧
                Vault.shape.readValue item.sorted = .error cause ∧
                (c.catalog before).result = .error (.decode c.catalogRequest.url cause))) := by
  have hanswer {reply : Reply} (h : c.network.answer before c.catalogRequest = .ok reply) :
      (c.catalog before).result = (catalogOf c.catalogRequest.url reply).1 := by
    simp only [catalog, receive, h]
  refine ⟨fun detail h => by simp only [catalog, receive, h], fun reply h => ?_⟩
  rw [hanswer h, catalogOf]
  refine ⟨fun hstatus => by rw [if_neg hstatus], fun hstatus => ?_⟩
  rw [if_pos hstatus]
  refine ⟨fun hnone => ?_, fun v hbody hnesting => ?_⟩
  · cases hparse : Json.parse reply.body with
    | error cause => exact ⟨cause, rfl, rfl⟩
    | ok w =>
      obtain ⟨v, hbody, hnesting, -⟩ := Json.parse_eq_ok.mp hparse
      exact absurd ⟨v, hbody, hnesting⟩ hnone
  · rw [Json.parse_eq hbody hnesting]
    refine ⟨fun hother => ?_, ?_⟩
    · cases v with
      | array items => exact absurd rfl (hother items)
      | _ => rfl
    · rintro items rfl
      simp only [Json.sorted, vaultsOf_array, mapError_eq_ok, Vault.listOfJson_sorted, true_and, implies_true]
      intro hnone
      cases hlist : Vault.listOfJson (.array (Json.sortedItems items)) with
      | ok vaults => exact absurd ⟨vaults, Vault.listOfJson_sorted.mp hlist⟩ hnone
      | error cause =>
        obtain ⟨front, item, back, hitems, hfront, hcause⟩ := Vault.listOfJson_sorted_error.mp hlist
        exact ⟨front, item, back, cause, hitems, hfront, hcause, rfl⟩

/-- A vault with its id twice is listed by the second one; of two items that are no vaults the first one is told. -/
theorem catalog_all_or_nothing_repeated :
    let listing := "[[\"b\",\"B\"],\x7b\"vaultId\":\"x\",\"name\":\"A\",\"vaultId\":\"a\"\x7d]"
    let broken := "[[\"b\",\"B\"],\x7b\"name\":\"A\"\x7d,7]"
    let base : BaseUrl := ⟨⟨.https, ⟨"", none⟩, .domain "host", none, [""]⟩, rfl⟩
    let c : Client := ⟨base, none, { answer := fun before _ => .ok ⟨200, if before = 0 then listing else broken⟩ }⟩
    (c.catalog 0).result = .ok [⟨"b", "B"⟩, ⟨"a", "A"⟩] ∧
      ∃ cause, (c.catalog 1).result = .error (.decode c.catalogRequest.url cause) := by
  intro listing broken base c
  let repeated := [("vaultId", Json.string "x"), ("name", .string "A"), ("vaultId", .string "a")]
  let items := [Json.array [.string "b", .string "B"], .object repeated]
  let items' := [Json.array [.string "b", .string "B"], .object [("name", .string "A")], .number (.integer 7)]
  have hlisting : IsText listing.toList (.array items) := by decide +kernel
  have hbroken : IsText broken.toList (.array items') := by decide +kernel
  have hnone : ¬∃ vaults, List.Forall₂ Vault.Describes items' vaults := by
    rintro ⟨vaults, h⟩
    obtain ⟨_, _, -, h, -⟩ := List.forall₂_cons_left_iff.mp h
    obtain ⟨_, _, ⟨_, h, hid, -⟩ | h, -, -⟩ := List.forall₂_cons_left_iff.mp h
    · cases h
      cases hid
    · cases h
  obtain ⟨hvaults, -⟩ := (((catalog_all_or_nothing c 0).2 _ rfl).2 rfl).2 _ hlisting (by decide) |>.2 _ rfl
  obtain ⟨-, herror⟩ := (((catalog_all_or_nothing c 1).2 _ rfl).2 rfl).2 _ hbroken (by decide) |>.2 _ rfl
  obtain ⟨_, _, _, cause, -, -, -, h⟩ := herror hnone
  exact ⟨(hvaults _).mpr (.cons (.inr rfl) (.cons (.inl ⟨repeated, rfl, rfl, rfl⟩) .nil)), cause, h⟩

end Client

end VaultUsage
