import VaultUsage.Run
import VaultUsage.Proofs.Catalog
import VaultUsage.Proofs.Instants
import VaultUsage.Proofs.Json.Parsing
import VaultUsage.Proofs.Json.Reals
import VaultUsage.Proofs.Json.Shapes
import VaultUsage.Proofs.Rows

/-!
# What is printed as JSON is read back

A service that answers with a printed listing has the listed vaults for a catalog, and one that answers with a
printed summary has that summary, whatever order its maps are written in. The catalog is read through a JSON value,
with the members of each vault in the order of their names; a summary is read from the text at once. So is a report,
which comes back as it was but for its duration, a real number.
-/

namespace VaultUsage

open Json (Shape)

/-! ## Catalogs -/

namespace Vault

theorem isText_listing (vaults : List Vault) :
    Json.IsText ((listToJson vaults).pretty 0).toList (listToJson vaults) :=
  Json.isText_pretty (listShape.returns_toJson (listShape.returns_self rfl _))

/-- A vault as the catalog is read: its members in the order of their names. -/
theorem sorted_toJson (v : Vault) :
    v.toJson.sorted = .object [("name", .string v.name), ("vaultId", .string v.id)] := by
  have h : Json.putMember "name" (.string v.name) [("vaultId", .string v.id)] =
      [("name", .string v.name), ("vaultId", .string v.id)] := by
    rw [Json.putMember, if_neg (by decide), if_pos (by decide)]
  exact congrArg Json.object h

theorem ofJson_sorted (v : Vault) : shape.ofJson v.toJson.sorted = .ok v.toFields := by
  rw [sorted_toJson]
  rfl

theorem listToJson_eq (vaults : List Vault) : listToJson vaults = .array (vaults.map toJson) :=
  congrArg Json.array List.map_map

theorem nesting_listToJson (vaults : List Vault) : (listToJson vaults).nesting ≤ 2 := by
  have hitems : Json.nestingItems (vaults.map toJson) ≤ 1 := by
    induction vaults with
    | nil => exact Nat.zero_le 1
    | cons v vaults ih => exact Nat.max_le.mpr ⟨Nat.le_refl 1, ih⟩
  rw [listToJson_eq, Json.nesting]
  omega

theorem lists_listing (vaults : List Vault) : Reply.Lists ⟨200, Run.listing .json vaults⟩ vaults := by
  have hparse : Json.parse (Run.listing .json vaults) = .ok (listToJson vaults).sorted :=
    Json.parse_eq (isText_listing vaults) (Nat.le_trans (nesting_listToJson vaults) (by decide))
  rw [listToJson_eq, Json.sorted, Json.sortedItems_eq_map, List.map_map] at hparse
  unfold Reply.Lists
  rw [if_pos rfl]
  refine ⟨_, hparse, List.forall₂_map_left_iff.mpr ?_⟩
  exact List.forall₂_same.mpr fun v _ => v.ofJson_sorted

end Vault

/-! ## Summaries -/

namespace Summary

theorem ofFields_toFields (s : Summary) : ofFields s.toFields = s := by
  have hbreakdown (b : Option Breakdown) : Breakdown.ofFields (Breakdown.toFields b) = b := by
    cases b with
    | none => rfl
    | some m => exact congrArg some (NameMap.ext (List.map_map.trans (List.map_id m.entries)))
  simp only [toFields, ofFields, hbreakdown]
  rfl

theorem read_toJson (s : Summary) : read (s.toJson.pretty 0) = .ok s := by
  have h := @Shape.read_pretty shape (by decide) _ _ (shape.returns_self rfl s.toFields)
  rw [read, toJson, h]
  exact congrArg Except.ok s.ofFields_toFields

end Summary

/-! ## Reports -/

namespace Report

theorem ofFields_toFields (r : Report) : ofFields r.toFields = r := by
  have hrows : List.map Row.ofFields (List.map Row.toFields r.rows) = r.rows :=
    List.map_map.trans (List.map_id r.rows)
  simp only [toFields, ofFields, hrows]
  rfl

theorem returns_toFields {r : Report} (hlow : 0 ≤ r.generatedAt.date.year) (hhigh : r.generatedAt.date.year ≤ 9999)
    {duration : Binary64} (hd : Json.Number.Returns (.real r.duration) (.real duration)) :
    shape.Returns r.toFields { r with duration }.toFields :=
  have hmetadata : metadataShape.Returns r.toFields.1 { r with duration }.toFields.1 :=
    ⟨rfl, rfl, ⟨rfl, Instant.read_render hlow hhigh⟩, rfl, hd, trivial⟩
  ⟨hmetadata, (Shape.list Row.shape).returns_self rfl _, Usage.shape.returns_self rfl _, trivial⟩

/-- The text of a report is read as the same report, but for its duration, if its year has four digits and its
duration is at most 1e9. -/
theorem read_json {r : Report} (hyear : 0 ≤ r.generatedAt.date.year ∧ r.generatedAt.date.year ≤ 9999)
    (hd : r.duration.num ≤ 10 ^ 9 * r.duration.den) : ∃ duration, read r.json = .ok { r with duration } := by
  obtain ⟨duration, hreturns⟩ := Json.Number.real_returns hd
  have h := @Shape.read_pretty shape (by decide) _ _ (returns_toFields hyear.1 hyear.2 hreturns)
  refine ⟨duration, ?_⟩
  rw [read, json, toJson, h]
  exact congrArg Except.ok (ofFields_toFields _)

/-- A leap second with a fraction, figures at the top of the range, and a tenth of a second. -/
theorem read_json_leapSecond :
    let r : Report :=
      { source := "http://host/", project := "\"\\\x07",
        generatedAt := ⟨⟨0, 2, 29⟩, ⟨23, 59, 60, 7000⟩, by decide⟩,
        vaultCount := 2, duration := ⟨false, 7205759403792794, -56⟩,
        rows := [⟨"é\n", 18446744073709551615, 0⟩, ⟨"", 0, 1⟩], totals := ⟨18446744073709551615, 1⟩ }
    ∃ duration, read r.json = .ok { r with duration } :=
  read_json ⟨by decide, by decide⟩ (by decide)

end Report

/-! ## Clients -/

namespace Client

/-- A client that gets a printed listing for its catalog request has the vaults of the listing, and one that gets a
summary written in some order of its maps has that summary; the printed one is in such an order. -/
theorem printed_json_read_back (c : Client) (before : Nat) :
    (∀ vaults, c.network.answer before c.catalogRequest = .ok ⟨200, Run.listing .json vaults⟩ →
      (c.catalog before).result = .ok vaults) ∧
    ∀ (project vault : String) (s : Summary),
      (∀ t, s.Same t → c.network.answer before (c.summaryRequest project vault) = .ok ⟨200, t.toJson.pretty 0⟩ →
        (c.summary before project vault).result = .ok (some t)) ∧
      ∀ order, ∃ t, s.Same t ∧ ∀ sizes, Run.detail order .json sizes project vault (some s) = t.toJson.pretty 0 := by
  refine ⟨fun vaults h => ?_, fun project vault s => ⟨fun t _ h => ?_, fun order => ?_⟩⟩
  · exact catalog_ok.mpr ⟨_, h, Vault.lists_listing vaults⟩
  · refine (summary_ok c project).mpr ⟨_, h, ?_⟩
    rw [if_pos rfl]
    exact ⟨t, t.read_toJson, rfl⟩
  · exact ⟨s.arranged order, s.arranged_same order, fun _ => rfl⟩

/-- Quotes, controls, an empty map and one that is printed in another order. -/
theorem printed_json_read_back_escaped :
    let vaults : List Vault := [⟨"a\"\\", "\x00\n\t"⟩, ⟨"", "\u2028"⟩]
    let s : Summary :=
      { total := ⟨3, 18446744073709551615⟩, gnmType := some .empty,
        fileType := some ⟨[("wav", ⟨2, 0⟩), ("\\", ⟨1, 5⟩)], by decide⟩ }
    let printed (before : Nat) : String :=
      if before = 0 then Run.listing .json vaults else Run.detail .byName .json {} "p" "v" (some s)
    let base : BaseUrl := ⟨⟨.https, ⟨"", none⟩, .domain "host", none, [""]⟩, rfl⟩
    let c : Client := ⟨base, none, { answer := fun before _ => .ok ⟨200, printed before⟩ }⟩
    (c.catalog 0).result = .ok vaults ∧ (c.summary 1 "p" "v").result = .ok (some s.byName) := by
  intro vaults s printed base c
  exact ⟨(printed_json_read_back c 0).1 vaults rfl,
    ((printed_json_read_back c 1).2 "p" "v" s).1 s.byName s.byName_same rfl⟩

end Client

end VaultUsage
