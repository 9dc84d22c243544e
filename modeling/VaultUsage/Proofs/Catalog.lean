import VaultUsage.Proofs.Results
import VaultUsage.Service.Client

/-!
# What a reply lists

The catalog is what the reply to its request lists (`Client.catalog_ok`). An array lists one vault for each of its
items, in their order, and is refused as a whole if one of them is no vault.
-/

namespace VaultUsage

/-- The vaults that a reply lists: one for each item of an array with status 200, and none in any other reply. -/
def Reply.Lists (reply : Reply) (catalog : List Vault) : Prop :=
  if reply.status = 200 then
    ∃ content, Json.parse reply.body = .ok content ∧
      match content with
      | .array items => List.Forall₂ (fun item v => Vault.shape.ofJson item = .ok v.toFields) items catalog
      | _ => catalog = []
  else catalog = []

theorem Vault.listOfJson_array {items : List Json} {vaults : List Vault} :
    listOfJson (.array items) = .ok vaults ↔
      List.Forall₂ (fun item v => shape.ofJson item = .ok v.toFields) items vaults := by
  have hread {fields : List shape.Value} : listShape.readValue (.array items) = .ok fields ↔
      List.Forall₂ (fun item v => shape.ofJson item = .ok v) items fields := by
    rw [← mapM_eq_ok]
    show Except.mapError _ (items.mapM shape.ofJson) = _ ↔ _
    cases items.mapM shape.ofJson with
    | error e => exact ⟨nofun, nofun⟩
    | ok fields =>
      exact ⟨fun h => congrArg Except.ok (Except.ok.inj h), fun h => congrArg Except.ok (Except.ok.inj h)⟩
  rw [listOfJson, map_eq_ok]
  constructor
  · rintro ⟨fields, hf, rfl⟩
    exact List.forall₂_map_right_iff.mpr (hread.mp hf)
  · intro h
    exact ⟨vaults.map toFields, hread.mpr (List.forall₂_map_right_iff.mpr h), List.map_map.trans (List.map_id vaults)⟩

namespace Client

theorem catalog_ok {c : Client} {before : Nat} {vaults : List Vault} :
    (c.catalog before).result = .ok vaults ↔
      ∃ reply, c.network.answer before c.catalogRequest = .ok reply ∧ reply.Lists vaults := by
  simp only [catalog, receive]
  cases c.network.answer before c.catalogRequest with
  | error detail => simp
  | ok reply =>
    simp only [catalogOf, Except.ok.injEq, exists_eq_left', Reply.Lists]
    split
    · cases Json.parse reply.body with
      | error e => simp
      | ok content =>
        simp only [Except.ok.injEq, exists_eq_left']
        cases content with
        | array items =>
          simp only [vaultsOf, ← Vault.listOfJson_array]
          cases Vault.listOfJson (.array items) <;> simp
        | _ => simp [vaultsOf, eq_comm]
    · simp [eq_comm]

end Client

end VaultUsage
