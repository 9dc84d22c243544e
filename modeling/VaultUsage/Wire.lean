import VaultUsage.Json.Printer
import VaultUsage.Json.Shape.ToValue
import VaultUsage.Report.Basic

/-!
# JSON forms

How the service and the JSON reports write vaults, summaries and reports. Each has a shape and two
functions between the fields of the shape and the type itself, inverse to each other.
-/

namespace VaultUsage

open Json (Shape Fields)

namespace Vault

def shape : Shape := .record "VaultDescription" (.cons "vaultId" .text (.cons "name" .text .nil))

def ofFields : shape.Value → Vault
  | (id, name, ()) => ⟨id, name⟩

def toFields (v : Vault) : shape.Value := (v.id, v.name, ())

def toJson (v : Vault) : Json := shape.toJson v.toFields

end Vault

namespace Usage

def shape : Shape := .record "SummaryEntry" (.cons "count" (.whole "u64") (.cons "size" (.whole "u64") .nil))

def ofFields : shape.Value → Usage
  | (count, size, ()) => ⟨count, size⟩

def toFields (u : Usage) : shape.Value := (u.count, u.size, ())

def toJson (u : Usage) : Json := shape.toJson u.toFields

end Usage

namespace NameMap

variable {α β : Type}

def mapValues (f : α → β) (m : NameMap α) : NameMap β :=
  ⟨m.entries.map fun e => (e.1, f e.2), by
    have h : (m.entries.map fun e => (e.1, f e.2)).map Prod.fst = m.entries.map Prod.fst := by simp
    exact h ▸ m.distinct⟩

end NameMap

namespace Breakdown

def shape : Shape := .optional (.table Usage.shape)

def ofFields (b : shape.Value) : Option Breakdown := Option.map (NameMap.mapValues Usage.ofFields) b

def toFields (b : Option Breakdown) : shape.Value := Option.map (NameMap.mapValues Usage.toFields) b

end Breakdown

namespace Summary

def shape : Shape :=
  .record "VaultUsageSummary" (.cons "total" Usage.shape (.cons "gnmType" Breakdown.shape
    (.cons "fileType" Breakdown.shape (.cons "mediaType" Breakdown.shape (.cons "hiddenFile" Breakdown.shape
      (.cons "gnmProject" Breakdown.shape .nil))))))

def ofFields : shape.Value → Summary
  | (total, gnmType, fileType, mediaType, hiddenFile, gnmProject, ()) =>
    ⟨Usage.ofFields total, Breakdown.ofFields gnmType, Breakdown.ofFields fileType, Breakdown.ofFields mediaType,
      Breakdown.ofFields hiddenFile, Breakdown.ofFields gnmProject⟩

def toFields (s : Summary) : shape.Value :=
  (s.total.toFields, Breakdown.toFields s.gnmType, Breakdown.toFields s.fileType, Breakdown.toFields s.mediaType,
    Breakdown.toFields s.hiddenFile, Breakdown.toFields s.gnmProject, ())

def toJson (s : Summary) : Json := shape.toJson s.toFields

def read (text : String) : Except Json.Error Summary := (shape.read text).map ofFields

end Summary

namespace Vault

def listShape : Shape := .list shape

def listOfFields (l : listShape.Value) : List Vault := List.map ofFields l

def listToJson (vaults : List Vault) : Json := listShape.toJson (List.map toFields vaults)

def readList (text : String) : Except Json.Error (List Vault) := (listShape.read text).map listOfFields

def listOfJson (v : Json) : Except Json.Error (List Vault) := (listShape.readValue v).map listOfFields

end Vault

namespace Row

def shape : Shape :=
  .record "VaultDisplayRow"
    (.cons "vault_name" .text (.cons "file_count" (.whole "u64") (.cons "total_size" (.whole "u64") .nil)))

def ofFields : shape.Value → Row
  | (name, count, size, ()) => ⟨name, count, size⟩

def toFields (r : Row) : shape.Value := (r.vaultName, r.fileCount, r.totalSize, ())

def toJson (r : Row) : Json := shape.toJson r.toFields

end Row

namespace Report

def metadataShape : Shape :=
  .record "ReportMetadata" (.cons "vaultdoor_url" .text (.cons "project_id" .text (.cons "generated_at" .instant
    (.cons "vault_count" (.whole "usize") (.cons "duration_seconds" .real .nil)))))

def shape : Shape :=
  .record "SummaryReport"
    (.cons "metadata" metadataShape (.cons "rows" (.list Row.shape) (.cons "totals" Usage.shape .nil)))

def ofFields : shape.Value → Report
  | ((source, project, generatedAt, vaultCount, duration, ()), rows, totals, ()) =>
    ⟨source, project, generatedAt, vaultCount, duration, List.map Row.ofFields rows, Usage.ofFields totals⟩

def toFields (r : Report) : shape.Value :=
  ((r.source, r.project, r.generatedAt, r.vaultCount, r.duration, ()), List.map Row.toFields r.rows,
    r.totals.toFields, ())

def toJson (r : Report) : Json := shape.toJson r.toFields

def json (r : Report) : String := r.toJson.pretty 0

def read (text : String) : Except Json.Error Report := (shape.read text).map ofFields

end Report

end VaultUsage
