import VaultUsage.Run

/-!
# What a report looks like

The text of a summary report, written out (`Report.Presents`). In Markdown it is a title, the circumstances of the run,
a line for each row and the totals; in JSON an object of the same with the figures as they are. Nothing of a report is
left out of its text, and nothing else stands in it.
-/

namespace VaultUsage

/-! ## Rows in Markdown -/

namespace Markdown

/-- A line of the table, with the number of files and the size as they are shown. -/
def tableLine (name files size : String) : String :=
  "| " ++ escapeCell name ++ " | " ++ files ++ " | " ++ size ++ " |\n"

def tableLines (sizes : SizeFormat) (rows : List Row) : List String :=
  rows.map fun r => tableLine r.vaultName (toString r.fileCount.toNat) (sizes.render r.totalSize)

theorem vaultTable_eq (sizes : SizeFormat) {rows : List Row} (h : rows ≠ []) :
    vaultTable sizes rows = "| Vault | Files | Size |\n|:---|---:|---:|\n" ++
      (String.join (rows.map fun r => usageRow sizes r.vaultName r.usage) ++ "\n") := by
  have hheader : usageHeader "Vault" = "| Vault | Files | Size |\n|:---|---:|---:|\n" := by simp [usageHeader]
  simp only [vaultTable, List.isEmpty_iff, h, if_false, usageTable, hheader, List.map_map, Function.comp_def,
    String.append_assoc]

theorem report_eq (sizes : SizeFormat) {r : Report} (h : r.rows ≠ []) :
    report sizes r = "# Vault Summary\n\n" ++ metadata r ++ "| Vault | Files | Size |\n|:---|---:|---:|\n" ++
      String.join (tableLines sizes r.rows) ++ "\n" ++ totalsLine sizes r := by
  unfold report
  rw [vaultTable_eq sizes h]
  simp only [String.append_assoc]
  rfl

theorem report_nil (sizes : SizeFormat) {r : Report} (h : r.rows = []) :
    report sizes r = "# Vault Summary\n\n" ++ metadata r ++ "No vaults are known to Vaultdoor.\n\n" := by
  have htable : vaultTable sizes r.rows = "No vaults are known to Vaultdoor.\n\n" := by
    have hjoin : noVaults ++ "\n" = "No vaults are known to Vaultdoor.\n\n" := by decide
    rw [h, vaultTable, List.isEmpty_nil, if_pos rfl, hjoin]
  have htotals : totalsLine sizes r = "" := by
    unfold totalsLine
    rw [h]
    rfl
  unfold report
  rw [htable, htotals, String.append_empty]

theorem totalsLine_eq (sizes : SizeFormat) {r : Report} (h : r.rows ≠ []) :
    totalsLine sizes r = "**Total:** " ++ toString r.totals.count.toNat ++ " files, " ++ sizes.render r.totals.size ++
      " across " ++ toString (Row.countWithData r.rows) ++ " of " ++ toString r.rows.length ++ " vaults\n" := by
  unfold totalsLine
  rw [List.isEmpty_eq_false_iff.mpr h]
  rfl

end Markdown

/-! ## Rows in JSON -/

namespace Usage

inductive Figure where
  | count
  | size

namespace Figure

def name : Figure → String
  | count => "count"
  | size => "size"

def of : Figure → Usage → UInt64
  | count, u => u.count
  | size, u => u.size

end Figure

end Usage

open Usage (Figure)

namespace Json

theorem pretty_natural (n depth : Nat) : pretty depth (.natural n) = toString n := rfl

theorem pretty_number (n : Number) (depth : Nat) : pretty depth (.number n) = n.render := rfl

theorem pretty_string (s : String) (depth : Nat) : pretty depth (.string s) = quoted s := rfl

theorem append_prettyItems (depth : Nat) (items : List Json) : ∀ first : String,
    first ++ prettyItems depth items =
      ",".intercalate (first :: items.map fun v => line (depth + 1) ++ pretty (depth + 1) v) ++ line depth ++ "]" := by
  induction items with
  | nil =>
    intro first
    rw [prettyItems, List.map_nil, String.intercalate_singleton, String.append_assoc]
  | cons v items ih =>
    intro first
    have hitems := ih (line (depth + 1) ++ pretty (depth + 1) v)
    rw [prettyItems, List.map_cons, String.intercalate_cons_cons]
    simp only [String.append_assoc] at hitems ⊢
    rw [hitems]

theorem pretty_array {items : List Json} (h : items ≠ []) (depth : Nat) :
    pretty depth (.array items) =
      "[" ++ ",".intercalate (items.map fun v => line (depth + 1) ++ pretty (depth + 1) v) ++ line depth ++ "]" := by
  obtain ⟨v, items, rfl⟩ := List.exists_cons_of_ne_nil h
  have hitems := append_prettyItems depth items (line (depth + 1) ++ pretty (depth + 1) v)
  rw [pretty, List.map_cons]
  simp only [String.append_assoc] at hitems ⊢
  rw [hitems]

end Json

namespace Row

/-- The lines of a row in a report. -/
def lines (name : String) (figures : Figure → String) : String :=
  "\n    \x7b\n      \"vault_name\": " ++ Json.quoted name ++ ",\n      \"file_count\": " ++ figures .count ++
    ",\n      \"total_size\": " ++ figures .size ++ "\n    \x7d"

def figures (r : Row) (f : Figure) : String := toString (f.of r.usage).toNat

theorem lines_eq (r : Row) : Json.line 2 ++ r.toJson.pretty 2 = lines r.vaultName r.figures := by
  have hobject : r.toJson = .object [("vault_name", .string r.vaultName), ("file_count", .natural r.fileCount.toNat),
      ("total_size", .natural r.totalSize.toNat)] := rfl
  have houter : Json.line 2 = "\n    " := rfl
  have hinner : Json.line 3 = "\n      " := rfl
  have hname : Json.quoted "vault_name" = "\"vault_name\"" := rfl
  have hcount : Json.quoted "file_count" = "\"file_count\"" := rfl
  have hsize : Json.quoted "total_size" = "\"total_size\"" := rfl
  rw [hobject, Json.pretty, Json.prettyMembers, Json.prettyMembers, Json.prettyMembers, Json.pretty_natural,
    Json.pretty_natural, Json.pretty_string, houter, hinner, hname, hcount, hsize]
  unfold lines
  apply String.toList_inj.mp
  simp [figures, Figure.of, usage]

end Row

/-! ## Reports -/

namespace Report

def heading (r : Report) : String :=
  "# Vault Summary\n\n" ++ "- **Project:** " ++ r.project ++ "\n" ++ "- **Vaultdoor:** " ++ r.source ++ "\n" ++
    "- **Generated:** " ++ r.generatedAt.renderPlain ++ "\n" ++ "- **Vaults:** " ++ toString r.vaultCount.toNat ++
    "\n" ++ "- **Fetch Duration:** " ++ r.duration.toFixed 1 ++ "s\n\n"

def jsonMetadata (r : Report) : String :=
  "\x7b\n    \"vaultdoor_url\": " ++ Json.quoted r.source ++ ",\n    \"project_id\": " ++ Json.quoted r.project ++
    ",\n    \"generated_at\": " ++ Json.quoted r.generatedAt.render ++ ",\n    \"vault_count\": " ++
    toString r.vaultCount.toNat ++ ",\n    \"duration_seconds\": " ++ (Json.Number.real r.duration).render ++
    "\n  \x7d"

def jsonRows : List Row → String
  | [] => "[]"
  | rows => "[" ++ ",".intercalate (rows.map fun row => Row.lines row.vaultName row.figures) ++ "\n  ]"

theorem heading_eq (r : Report) : "# Vault Summary\n\n" ++ Markdown.metadata r = r.heading := by
  unfold Markdown.metadata heading
  simp only [String.append_assoc]

theorem pretty_metadata (r : Report) : Json.pretty 1 (metadataShape.toJson r.toFields.1) = r.jsonMetadata := by
  have hobject : metadataShape.toJson r.toFields.1 = .object [("vaultdoor_url", .string r.source),
      ("project_id", .string r.project), ("generated_at", .string r.generatedAt.render),
      ("vault_count", .natural r.vaultCount.toNat), ("duration_seconds", .number (.real r.duration))] := rfl
  have houter : Json.line 1 = "\n  " := rfl
  have hinner : Json.line 2 = "\n    " := rfl
  have hsource : Json.quoted "vaultdoor_url" = "\"vaultdoor_url\"" := rfl
  have hproject : Json.quoted "project_id" = "\"project_id\"" := rfl
  have htime : Json.quoted "generated_at" = "\"generated_at\"" := rfl
  have hcount : Json.quoted "vault_count" = "\"vault_count\"" := rfl
  have hduration : Json.quoted "duration_seconds" = "\"duration_seconds\"" := rfl
  rw [hobject, Json.pretty, Json.prettyMembers, Json.prettyMembers, Json.prettyMembers, Json.prettyMembers,
    Json.prettyMembers, Json.pretty_string, Json.pretty_string, Json.pretty_string, Json.pretty_natural,
    Json.pretty_number, houter, hinner, hsource, hproject, htime, hcount, hduration]
  unfold jsonMetadata
  apply String.toList_inj.mp
  simp

theorem pretty_rows (rows : List Row) :
    Json.pretty 1 (.array ((rows.map Row.toFields).map Row.shape.toJson)) = jsonRows rows := by
  have hline : Json.line 1 = "\n  " := rfl
  have hmap : ((fun v => Json.line 2 ++ Json.pretty 2 v) ∘ Row.shape.toJson) ∘ Row.toFields =
      fun row : Row => Row.lines row.vaultName row.figures := funext Row.lines_eq
  cases rows with
  | nil => rfl
  | cons row rows =>
    rw [Json.pretty_array (by simp), List.map_map, List.map_map, hline, hmap, String.append_assoc]
    rfl

theorem json_eq (r : Report) : r.json = "\x7b\n  \"metadata\": " ++ r.jsonMetadata ++ ",\n  \"rows\": " ++
    jsonRows r.rows ++ ",\n  \"totals\": \x7b\n    \"count\": " ++ toString r.totals.count.toNat ++
    ",\n    \"size\": " ++ toString r.totals.size.toNat ++ "\n  \x7d\n\x7d" := by
  have hobject : r.toJson = .object [("metadata", metadataShape.toJson r.toFields.1),
      ("rows", .array ((r.rows.map Row.toFields).map Row.shape.toJson)), ("totals", .object
        [("count", .natural r.totals.count.toNat), ("size", .natural r.totals.size.toNat)])] := rfl
  have hend : Json.line 0 = "\n" := rfl
  have houter : Json.line 1 = "\n  " := rfl
  have hinner : Json.line 2 = "\n    " := rfl
  have hmetadata : Json.quoted "metadata" = "\"metadata\"" := rfl
  have hrows : Json.quoted "rows" = "\"rows\"" := rfl
  have htotals : Json.quoted "totals" = "\"totals\"" := rfl
  have hcount : Json.quoted "count" = "\"count\"" := rfl
  have hsize : Json.quoted "size" = "\"size\"" := rfl
  rw [json, hobject, Json.pretty, Json.prettyMembers, Json.prettyMembers, Json.prettyMembers, pretty_metadata,
    pretty_rows]
  simp only [Json.pretty, Json.prettyMembers, Json.pretty_natural, hend, houter, hinner, hmetadata, hrows, htotals,
    hcount, hsize]
  apply String.toList_inj.mp
  simp

/-- The rows stand in a report one after the other. -/
theorem json_rows {r : Report} (h : r.rows ≠ []) : ∃ head tail,
    r.json = head ++ "\n  \"rows\": [" ++ ",".intercalate (r.rows.map fun row => Row.lines row.vaultName row.figures) ++
      "\n  ],\n  \"totals\": " ++ tail := by
  have hrows : jsonRows r.rows =
      "[" ++ ",".intercalate (r.rows.map fun row => Row.lines row.vaultName row.figures) ++ "\n  ]" := by
    obtain ⟨row, rows, hr⟩ := List.exists_cons_of_ne_nil h
    rw [hr]
    rfl
  refine ⟨"\x7b\n  \"metadata\": " ++ r.jsonMetadata ++ ",", "\x7b\n    \"count\": " ++
    toString r.totals.count.toNat ++ ",\n    \"size\": " ++ toString r.totals.size.toNat ++ "\n  \x7d\n\x7d", ?_⟩
  rw [json_eq, hrows]
  apply String.toList_inj.mp
  simp

/-- The text presents the report. -/
inductive Presents (r : Report) (sizes : SizeFormat) : Format → String → Prop where
  | table (h : r.rows ≠ []) : Presents r sizes .markdown
      (r.heading ++ "| Vault | Files | Size |\n|:---|---:|---:|\n" ++ String.join (Markdown.tableLines sizes r.rows) ++
        "\n**Total:** " ++ toString r.totals.count.toNat ++ " files, " ++ sizes.render r.totals.size ++ " across " ++
        toString (Row.countWithData r.rows) ++ " of " ++ toString r.rows.length ++ " vaults\n")
  | noVaults (h : r.rows = []) : Presents r sizes .markdown
      (r.heading ++ "No vaults are known to Vaultdoor.\n\n")
  | json : Presents r sizes .json
      ("\x7b\n  \"metadata\": " ++ r.jsonMetadata ++ ",\n  \"rows\": " ++ jsonRows r.rows ++
        ",\n  \"totals\": \x7b\n    \"count\": " ++ toString r.totals.count.toNat ++ ",\n    \"size\": " ++
        toString r.totals.size.toNat ++ "\n  \x7d\n\x7d")

theorem presents_overview (r : Report) (sizes : SizeFormat) (format : Format) :
    r.Presents sizes format (Run.overview format sizes r) := by
  cases format with
  | json =>
    rw [Run.overview, json_eq]
    exact .json
  | markdown =>
    have htext : Run.overview .markdown sizes r = Markdown.report sizes r := rfl
    rw [htext]
    by_cases h : r.rows = []
    · rw [Markdown.report_nil sizes h, heading_eq]
      exact .noVaults h
    · have hjoin : "\n**Total:** " = "\n" ++ "**Total:** " := by decide
      have htable := @Presents.table r sizes h
      rw [hjoin] at htable
      rw [Markdown.report_eq sizes h, heading_eq, Markdown.totalsLine_eq sizes h]
      simp only [String.append_assoc] at htable ⊢
      exact htable

end Report

end VaultUsage
