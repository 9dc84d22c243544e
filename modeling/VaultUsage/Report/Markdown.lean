import VaultUsage.Report.Basic
import VaultUsage.Size

/-!
# Markdown

The summary report, the list of the catalog and the breakdown of one vault as Markdown text. A table row
is a line; a vertical bar in a name is escaped, so that it does not end its cell.
-/

namespace VaultUsage.Markdown

def escapeCell (name : String) : String :=
  String.ofList (name.toList.flatMap fun c => if c = '|' then ['\\', '|'] else [c])

def noVaults : String := "No vaults are known to Vaultdoor.\n"

/-! ## Usage tables -/

def usageHeader (title : String) : String := "| " ++ title ++ " | Files | Size |\n|:---|---:|---:|\n"

def usageRow (sizes : SizeFormat) (name : String) (u : Usage) : String :=
  "| " ++ escapeCell name ++ " | " ++ toString u.count.toNat ++ " | " ++ sizes.render u.size ++ " |\n"

/-- A table of names and their usage, with an empty line behind it. -/
def usageTable (sizes : SizeFormat) (title : String) (entries : List (String × Usage)) : String :=
  usageHeader title ++ String.join (entries.map fun e => usageRow sizes e.1 e.2) ++ "\n"

/-! ## The summary report -/

def metadata (r : Report) : String :=
  "- **Project:** " ++ r.project ++ "\n" ++
  "- **Vaultdoor:** " ++ r.source ++ "\n" ++
  "- **Generated:** " ++ r.generatedAt.renderPlain ++ "\n" ++
  "- **Vaults:** " ++ toString r.vaultCount.toNat ++ "\n" ++
  "- **Fetch Duration:** " ++ r.duration.toFixed 1 ++ "s\n\n"

def vaultTable (sizes : SizeFormat) (rows : List Row) : String :=
  if rows.isEmpty then noVaults ++ "\n"
  else usageTable sizes "Vault" (rows.map fun r => (r.vaultName, r.usage))

def totalsLine (sizes : SizeFormat) (r : Report) : String :=
  if r.rows.isEmpty then ""
  else
    "**Total:** " ++ toString r.totals.count.toNat ++ " files, " ++ sizes.render r.totals.size ++ " across " ++
      toString (Row.countWithData r.rows) ++ " of " ++ toString r.rows.length ++ " vaults\n"

def report (sizes : SizeFormat) (r : Report) : String :=
  "# Vault Summary\n\n" ++ metadata r ++ vaultTable sizes r.rows ++ totalsLine sizes r

/-! ## The catalog -/

def catalogRow (v : Vault) : String := "| " ++ escapeCell v.name ++ " | `" ++ v.id ++ "` |\n"

def catalog (vaults : List Vault) : String :=
  "# Vaults\n\n" ++
    if vaults.isEmpty then noVaults
    else "| Name | Vault ID |\n|:---|:---|\n" ++ String.join (vaults.map catalogRow)

/-! ## One vault -/

/-- The table of a category; `entries` are given in any order. -/
def breakdownTable (sizes : SizeFormat) (category : Category) (entries : List (String × Usage)) : String :=
  "## By " ++ category.label ++ "\n\n" ++
    if entries.isEmpty then "*(empty)*\n\n"
    else usageTable sizes category.label (Breakdown.sort entries)

def breakdownTables (sizes : SizeFormat) (s : Summary) : String :=
  String.join (Category.inReportOrder.map fun c =>
    match s.breakdown c with
    | some b => breakdownTable sizes c b.entries
    | none => "")

def breakdown (sizes : SizeFormat) (project vault : String) (summary : Option Summary) : String :=
  "# Project " ++ project ++ " in vault `" ++ vault ++ "`\n\n" ++
    match summary with
    | none => "No data for this project in this vault.\n"
    | some s =>
      "**Total:** " ++ toString s.total.count.toNat ++ " files, " ++ sizes.render s.total.size ++ "\n\n" ++
        breakdownTables sizes s

end VaultUsage.Markdown
