import VaultUsage.NameMap

/-!
# Vaults and what a project holds in them

The catalog is a list of vaults. For each vault and project the service gives a summary: the number of files
and bytes in total, and optionally the same by category. A row is what the summary table shows of a vault.
-/

namespace VaultUsage

structure Vault where
  id : String
  name : String
  deriving DecidableEq, Repr

structure Usage where
  count : UInt64 := 0
  size : UInt64 := 0
  deriving DecidableEq, Repr

namespace Usage

/-- The sum of two words, or the largest word if the sum is above it. -/
def addCapped (a b : UInt64) : UInt64 := .ofNat (min (a.toNat + b.toNat) (UInt64.size - 1))

/-- Both components added, each with its own cap. -/
def add (a b : Usage) : Usage := ⟨addCapped a.count b.count, addCapped a.size b.size⟩

end Usage

inductive Category where
  | gnmType
  | fileType
  | mediaType
  | hiddenFile
  | gnmProject
  deriving DecidableEq, Repr

namespace Category

def inReportOrder : List Category := [.mediaType, .fileType, .gnmType, .gnmProject, .hiddenFile]

def label : Category → String
  | .gnmType => "GNM Type"
  | .fileType => "File Type"
  | .mediaType => "Media Type"
  | .hiddenFile => "Hidden File"
  | .gnmProject => "GNM Project"

end Category

abbrev Breakdown := NameMap Usage

namespace Breakdown

/-- Larger sizes come first, equal sizes in ascending order of names. -/
def inOrder (a b : String × Usage) : Bool :=
  decide (b.2.size < a.2.size) || (a.2.size == b.2.size && decide (a.1 ≤ b.1))

def sort (entries : List (String × Usage)) : List (String × Usage) := entries.mergeSort inOrder

end Breakdown

/-- The order in which the maps of a summary are listed: nothing in the summary decides it. -/
structure MapOrder where
  arrange : Category → Breakdown → Breakdown
  same (category : Category) (b : Breakdown) : b.Same (arrange category b)

def MapOrder.byName : MapOrder := ⟨fun _ => NameMap.byName, fun _ => NameMap.byName_same⟩

structure Summary where
  total : Usage
  gnmType : Option Breakdown := none
  fileType : Option Breakdown := none
  mediaType : Option Breakdown := none
  hiddenFile : Option Breakdown := none
  gnmProject : Option Breakdown := none
  deriving DecidableEq, Repr

namespace Summary

def breakdown (s : Summary) : Category → Option Breakdown
  | .gnmType => s.gnmType
  | .fileType => s.fileType
  | .mediaType => s.mediaType
  | .hiddenFile => s.hiddenFile
  | .gnmProject => s.gnmProject

def arranged (s : Summary) (order : MapOrder) : Summary :=
  { s with
    gnmType := s.gnmType.map (order.arrange .gnmType)
    fileType := s.fileType.map (order.arrange .fileType)
    mediaType := s.mediaType.map (order.arrange .mediaType)
    hiddenFile := s.hiddenFile.map (order.arrange .hiddenFile)
    gnmProject := s.gnmProject.map (order.arrange .gnmProject) }

def byName (s : Summary) : Summary := s.arranged .byName

end Summary

structure Row where
  vaultName : String
  fileCount : UInt64
  totalSize : UInt64
  deriving DecidableEq, Repr

namespace Row

/-- The row of a vault; without a summary it holds nothing. -/
def ofSummary (vault : Vault) : Option Summary → Row
  | some s => ⟨vault.name, s.total.count, s.total.size⟩
  | none => ⟨vault.name, 0, 0⟩

def usage (r : Row) : Usage := ⟨r.fileCount, r.totalSize⟩

def hasData (r : Row) : Bool := decide (0 < r.fileCount) || decide (0 < r.totalSize)

def totals (rows : List Row) : Usage := rows.foldl (fun sum r => sum.add r.usage) {}

def countWithData (rows : List Row) : Nat := (rows.filter hasData).length

end Row

end VaultUsage
