import VaultUsage.Instant.Basic
import VaultUsage.Binary64.Basic
import VaultUsage.Vault

/-!
# The summary report

What a project holds in every vault, with when and where the data came from.
-/

namespace VaultUsage

structure Report where
  source : String
  project : String
  generatedAt : Instant
  vaultCount : UInt64
  duration : Binary64
  rows : List Row
  totals : Usage
  deriving DecidableEq, Repr

end VaultUsage
