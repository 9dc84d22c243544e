import VaultUsage.Log
import VaultUsage.Size
import VaultUsage.Text.Blank

/-!
# Arguments

What can be given on the command line, and which combinations make sense.
-/

namespace VaultUsage

inductive Format where
  | markdown
  | json
  deriving DecidableEq, Repr

structure Arguments where
  project : Option String := none
  url : Option String := none
  token : Option String := none
  vault : Option String := none
  listVaults : Bool := false
  format : Option Format := none
  output : Option String := none
  si : Bool := false
  decimals : Option UInt64 := none
  timeout : Option UInt64 := none
  catalogOrder : Bool := false
  config : Option String := none
  verbose : Bool := false
  quiet : Bool := false
  initConfig : Bool := false
  deriving DecidableEq, Repr

namespace Arguments

/-- Reports are Markdown unless JSON is asked for. -/
def outputFormat (a : Arguments) : Format := a.format.getD .markdown

def logLevel (a : Arguments) : LogLevel :=
  if a.quiet then .error else if a.verbose then .debug else .info

/-! ## Checks -/

inductive Fault where
  | noProject
  | blankProject
  | urlScheme
  | blankVault
  | tooManyDecimals
  | noTimeout
  | verboseAndQuiet
  deriving DecidableEq, Repr

def Fault.message : Fault → String
  | .noProject => "--project is required unless --list-vaults is given"
  | .blankProject => "Project id must not be empty"
  | .urlScheme => "Vaultdoor URL must start with 'http://' or 'https://'"
  | .blankVault => "Vault id must not be empty"
  | .tooManyDecimals => "Decimals must be at most " ++ toString SizeFormat.maxDecimals
  | .noTimeout => "Timeout must be at least 1 second"
  | .verboseAndQuiet => "Cannot use both --verbose and --quiet"

def startsWithScheme (url : String) : Bool :=
  "http://".toList.isPrefixOf url.toList || "https://".toList.isPrefixOf url.toList

def projectFault? (a : Arguments) : Option Fault :=
  if a.listVaults then none
  else
    match a.project with
    | none => some .noProject
    | some p => if Text.isBlankText p then some .blankProject else none

/-- The first fault, in the order of the checks. Nothing is checked when a configuration file is asked for. -/
def fault? (a : Arguments) : Option Fault :=
  if a.initConfig then none
  else
    a.projectFault?
      <|> (if a.url.any fun u => !startsWithScheme u then some .urlScheme else none)
      <|> (if a.vault.any Text.isBlankText then some .blankVault else none)
      <|> (if a.decimals.any fun n => SizeFormat.maxDecimals < n.toNat then some .tooManyDecimals else none)
      <|> (if a.timeout = some 0 then some .noTimeout else none)
      <|> (if a.verbose && a.quiet then some .verboseAndQuiet else none)

end Arguments

end VaultUsage
