import VaultUsage.Arguments.Basic

/-!
# Settings

What a run is told besides what to report: where the service is, how to reach it and how to show sizes.
They come from a file, and arguments go before it. A setting that is nowhere given has a default.
-/

namespace VaultUsage

structure ServiceSettings where
  url : String := "http://localhost:9000/"
  token : Option String := none
  timeout : UInt64 := 30
  useProxy : Bool := true
  deriving DecidableEq, Repr

def ServiceSettings.withArguments (s : ServiceSettings) (a : Arguments) : ServiceSettings :=
  { s with
    url := a.url.getD s.url
    token := a.token <|> s.token
    timeout := a.timeout.getD s.timeout }

structure DisplaySettings where
  siUnits : Bool := false
  decimals : UInt64 := 1
  newestFirst : Bool := true
  deriving DecidableEq, Repr

namespace DisplaySettings

def sizeFormat (d : DisplaySettings) : SizeFormat := ⟨if d.siUnits then .si else .binary, d.decimals⟩

/-- A switch turns its setting one way only. -/
def withArguments (d : DisplaySettings) (a : Arguments) : DisplaySettings :=
  { siUnits := d.siUnits || a.si
    decimals := a.decimals.getD d.decimals
    newestFirst := d.newestFirst && !a.catalogOrder }

end DisplaySettings

structure Settings where
  verbose : Bool := false
  service : ServiceSettings := {}
  display : DisplaySettings := {}
  deriving DecidableEq, Repr

namespace Settings

def withArguments (s : Settings) (a : Arguments) : Settings :=
  { verbose := s.verbose || a.verbose
    service := s.service.withArguments a
    display := s.display.withArguments a }

/-- Which records are shown. The settings can ask for more of them than the arguments do, unless those ask
for silence. -/
def logLevel (s : Settings) (a : Arguments) : LogLevel :=
  if !a.quiet && s.verbose then .debug else a.logLevel

/-! ## Checks -/

inductive Fault where
  | noTimeout
  | tooManyDecimals (given : UInt64)
  deriving DecidableEq, Repr

def Fault.message : Fault → String
  | .noTimeout => "[vaultdoor] timeout_seconds must be at least 1"
  | .tooManyDecimals given =>
    "[display] decimal_places must be at most " ++ toString SizeFormat.maxDecimals
      ++ ", got " ++ toString given.toNat

def fault? (s : Settings) : Option Fault :=
  if s.service.timeout = 0 then some .noTimeout
  else if SizeFormat.maxDecimals < s.display.decimals.toNat then some (.tooManyDecimals s.display.decimals)
  else none

end Settings

end VaultUsage
