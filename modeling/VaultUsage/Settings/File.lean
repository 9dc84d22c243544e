import VaultUsage.Settings.Basic
import VaultUsage.Text.Quoted
import VaultUsage.Toml.Reader

/-!
# The settings file

A TOML document with a section for each group of settings. Sections, settings and whole files can be left
out, and unknown ones do not count. A section can also be an array of its settings in order.
-/

namespace VaultUsage.Settings

/-- The file that is looked for when none is named. -/
def fileName : String := ".vaultsummary.toml"

/-- A file that gives every setting but the token its default. -/
def template : String :=
  "[general]\n"
    ++ "verbose = false\n"
    ++ "\n"
    ++ "[vaultdoor]\n"
    ++ "url = \"http://localhost:9000/\"\n"
    ++ "timeout_seconds = 30\n"
    ++ "use_system_proxy = true\n"
    ++ "\n"
    ++ "[display]\n"
    ++ "si_units = false\n"
    ++ "decimal_places = 1\n"
    ++ "newest_first = true\n"

inductive FileFault where
  | unreadable (fault : Toml.Fault)
  | noSection (name : String)
  | wrongType (name : String)
  deriving DecidableEq, Repr

def FileFault.message (fault : FileFault) : String :=
  "TOML parse error: " ++ match fault with
    | .unreadable .malformed => "malformed text"
    | .unreadable (.repeated key) => "duplicate key " ++ Text.quote key
    | .unreadable (.notOpen key) => "nothing can be added to " ++ Text.quote key
    | .unreadable .tooDeep => "too deeply nested"
    | .noSection name => Text.quote name ++ " is not a table"
    | .wrongType name => Text.quote name ++ " has a value of the wrong type"

/-! ## Sections -/

/-- The value of a setting, by its place and its name. -/
abbrev Section := Nat → String → Option Toml.Value

/-- What a section gives, if it is there; a date-time gives nothing. -/
def readSection (members : Toml.Members) (name : String) : Except FileFault (Option Section) :=
  match members.lookup name with
  | none => .ok none
  | some (.table _ settings) => .ok (some fun _ key => settings.lookup key)
  | some (.array items) => .ok (some fun place _ => items[place]?)
  | some (.tables earlier last) =>
    .ok (some fun place _ => ((earlier ++ [last]).map (.table .header))[place]?)
  | some .moment => .ok (some fun _ _ => none)
  | some _ => .error (.noSection name)

namespace Section

def flag (s : Section) (place : Nat) (name : String) (default : Bool) : Except FileFault Bool :=
  match s place name with
  | none => .ok default
  | some (.boolean b) => .ok b
  | some _ => .error (.wrongType name)

def number (s : Section) (place : Nat) (name : String) (default : UInt64) : Except FileFault UInt64 :=
  match s place name with
  | none => .ok default
  | some (.integer n) => if 0 ≤ n then .ok (.ofNat n.toNat) else .error (.wrongType name)
  | some _ => .error (.wrongType name)

def text? (s : Section) (place : Nat) (name : String) : Except FileFault (Option String) :=
  match s place name with
  | none => .ok none
  | some (.text value) => .ok (some value)
  | some _ => .error (.wrongType name)

end Section

/-! ## The whole file -/

def readGeneral (s : Section) : Except FileFault Bool := s.flag 0 "verbose" false

def readService (s : Section) : Except FileFault ServiceSettings := do
  let url ← s.text? 0 "url"
  let token ← s.text? 1 "token"
  let timeout ← s.number 2 "timeout_seconds" 30
  let useProxy ← s.flag 3 "use_system_proxy" true
  pure ⟨url.getD "http://localhost:9000/", token, timeout, useProxy⟩

def readDisplay (s : Section) : Except FileFault DisplaySettings := do
  let siUnits ← s.flag 0 "si_units" false
  let decimals ← s.number 1 "decimal_places" 1
  let newestFirst ← s.flag 2 "newest_first" true
  pure ⟨siUnits, decimals, newestFirst⟩

/-- Reads a section, or takes the default for a whole section that is left out. -/
def sectionOr {α : Type} (members : Toml.Members) (name : String) (default : α)
    (read : Section → Except FileFault α) : Except FileFault α := do
  match ← readSection members name with
  | some s => read s
  | none => .ok default

/-- The settings that the members of a document give. -/
def ofMembers (members : Toml.Members) : Except FileFault Settings := do
  let verbose ← sectionOr members "general" false readGeneral
  let service ← sectionOr members "vaultdoor" {} readService
  let display ← sectionOr members "display" {} readDisplay
  pure ⟨verbose, service, display⟩

def read (text : String) : Except FileFault Settings :=
  match Toml.read text with
  | .ok members => ofMembers members
  | .error fault => .error (.unreadable fault)

end VaultUsage.Settings
