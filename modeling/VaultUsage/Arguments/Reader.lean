import VaultUsage.Arguments.Basic
import VaultUsage.Text.Digits

/-!
# Reading the command line

An option with a value takes it from the same argument (`--name=value`, `-nvalue`, `-n=value`) or from the
next one, unless that starts with a hyphen; a switch takes none. Letters of switches can stand together
behind one hyphen. Nothing may be given twice, and there are no arguments besides options.

A value in an argument of its own is looked at when the next option is met or the arguments end, so an
unknown option right behind it is reported first.
-/

namespace VaultUsage.Arguments

inductive Switch where
  | listVaults
  | si
  | catalogOrder
  | verbose
  | quiet
  | initConfig
  deriving DecidableEq, Repr

inductive Setting where
  | project
  | url
  | token
  | vault
  | format
  | output
  | decimals
  | timeout
  | config
  deriving DecidableEq, Repr

inductive Name where
  | switch (s : Switch)
  | setting (s : Setting)
  | help
  | version
  deriving DecidableEq, Repr

def ofLong? : String → Option Name
  | "project" => some (.setting .project)
  | "vaultdoor-url" => some (.setting .url)
  | "token" => some (.setting .token)
  | "vault" => some (.setting .vault)
  | "list-vaults" => some (.switch .listVaults)
  | "format" => some (.setting .format)
  | "output" => some (.setting .output)
  | "si" => some (.switch .si)
  | "decimals" => some (.setting .decimals)
  | "timeout" => some (.setting .timeout)
  | "catalog-order" => some (.switch .catalogOrder)
  | "config" => some (.setting .config)
  | "verbose" => some (.switch .verbose)
  | "quiet" => some (.switch .quiet)
  | "init-config" => some (.switch .initConfig)
  | "help" => some .help
  | "version" => some .version
  | _ => none

def ofShort? : Char → Option Name
  | 'p' => some (.setting .project)
  | 'f' => some (.setting .format)
  | 'o' => some (.setting .output)
  | 'c' => some (.setting .config)
  | 'v' => some (.switch .verbose)
  | 'q' => some (.switch .quiet)
  | 'h' => some .help
  | 'V' => some .version
  | _ => none

inductive Stop where
  | help
  | version
  | unknownArgument
  | badValue
  | badNumber
  | conflict
  | superfluousValue
  deriving DecidableEq, Repr

/-! ## One option -/

/-- An unsigned number, with an optional plus sign. -/
def readNumber (text : String) : Except Stop UInt64 :=
  let digits := match text.toList with
    | '+' :: rest => rest
    | all => all
  let n := Text.ofDigits 10 digits
  if digits.isEmpty || !digits.all Text.isDigit || UInt64.size ≤ n then .error .badNumber else .ok (.ofNat n)

def readFormat : String → Except Stop Format
  | "markdown" => .ok .markdown
  | "json" => .ok .json
  | _ => .error .badValue

def readPath (text : String) : Except Stop String := if text = "" then .error .badValue else .ok text

/-- A field that is not given yet gets its value. -/
def give {α : Type} (old : Option α) (read : Except Stop α) : Except Stop (Option α) :=
  match old with
  | some _ => .error .conflict
  | none => read.map some

def assign (a : Arguments) (s : Setting) (text : String) : Except Stop Arguments :=
  match s with
  | .project => (give a.project (.ok text)).map fun v => { a with project := v }
  | .url => (give a.url (.ok text)).map fun v => { a with url := v }
  | .token => (give a.token (.ok text)).map fun v => { a with token := v }
  | .vault => (give a.vault (.ok text)).map fun v => { a with vault := v }
  | .format => (give a.format (readFormat text)).map fun v => { a with format := v }
  | .output => (give a.output (readPath text)).map fun v => { a with output := v }
  | .decimals => (give a.decimals (readNumber text)).map fun v => { a with decimals := v }
  | .timeout => (give a.timeout (readNumber text)).map fun v => { a with timeout := v }
  | .config => (give a.config (readPath text)).map fun v => { a with config := v }

/-- A switch that is off yet is turned on. -/
def turnOn (old : Bool) : Except Stop Bool := if old then .error .conflict else .ok true

def raise (a : Arguments) (s : Switch) : Except Stop Arguments :=
  match s with
  | .listVaults => (turnOn a.listVaults).map fun v => { a with listVaults := v }
  | .si => (turnOn a.si).map fun v => { a with si := v }
  | .catalogOrder => (turnOn a.catalogOrder).map fun v => { a with catalogOrder := v }
  | .verbose => (turnOn a.verbose).map fun v => { a with verbose := v }
  | .quiet => (turnOn a.quiet).map fun v => { a with quiet := v }
  | .initConfig => (turnOn a.initConfig).map fun v => { a with initConfig := v }

/-! ## All of them -/

/-- The arguments read so far. An option whose value comes in an argument of its own is `pending` until
its value is looked at; before that argument is met it has none. -/
structure Progress where
  given : Arguments := {}
  pending : Option (Setting × Option String) := none

namespace Progress

/-- Looks at the value of the pending option. -/
def settle (p : Progress) : Except Stop Arguments :=
  match p.pending with
  | none => .ok p.given
  | some (_, none) => .error .badValue
  | some (s, some text) => assign p.given s text

/-- Whether the next argument is a value, if it does not start with a hyphen. -/
def awaits (p : Progress) : Option Setting :=
  match p.pending with
  | some (s, none) => some s
  | _ => none

/-- An option without a value of its own in the argument. -/
def meet (p : Progress) (n : Name) : Except Stop Progress := do
  let given ← p.settle
  match n with
  | .help => .error .help
  | .version => .error .version
  | .switch s => (raise given s).map fun a => ⟨a, none⟩
  | .setting s => .ok ⟨given, some (s, none)⟩

def meetWith (p : Progress) (n : Name) (text : String) : Except Stop Progress :=
  match n with
  | .setting s => do
    let given ← p.settle
    (assign given s text).map fun a => ⟨a, none⟩
  | _ => .error .superfluousValue

def readLong (p : Progress) (text : List Char) : Except Stop Progress :=
  let name := text.takeWhile (· != '=')
  match ofLong? (String.ofList name), text.drop name.length with
  | none, _ => .error .unknownArgument
  | some n, [] => p.meet n
  | some n, _ :: value => p.meetWith n (String.ofList value)

def readShort (p : Progress) : List Char → Except Stop Progress
  | [] => .ok p
  | c :: rest =>
    match ofShort? c, rest with
    | none, _ => .error .unknownArgument
    | some (.setting s), '=' :: value => p.meetWith (.setting s) (String.ofList value)
    | some (.setting s), d :: value => p.meetWith (.setting s) (String.ofList (d :: value))
    | some n, rest => do
      let p ← p.meet n
      p.readShort rest

def readPlain (p : Progress) (text : String) : Except Stop Progress :=
  match p.awaits with
  | some s => .ok { p with pending := some (s, some text) }
  | none => .error .unknownArgument

def readArgument (p : Progress) (text : String) : Except Stop Progress :=
  match text.toList with
  | '-' :: '-' :: rest => p.readLong rest
  | '-' :: c :: rest => p.readShort (c :: rest)
  | _ => p.readPlain text

/-- All arguments; behind two hyphens on their own there may be none. -/
def readAll (p : Progress) : List String → Except Stop Arguments
  | [] => p.settle
  | text :: rest =>
    if text = "--" then (if rest.isEmpty then p.settle else .error .unknownArgument)
    else do
      let p ← p.readArgument text
      p.readAll rest

end Progress

structure Environment where
  url : Option String := none
  token : Option String := none
  deriving DecidableEq, Repr

/-- The arguments of a command line. An option that is not given there is taken from the environment. -/
def read (env : Environment) (args : List String) : Except Stop Arguments := do
  let a ← ({} : Progress).readAll args
  if a.listVaults && a.vault.isSome then .error .conflict
  .ok { a with url := a.url <|> env.url, token := a.token <|> env.token }

end VaultUsage.Arguments
