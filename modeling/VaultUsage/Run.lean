import VaultUsage.Arguments.Help
import VaultUsage.Report.Markdown
import VaultUsage.Service.Client
import VaultUsage.Settings.Load

/-!
# A run of the program

From what a run is given to what it leaves behind. There are three things to report: the summary of a
project over all vaults, what one vault holds of it, and the catalog. A report goes to the standard output or
to a file, and only when it is complete.
-/

namespace VaultUsage

structure Clock where
  now : Instant
  /-- The seconds since the first request of a summary. -/
  elapsed : Binary64

structure Invocation where
  arguments : List String
  environment : Arguments.Environment
  files : Files
  clock : Clock
  network : Network
  mapOrder : MapOrder := .byName
  screen : Arguments.Screen := fun _ _ stop => stop.message

structure Outcome where
  exitCode : UInt8
  output : String := ""
  errors : String := ""
  writes : List (String × String) := []
  log : List LogRecord := []
  requests : List Request := []

namespace Run

inductive Failure where
  | service (error : ServiceError)
  | rows (base : BaseUrl) (error : ServiceError)
  | write (path : String) (fault : Entry.Fault)

def Failure.chain : Failure → String
  | .service error => error.chain
  | .rows base error =>
    (if error.isTransport then "Cannot reach Vaultdoor at " ++ base.render else "Failed to load vault summaries")
      ++ ": " ++ error.chain
  | .write path fault => "Failed to write report to " ++ path ++ ": " ++ fault.message

/-! ## Reports -/

def listing (format : Format) (vaults : List Vault) : String :=
  match format with
  | .json => (Vault.listToJson vaults).pretty 0
  | .markdown => Markdown.catalog vaults

def detail (order : MapOrder) (format : Format) (sizes : SizeFormat) (project vault : String)
    (summary : Option Summary) : String :=
  match format with
  | .json =>
    match summary with
    | some s => (s.arranged order).toJson.pretty 0
    | none => Json.null.pretty 0
  | .markdown => Markdown.breakdown sizes project vault summary

def overview (format : Format) (sizes : SizeFormat) (report : Report) : String :=
  match format with
  | .json => report.json
  | .markdown => Markdown.report sizes report

/-- The vaults of the catalog in the order of the report. -/
def arrange (newestFirst : Bool) (vaults : List Vault) : List Vault := if newestFirst then vaults.reverse else vaults

def reportOf (base : BaseUrl) (clock : Clock) (project : String) (vaults : List Vault) (rows : List Row) : Report where
  source := base.render
  project := project
  generatedAt := clock.now
  vaultCount := .ofNat vaults.length
  duration := clock.elapsed
  rows := rows
  totals := Row.totals rows

def summarize (c : Client) (clock : Clock) (newestFirst : Bool) (project : String) : Exchange Failure Report :=
  ((c.catalog 0).mapError .service).andThen fun vaults =>
    let vaults := arrange newestFirst vaults
    ((c.rows 1 project vaults).mapError (.rows c.base)).map (reportOf c.base clock project vaults)

def report (c : Client) (clock : Clock) (order : MapOrder) (a : Arguments) (display : DisplaySettings) :
    Exchange Failure String :=
  let project := a.project.getD ""
  if a.listVaults then ((c.catalog 0).mapError .service).map (listing a.outputFormat)
  else
    match a.vault with
    | some vault =>
      ((c.summary 0 project vault).mapError .service).map
        (detail order a.outputFormat display.sizeFormat project vault)
    | none =>
      (summarize c clock display.newestFirst project).map (overview a.outputFormat display.sizeFormat)

/-! ## Delivery -/

def deliver (files : Files) (a : Arguments) (text : String) : Except Failure (String × List (String × String)) :=
  match a.output with
  | none => .ok (text, [])
  | some path =>
    match (files path).writeFault? with
    | some fault => .error (.write path fault)
    | none => .ok (if a.quiet then "" else "✅ Report saved to: " ++ path ++ "\n", [(path, text)])

def work (i : Invocation) (a : Arguments) (settings : Settings) :
    Exchange Failure (String × List (String × String)) :=
  match Client.connect settings.service.url settings.service.token i.network.decoded with
  | .error e => ⟨.error (.service e), [], []⟩
  | .ok c =>
    let x := report c i.clock i.mapOrder a settings.display
    let start := c.connectLog ++ [⟨.info, "Using Vaultdoor at " ++ c.base.render⟩]
    ⟨x.result.bind (deliver i.files a), x.requests, start ++ x.log⟩

def withSettings (i : Invocation) (a : Arguments) (settings : Settings) : Outcome :=
  let x := work i a settings
  let shown := List.filter fun r => (settings.logLevel a).admits r.level
  let start : LogRecord := ⟨.info, "vaultsummary v1.0.0"⟩
  match x.result with
  | .ok (output, writes) =>
    { exitCode := 0, output, writes, log := shown (start :: x.log), requests := x.requests }
  | .error failure =>
    { exitCode := 1
      errors := "\n❌ Error: " ++ failure.chain ++ "\n"
      log := shown (start :: x.log ++ [⟨.error, "Vault summary failed: " ++ failure.chain⟩])
      requests := x.requests }

/-! ## Other runs -/

/-- The run that makes a settings file, unless there is one. -/
def initSettings (files : Files) : Outcome :=
  let name := Settings.fileName
  if (files name).isThere then
    { exitCode := 1, errors := "⚠️  " ++ name ++ " already exists. Remove it first or edit it manually.\n" }
  else
    match (files name).writeFault? with
    | some fault =>
      { exitCode := 1, errors := "Error: Failed to write " ++ name ++ "\n\nCaused by:\n    " ++ fault.message ++ "\n" }
    | none =>
      { exitCode := 0
        output := "✅ Created " ++ name ++ " with default settings.\n"
          ++ "   Set [vaultdoor] url and token for your deployment.\n"
        writes := [(name, Settings.template)] }

def refused (message : String) : Outcome := { exitCode := 1, errors := "Error: " ++ message ++ "\n" }

def stopped (screen : Arguments.Stop → String) (stop : Arguments.Stop) : Outcome :=
  if stop.isAnswer then { exitCode := 0, output := screen stop } else { exitCode := 2, errors := screen stop }

def withArguments (i : Invocation) (a : Arguments) : Outcome :=
  match a.fault? with
  | some fault => refused fault.message
  | none =>
    if a.initConfig then initSettings i.files
    else
      match Settings.load i.files a with
      | .error e => refused e.message
      | .ok settings => withSettings i a settings

end Run

def run (i : Invocation) : Outcome :=
  match Arguments.read i.environment i.arguments with
  | .error stop => Run.stopped (i.screen i.environment.url i.arguments) stop
  | .ok a => Run.withArguments i a

end VaultUsage
