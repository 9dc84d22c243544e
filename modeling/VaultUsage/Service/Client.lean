import VaultUsage.Service.Batch
import VaultUsage.Service.Exchange
import VaultUsage.Service.Network
import VaultUsage.Wire

/-!
# The client of the service

What can be asked of the service: its catalog of vaults, what one vault holds of a project, and the same for
many vaults at a time. A status other than 200 means that there is nothing to show, and is logged.
-/

namespace VaultUsage

structure Client where
  base : BaseUrl
  token : Option Token
  network : Network

namespace Client

def connect (url : String) (token : Option String) (network : Network) : Except ServiceError Client :=
  match BaseUrl.read url with
  | .error fault => .error (.invalidUrl url fault)
  | .ok base =>
    match token with
    | none => .ok ⟨base, none, network⟩
    | some text =>
      match Token.read? text with
      | some t => .ok ⟨base, some t, network⟩
      | none => .error .invalidToken

def connectLog (c : Client) : List LogRecord :=
  if c.token.isNone then [⟨.info, "No Vaultdoor token configured, sending unauthenticated requests"⟩] else []

/-! ## Replies -/

def replyRecord (url : Url) (reply : Reply) : LogRecord :=
  ⟨.debug, "GET " ++ url.render ++ " -> " ++ toString reply.status⟩

abbrev Logged (α : Type) := Except ServiceError α × List LogRecord

def receive {α : Type} (r : Request) (answer : Except String Reply) (use : Reply → Logged α) : Logged α :=
  match answer with
  | .error detail => (.error (.transport detail), [])
  | .ok reply =>
    let (result, log) := use reply
    (result, replyRecord r.url reply :: log)

/-! ## The catalog -/

def catalogRequest (c : Client) : Request := .get c.token c.base.catalogUrl

/-- The vaults that a JSON value lists; a value that is no array lists none. -/
def vaultsOf (url : Url) (content : Json) : Logged (List Vault) :=
  match content with
  | .array _ =>
    match Vault.listOfJson content with
    | .ok vaults => (.ok vaults, [⟨.info, "Found " ++ toString vaults.length ++ " vaults"⟩])
    | .error cause => (.error (.decode url cause), [])
  | _ => (.ok [], [⟨.warn, "Expected vault listing to be an array, got " ++ content.compact⟩])

def catalogOf (url : Url) (reply : Reply) : Logged (List Vault) :=
  if reply.status = 200 then
    match Json.parse reply.body with
    | .ok content => vaultsOf url content
    | .error cause => (.error (.decode url cause), [])
  else
    (.ok [], [⟨.error, "Vault listing failed with status " ++ toString reply.status ++ ": " ++ reply.body⟩])

/-- All vaults that the service knows, asked after `before` other requests. -/
def catalog (c : Client) (before : Nat) : Exchange ServiceError (List Vault) :=
  let r := c.catalogRequest
  let (result, log) := receive r (c.network.answer before r) (catalogOf r.url)
  ⟨result, c.network.sent before [r], ⟨.debug, "Listing vaults at " ++ r.url.render⟩ :: log⟩

/-! ## Summaries -/

def summaryRequest (c : Client) (project vault : String) : Request := .get c.token (c.base.summaryUrl project vault)

def checkingRecord (c : Client) (project vault : String) : LogRecord :=
  ⟨.debug, "Checking information about project " ++ project ++ " in vault " ++ vault ++ " at " ++ c.base.render⟩

def summaryOf (project vault : String) (url : Url) (reply : Reply) : Logged (Option Summary) :=
  if reply.status = 200 then
    match Summary.read reply.body with
    | .ok summary => (.ok (some summary), [])
    | .error cause => (.error (.decode url cause), [])
  else
    (.ok none, [⟨.error, "Summary for project " ++ project ++ " in vault " ++ vault ++ " failed with status " ++
      toString reply.status ++ ": " ++ reply.body⟩])

def awaitSummary (c : Client) (before : Nat) (project vault : String) : Logged (Option Summary) :=
  let r := c.summaryRequest project vault
  receive r (c.network.answer before r) (summaryOf project vault r.url)

/-- What a vault holds of a project, if anything, asked after `before` other requests. -/
def summary (c : Client) (before : Nat) (project vault : String) : Exchange ServiceError (Option Summary) :=
  let (result, log) := c.awaitSummary before project vault
  ⟨result, c.network.sent before [c.summaryRequest project vault], c.checkingRecord project vault :: log⟩

/-! ## Rows -/

def rowsOf (vaults : List Vault) (summaries : List (Option Summary)) : List Row :=
  List.zipWith Row.ofSummary vaults summaries

/-- The log of the parts of a batch that end, in their order; the first one that fails ends the batch. -/
def logUntilError {α : Type} (parts : List (Logged α)) : List LogRecord :=
  match parts with
  | [] => []
  | (.ok _, log) :: rest => log ++ logUntilError rest
  | (.error _, log) :: _ => log

/-- The rows of many vaults. All requests are made before the first one ends, and any error fails them all. -/
def rows (c : Client) (before : Nat) (project : String) (vaults : List Vault) : Exchange ServiceError (List Row) :=
  if vaults.isEmpty then ⟨.ok [], [], []⟩
  else
    let asked := vaults.map fun v => c.summaryRequest project v.id
    let parts := vaults.zipIdx.map fun (v, i) => c.awaitSummary (before + i) project v.id
    let order := Batch.awaited (c.network.order asked) vaults.length
    let start : LogRecord :=
      ⟨.info, "Fetching summaries for project " ++ project ++ " from " ++ toString vaults.length ++ " vaults"⟩
    let log := start :: vaults.map (fun v => c.checkingRecord project v.id)
      ++ logUntilError (order.filterMap fun place => parts[place]?)
    match Batch.collect order (parts.map Prod.fst) with
    | .error e => ⟨.error e, c.network.sent before asked, log⟩
    | .ok summaries =>
      let found := (summaries.filter Option.isSome).length
      ⟨.ok (rowsOf vaults summaries), c.network.sent before asked,
        log ++ [⟨.debug, toString found ++ " of " ++ toString vaults.length ++ " vaults returned a summary"⟩]⟩

end Client

end VaultUsage
