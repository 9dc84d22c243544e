import VaultUsage.Proofs.Overview
import VaultUsage.Service.Redirects

/-!
# The token stays secret

A token goes into the authorization of requests and nowhere else. If the service answers alike whatever the
authorization is, runs with different tokens in the environment are told apart by the authorization of their requests
only: with that taken away (`unsigned`) they are the same, in their report, their files, their errors and their log.
-/

namespace VaultUsage

/-! ## Without authorization -/

/-- The request without its authorization. -/
def Request.unsigned (r : Request) : Request := { r with authorization := none }

/-- Neither the answers, nor the requests made for them but in their own authorization, nor the order in which requests
end depend on the authorization. -/
structure Network.IgnoresAuthorization (n : Network) : Prop where
  answer (before : Nat) {r r' : Request} (h : r.unsigned = r'.unsigned) : n.answer before r = n.answer before r'
  hops (before : Nat) {r r' : Request} (h : r.unsigned = r'.unsigned) :
    (n.hops before r).map Request.unsigned = (n.hops before r').map Request.unsigned
  order {l l' : List Request} (h : l.map Request.unsigned = l'.map Request.unsigned) : n.order l = n.order l'

namespace Network.IgnoresAuthorization

variable {n : Network} (h : n.IgnoresAuthorization)
include h

theorem decoded : n.decoded.IgnoresAuthorization where
  answer before _ _ hr := by simp only [Network.decoded, h.answer before hr]
  hops := h.hops
  order := h.order

theorem sent (before : Nat) {l l' : List Request} (hl : l.map Request.unsigned = l'.map Request.unsigned) :
    (n.sent before l).map Request.unsigned = (n.sent before l').map Request.unsigned := by
  have hhops : ((l.zipIdx before).flatMap fun p => n.hops p.2 p.1).map Request.unsigned =
      ((l'.zipIdx before).flatMap fun p => n.hops p.2 p.1).map Request.unsigned := by
    induction l generalizing before l' with
    | nil =>
      obtain rfl := List.map_eq_nil_iff.mp hl.symm
      rfl
    | cons r l ih =>
      obtain ⟨r', rest, rfl, hr, hrest⟩ := List.map_eq_cons_iff.mp hl.symm
      rw [List.zipIdx_cons, List.zipIdx_cons, List.flatMap_cons, List.flatMap_cons, List.map_append, List.map_append,
        ih (before + 1) hrest.symm, h.hops before hr.symm]
  rw [Network.sent, Network.sent, List.map_append, List.map_append, hl, hhops]

end Network.IgnoresAuthorization

namespace Servers

/-- The servers answer alike whatever the authorization is. -/
structure IgnoresAuthorization (s : Servers) : Prop where
  answer (before redirects : Nat) {r r' : Request} (h : r.unsigned = r'.unsigned) :
    s.answer before redirects r = s.answer before redirects r'
  order {l l' : List Request} (h : l.map Request.unsigned = l'.map Request.unsigned) : s.order l = s.order l'

variable {s : Servers}

theorem IgnoresAuthorization.follow (h : s.IgnoresAuthorization) (before more redirects : Nat) {r r' : Request}
    (hr : r.unsigned = r'.unsigned) :
    (s.follow before more redirects r).1 = (s.follow before more redirects r').1 ∧
      (s.follow before more redirects r).2.map Request.unsigned =
        (s.follow before more redirects r').2.map Request.unsigned := by
  induction more generalizing redirects r r' with
  | zero =>
    simp [Servers.follow, location?, h.answer before redirects hr]
  | succ more ih =>
    have hnext (l : Location) : (r.redirected l).unsigned = (r'.redirected l).unsigned := by
      have hredirected := congrArg (fun q : Request => (q.redirected l).unsigned) hr
      exact hredirected
    simp only [Servers.follow, location?, h.answer before redirects hr]
    split
    · exact ⟨rfl, rfl⟩
    next l _ =>
    obtain ⟨hresult, hhops⟩ := ih (redirects + 1) (hnext l)
    exact ⟨hresult, by rw [List.map_cons, List.map_cons, hnext, hhops]⟩

/-- A redirect takes the authorization along or leaves it out, and changes nothing else by it. -/
theorem IgnoresAuthorization.network (h : s.IgnoresAuthorization) : s.network.IgnoresAuthorization where
  answer before _ _ hr := (h.follow before maxRedirects 0 hr).1
  hops before _ _ hr := (h.follow before maxRedirects 0 hr).2
  order := h.order

end Servers

namespace Exchange

variable {ε φ α β : Type}

def unsigned (x : Exchange ε α) : Exchange ε α := { x with requests := x.requests.map Request.unsigned }

theorem unsigned_inj {x y : Exchange ε α} : x.unsigned = y.unsigned ↔
    x.result = y.result ∧ x.requests.map Request.unsigned = y.requests.map Request.unsigned ∧ x.log = y.log := by
  simp [unsigned]

theorem unsigned_map (f : α → β) (x : Exchange ε α) : (x.map f).unsigned = x.unsigned.map f := rfl

theorem unsigned_mapError (f : ε → φ) (x : Exchange ε α) : (x.mapError f).unsigned = x.unsigned.mapError f := rfl

theorem unsigned_andThen (x : Exchange ε α) (next : α → Exchange ε β) :
    (x.andThen next).unsigned = x.unsigned.andThen fun a => (next a).unsigned := by
  obtain ⟨result, requests, log⟩ := x
  cases result with
  | error e => rfl
  | ok a => simp [andThen, unsigned]

end Exchange

/-! ## What a client comes to -/

namespace Client

section
variable {b : BaseUrl} {n : Network} (hn : n.IgnoresAuthorization) (t t' : Option Token)
include hn

theorem catalog_unsigned (before : Nat) :
    (catalog ⟨b, t, n⟩ before).unsigned = (catalog ⟨b, t', n⟩ before).unsigned := by
  have h : n.answer before (catalogRequest ⟨b, t, n⟩) = n.answer before (catalogRequest ⟨b, t', n⟩) :=
    hn.answer before rfl
  have hsent : (n.sent before [catalogRequest ⟨b, t, n⟩]).map Request.unsigned =
      (n.sent before [catalogRequest ⟨b, t', n⟩]).map Request.unsigned := hn.sent before rfl
  simp only [catalog, h, Exchange.unsigned, hsent]
  rfl

theorem awaitSummary_token (before : Nat) (project vault : String) :
    awaitSummary ⟨b, t, n⟩ before project vault = awaitSummary ⟨b, t', n⟩ before project vault := by
  have h : n.answer before (summaryRequest ⟨b, t, n⟩ project vault) =
      n.answer before (summaryRequest ⟨b, t', n⟩ project vault) := hn.answer before rfl
  simp only [awaitSummary, h]
  rfl

theorem summary_unsigned (before : Nat) (project vault : String) :
    (summary ⟨b, t, n⟩ before project vault).unsigned = (summary ⟨b, t', n⟩ before project vault).unsigned := by
  have hsent : (n.sent before [summaryRequest ⟨b, t, n⟩ project vault]).map Request.unsigned =
      (n.sent before [summaryRequest ⟨b, t', n⟩ project vault]).map Request.unsigned := hn.sent before rfl
  simp only [summary, awaitSummary_token hn t t', Exchange.unsigned, hsent]
  rfl

theorem rows_unsigned (before : Nat) (project : String) (vaults : List Vault) :
    (rows ⟨b, t, n⟩ before project vaults).unsigned = (rows ⟨b, t', n⟩ before project vaults).unsigned := by
  have hrequests : (vaults.map fun v => summaryRequest ⟨b, t, n⟩ project v.id).map Request.unsigned =
      (vaults.map fun v => summaryRequest ⟨b, t', n⟩ project v.id).map Request.unsigned := by
    rw [List.map_map, List.map_map]
    rfl
  have horder := hn.order hrequests
  have hsent := hn.sent before hrequests
  unfold rows
  split
  · rfl
  simp only [awaitSummary_token hn t t', horder]
  split
  · simp only [Exchange.unsigned, hsent]
    rfl
  · simp only [Exchange.unsigned, hsent]
    rfl

end

end Client

/-! ## Runs -/

def Outcome.unsigned (o : Outcome) : Outcome := { o with requests := o.requests.map Request.unsigned }

def Settings.withToken (s : Settings) (token : String) : Settings :=
  { s with service := { s.service with token := some token } }

def Invocation.withToken (i : Invocation) (token : String) : Invocation :=
  { i with environment := { i.environment with token := some token } }

theorem Settings.load_withToken (files : Files) (a : Arguments) (token : String) :
    load files { a with token := some token } = (load files a).map (withToken · token) := by
  unfold load
  dsimp only
  cases stored files a.config with
  | error e => rfl
  | ok s =>
    have h : s.withArguments { a with token := some token } = (s.withArguments a).withToken token := rfl
    have hf : ((s.withArguments a).withToken token).fault? = (s.withArguments a).fault? := rfl
    simp only [bind, Except.bind, h, hf]
    split <;> rfl

namespace Run

section
variable {b : BaseUrl} {n : Network} (hn : n.IgnoresAuthorization) (t t' : Option Token)
include hn

theorem summarize_unsigned (clock : Clock) (newestFirst : Bool) (project : String) :
    (summarize ⟨b, t, n⟩ clock newestFirst project).unsigned =
      (summarize ⟨b, t', n⟩ clock newestFirst project).unsigned := by
  simp only [summarize, Exchange.unsigned_andThen, Exchange.unsigned_mapError, Exchange.unsigned_map,
    Client.catalog_unsigned hn t t', Client.rows_unsigned hn t t']

theorem report_unsigned (clock : Clock) (order : MapOrder) (a : Arguments) (display : DisplaySettings) :
    (report ⟨b, t, n⟩ clock order a display).unsigned = (report ⟨b, t', n⟩ clock order a display).unsigned := by
  unfold report
  dsimp only
  split
  · simp only [Exchange.unsigned_map, Exchange.unsigned_mapError, Client.catalog_unsigned hn t t']
  · split
    · simp only [Exchange.unsigned_map, Exchange.unsigned_mapError, Client.summary_unsigned hn t t']
    · simp only [Exchange.unsigned_map, summarize_unsigned hn t t']

end

theorem work_token (i : Invocation) (a : Arguments) (t : Option String) (s : Settings) :
    work i { a with token := t } s = work i a s := by
  have hreport (c : Client) : report c i.clock i.mapOrder { a with token := t } s.display =
      report c i.clock i.mapOrder a s.display := rfl
  have hdeliver : deliver i.files { a with token := t } = deliver i.files a := rfl
  simp only [work, hreport, hdeliver]

theorem withSettings_token (i : Invocation) (a : Arguments) (t : Option String) (s : Settings) :
    withSettings i { a with token := t } s = withSettings i a s := by
  have hlevel : s.logLevel { a with token := t } = s.logLevel a := rfl
  simp only [withSettings, work_token, hlevel]

section
variable {i : Invocation} (hn : i.network.IgnoresAuthorization) {token token' : String}
  (ht : isHeaderText token = true) (ht' : isHeaderText token' = true)
include hn ht ht'

theorem work_unsigned (a : Arguments) (s : Settings) :
    (work i a (s.withToken token)).unsigned = (work i a (s.withToken token')).unsigned := by
  simp only [work, Settings.withToken, Client.connect, Token.read?, ht, ht', dif_pos]
  cases BaseUrl.read s.service.url with
  | error fault => rfl
  | ok base =>
    have h := report_unsigned hn.decoded (b := base) (some ⟨token, ht⟩) (some ⟨token', ht'⟩) i.clock i.mapOrder a
      s.display
    obtain ⟨hresult, hrequests, hlog⟩ := Exchange.unsigned_inj.mp h
    simp only [Exchange.unsigned, Client.connectLog, Option.isNone_some, hresult, hrequests, hlog]

theorem withSettings_unsigned (a : Arguments) (s : Settings) :
    (withSettings i a (s.withToken token)).unsigned = (withSettings i a (s.withToken token')).unsigned := by
  obtain ⟨hresult, hrequests, hlog⟩ := Exchange.unsigned_inj.mp (work_unsigned hn ht ht' a s)
  have hlevel (t : String) : (s.withToken t).logLevel a = s.logLevel a := rfl
  simp only [withSettings, hresult, hlog, hlevel]
  split
  · simp only [Outcome.unsigned, hrequests]
  · simp only [Outcome.unsigned, hrequests]

theorem withArguments_unsigned (a : Arguments) :
    (withArguments i { a with token := some token }).unsigned =
      (withArguments i { a with token := some token' }).unsigned := by
  have hf (t : Option String) : { a with token := t }.fault? = a.fault? := rfl
  simp only [withArguments, hf, Settings.load_withToken]
  split
  · rfl
  split
  · rfl
  cases Settings.load i.files a with
  | error e => rfl
  | ok s =>
    simp only [Except.map, withSettings_token]
    exact withSettings_unsigned hn ht ht' a s

end

/-- Runs that differ in the token of their environment only have the same outcome, but for the authorization of
their requests: the same exit code, output, files, errors and log. -/
theorem run_withToken_unsigned {i : Invocation} (hn : i.network.IgnoresAuthorization) {token token' : String}
    (ht : isHeaderText token = true) (ht' : isHeaderText token' = true) :
    (run (i.withToken token)).unsigned = (run (i.withToken token')).unsigned := by
  have hread (t : String) : Arguments.read (i.withToken t).environment (i.withToken t).arguments =
      (Arguments.read {} i.arguments).map fun flags =>
        { flags with url := flags.url <|> i.environment.url, token := flags.token <|> some t } :=
    Arguments.read_eq_map _ _
  have hargs (t : String) (a : Arguments) : withArguments (i.withToken t) a = withArguments i a := by
    simp only [withArguments, withSettings, work, Invocation.withToken]
  simp only [run, hread, hargs]
  cases Arguments.read {} i.arguments with
  | error stop => rfl
  | ok flags =>
    simp only [Except.map]
    cases flags.token with
    | some given => rfl
    | none => exact withArguments_unsigned hn ht ht' { flags with url := flags.url <|> i.environment.url }

/-- Runs that ask for the same two vaults with different tokens. -/
theorem run_withToken_unsigned_onTwoVaults :
    let i := onTwoVaults ["-p", "p", "-v"]
    (run (i.withToken "one")).requests.map Request.authorization = List.replicate 3 (some "Bearer one") ∧
      (run (i.withToken "two")).requests.map Request.authorization = List.replicate 3 (some "Bearer two") ∧
      (run (i.withToken "one")).unsigned = (run (i.withToken "two")).unsigned := by
  intro i
  have hn : twoVaults.IgnoresAuthorization := by
    refine ⟨fun before r r' h => ?_, fun _ _ _ _ => rfl, fun _ => rfl⟩
    have hurl : r.unsigned.url = r'.unsigned.url := congrArg Request.url h
    simp only [Request.unsigned] at hurl
    simp only [twoVaults, hurl]
  exact ⟨by decide +kernel, by decide +kernel, run_withToken_unsigned (i := i) hn (by decide) (by decide)⟩

end Run

end VaultUsage
