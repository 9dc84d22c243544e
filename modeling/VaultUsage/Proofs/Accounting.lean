import VaultUsage.Proofs.Catalog
import VaultUsage.Proofs.Overview
import VaultUsage.Proofs.Redirects

/-!
# The requests of a run

A run that ends well asks for what its report needs, and for nothing else: once for the catalog if it is about all
vaults, and once for each vault it is about, as often as the catalog lists it. All of these requests ask for JSON and
have the token of the settings. They are all that is made, unless an answer redirects one of them.
-/

namespace VaultUsage

/-- A request for JSON, with the token if the settings hold one. -/
def Settings.request (s : Settings) (url : Url) : Request where
  url := url
  accept := "application/json"
  authorization := s.service.token.map ("Bearer " ++ ·)

namespace Client

theorem connect_token {url : String} {token : Option String} {n : Network} {c : Client}
    (h : connect url token n = .ok c) : c.token.map Token.text = token := by
  unfold connect at h
  split at h
  · cases h
  split at h
  · cases h
    rfl
  split at h
  · next ht =>
    cases h
    unfold Token.read? at ht
    split at ht
    · cases ht
      rfl
    · cases ht
  · cases h

end Client

theorem Url.UserInfo.credentials?_none : credentials? {} = none := by
  decide

namespace Run

variable {i : Invocation} {a : Arguments} {settings : Settings} {c : Client}

theorem Reaches.get_eq (h : Reaches i a settings c) {url : Url} (hu : url.user = {}) :
    Request.get c.token url = settings.request url := by
  have ht := Client.connect_token h.connect
  rw [Request.get, Settings.request, ← ht, Option.map_map, Request.authorizationFor, hu,
    Url.UserInfo.credentials?_none]
  rfl

theorem Reaches.requests_eq (h : Reaches i a settings c) :
    (run i).requests = (report c i.clock i.mapOrder a settings.display).requests := by
  have hwork : (work i a settings).requests = (report c i.clock i.mapOrder a settings.display).requests := by
    simp [work, h.connect]
  rw [h.run_eq, ← hwork, withSettings]
  split
  · rfl
  · rfl

theorem summarize_requests {clock : Clock} {newestFirst : Bool} {project : String} {r : Report}
    (h : (summarize c clock newestFirst project).result = .ok r) :
    ∃ catalog, (c.catalog 0).result = .ok catalog ∧
      (summarize c clock newestFirst project).requests.Perm (c.network.sent 0
        (c.catalogRequest :: (arrange newestFirst catalog).map fun v => c.summaryRequest project v.id)) := by
  obtain ⟨catalog, hc, -⟩ := summarize_ok.mp h
  refine ⟨catalog, hc, ?_⟩
  have hfirst : ((c.catalog 0).mapError Failure.service).result = .ok catalog := Exchange.mapError_ok.mpr hc
  have hrequests : (summarize c clock newestFirst project).requests = (c.catalog 0).requests ++
      (c.rows 1 project (arrange newestFirst catalog)).requests := by
    simp only [summarize, Exchange.andThen, hfirst]
    rfl
  rw [hrequests, Client.rows_requests]
  exact (c.network.sent_append 0 [c.catalogRequest] _).symm

theorem arrange_perm (newestFirst : Bool) (catalog : List Vault) : (arrange newestFirst catalog).Perm catalog := by
  unfold arrange
  split
  · exact catalog.reverse_perm
  · exact .refl _

theorem stopped_requests (screen : Arguments.Stop → String) (stop : Arguments.Stop) :
    (stopped screen stop).requests = [] := by
  unfold stopped
  split <;> rfl

theorem initSettings_requests (files : Files) : (initSettings files).requests = [] := by
  simp only [initSettings]
  split
  · rfl
  · split <;> rfl

theorem withArguments_requests (i : Invocation) {a : Arguments} (hi : a.initConfig = true) :
    (withArguments i a).requests = [] := by
  have hs : a.fault? = none := by simp [Arguments.fault?, hi]
  simp only [withArguments, hs, hi, if_true]
  exact initSettings_requests i.files

/-- What comes of the requests that a run asks for: redirects may add up to ten to each of them, which ask for JSON with
the same authorization or none; and if they are not redirected, nothing is added. -/
structure Accounts (n : Network) (asked made : List Request) : Prop where
  sent : made.Perm (n.sent 0 asked)
  redirected {servers : Servers} (h : n = servers.network) :
    made.length ≤ (Servers.maxRedirects + 1) * asked.length ∧ ∀ q ∈ made, ∃ r ∈ asked, r.LeadsTo q
  direct {servers : Servers} (h : n = servers.network)
    (hd : ∀ place r, asked[place]? = some r → servers.IsDirect place r) : made.Perm asked

theorem accounts_of_perm {n : Network} {asked made : List Request} (h : made.Perm (n.sent 0 asked)) :
    Accounts n asked made where
  sent := h
  redirected := by
    rintro servers rfl
    refine ⟨?_, fun q hq => servers.exists_leadsTo rfl (h.mem_iff.mp hq)⟩
    rw [h.length_eq]
    exact Network.length_sent_le _ servers.length_hops_le 0 asked
  direct := by
    rintro servers rfl hd
    rwa [Network.sent_of_no_hops] at h
    intro r place hr
    exact servers.hops_eq_nil_iff.mpr (hd place r (List.mem_zipIdx_iff_getElem?.mp hr))

theorem Reaches.accounts (h : Reaches i a settings c) {asked : List Request}
    (hmade : (report c i.clock i.mapOrder a settings.display).requests.Perm (c.network.sent 0 asked)) :
    Accounts i.network asked (run i).requests := by
  apply accounts_of_perm
  rw [Client.connect_network h.connect] at hmade
  rwa [h.requests_eq]

theorem Reaches.accounts_catalog (h : Reaches i a settings c) (hl : a.listVaults = true) :
    Accounts i.network [c.catalogRequest] (run i).requests := by
  apply h.accounts
  simp only [report, hl]
  exact .refl _

theorem Reaches.accounts_vault (h : Reaches i a settings c) (hl : a.listVaults = false) {vault : String}
    (hv : a.vault = some vault) :
    Accounts i.network [c.summaryRequest (a.project.getD "") vault] (run i).requests := by
  apply h.accounts
  simp only [report, hl, hv]
  exact .refl _

theorem Reaches.accounts_overview (h : Reaches i a settings c) (hl : a.listVaults = false) (hv : a.vault = none)
    (he : (run i).exitCode = 0) :
    ∃ catalog, (c.catalog 0).result = .ok catalog ∧
      Accounts i.network (c.catalogRequest :: (arrange settings.display.newestFirst catalog).map fun v =>
        c.summaryRequest (a.project.getD "") v.id) (run i).requests := by
  obtain ⟨text, ht, -⟩ := h.exit_zero_iff.mp he
  obtain ⟨r, hs, -⟩ := (report_overview hl hv).mp ht
  obtain ⟨catalog, hc, hrequests⟩ := summarize_requests hs
  refine ⟨catalog, hc, ?_⟩
  apply h.accounts
  have hreport : (report c i.clock i.mapOrder a settings.display).requests =
      (summarize c i.clock settings.display.newestFirst (a.project.getD "")).requests := by
    simp [report, hl, hv, Exchange.map]
  rwa [hreport]

/-- A run that ends well makes no request if it only answers or makes a settings file. For the catalog it asks for that
once, for one vault for that one, and for a project for the catalog and for each vault that the reply lists. -/
theorem run_requests {i : Invocation} (he : (run i).exitCode = 0) :
    (∀ stop, Arguments.read i.environment i.arguments = .error stop → (run i).requests = []) ∧
    ∀ a, Arguments.read i.environment i.arguments = .ok a →
      (a.initConfig = true → (run i).requests = []) ∧
      (a.initConfig = false → ∃ settings c, Reaches i a settings c ∧ (c.base.url.user = {} →
        let project := a.project.getD ""
        ∃ asked, Accounts i.network asked (run i).requests ∧
          (a.listVaults = true → asked = [settings.request c.base.catalogUrl]) ∧
          (a.listVaults = false → ∀ vault, a.vault = some vault →
            asked = [settings.request (c.base.summaryUrl project vault)]) ∧
          (a.listVaults = false → a.vault = none → ∃ reply catalog,
            c.network.answer 0 (settings.request c.base.catalogUrl) = .ok reply ∧ reply.Lists catalog ∧
            asked.Perm (settings.request c.base.catalogUrl ::
              catalog.map fun v => settings.request (c.base.summaryUrl project v.id))))) := by
  refine ⟨fun stop hr => ?_, fun a hr => ⟨fun hi => ?_, fun hi => ?_⟩⟩
  · rw [run, hr]
    exact stopped_requests _ stop
  · rw [run, hr]
    exact withArguments_requests i hi
  obtain ⟨settings, c, h⟩ := exists_reaches hr hi he
  refine ⟨settings, c, h, fun hu => ?_⟩
  have hcatalog : c.catalogRequest = settings.request c.base.catalogUrl := h.get_eq hu
  have hsummary (project vault : String) :
      c.summaryRequest project vault = settings.request (c.base.summaryUrl project vault) := h.get_eq hu
  by_cases hl : a.listVaults = true
  · have haccounts := h.accounts_catalog hl
    rw [hcatalog] at haccounts
    exact ⟨_, haccounts, by simp, by simp [hl], by simp [hl]⟩
  have hl : a.listVaults = false := Bool.eq_false_iff.mpr hl
  cases hv : a.vault with
  | some vault =>
    have haccounts := h.accounts_vault hl hv
    rw [hsummary] at haccounts
    exact ⟨_, haccounts, by simp [hl], by simp, by simp⟩
  | none =>
    obtain ⟨catalog, hc, haccounts⟩ := h.accounts_overview hl hv he
    obtain ⟨reply, hreply, hlists⟩ := Client.catalog_ok.mp hc
    rw [hcatalog] at haccounts hreply
    simp only [hsummary] at haccounts
    have hlisted := (arrange_perm settings.display.newestFirst catalog).map fun v =>
      settings.request (c.base.summaryUrl (a.project.getD "") v.id)
    exact ⟨_, haccounts, by simp [hl], by simp, fun _ _ => ⟨reply, catalog, hreply, hlists, hlisted.cons _⟩⟩

/-- One vault that is listed twice and holds nothing of any project. -/
def listedTwice : Servers where
  answer _ _ r := .ok {
    reply :=
      if r.url.render = "http://host/api/vault" then
        { body := "[\x7b\"vaultId\":\"a\",\"name\":\"A\"\x7d,\x7b\"name\":\"B\",\"vaultId\":\"a\"\x7d]" }
      else { status := 404, body := "" } }

theorem run_requests_listedTwice :
    let i : Invocation :=
      { onTwoVaults ["-p", "p"] with environment := ⟨some "http://host", some "t"⟩, network := listedTwice.network }
    (run i).requests.map Request.authorization = [some "Bearer t", some "Bearer t", some "Bearer t"] ∧
      ∃ settings c, Reaches i { project := some "p", url := some "http://host", token := some "t" } settings c ∧
        ∃ (reply : Reply) (catalog : List Vault), reply.Lists catalog ∧
          (run i).requests.Perm (settings.request c.base.catalogUrl ::
            catalog.map fun v => settings.request (c.base.summaryUrl "p" v.id)) := by
  intro i
  have he : (run i).exitCode = 0 := by decide +kernel
  obtain ⟨settings, c, h, hrequests⟩ := ((run_requests he).2 _ rfl).2 rfl
  have hu : c.base.url.user = {} := by
    obtain rfl : { service := ⟨"http://host", some "t", 30, true⟩ } = settings := Except.ok.inj h.load
    obtain rfl : ⟨⟨⟨.http, {}, .domain "host", none, [""]⟩, rfl⟩, some ⟨"t", rfl⟩, listedTwice.network.decoded⟩ = c :=
      Except.ok.inj h.connect
    rfl
  obtain ⟨asked, haccounts, -, -, hlisted⟩ := hrequests hu
  obtain ⟨reply, catalog, -, hlists, hasked⟩ := hlisted rfl rfl
  have hdirect (place : Nat) (r : Request) : listedTwice.IsDirect place r := by
    simp [Servers.IsDirect, Servers.location?, listedTwice, Answer.next?]
  have hperm := haccounts.direct rfl fun place r _ => hdirect place r
  exact ⟨by decide +kernel, settings, c, h, reply, catalog, hlists, hperm.trans hasked⟩

/-- A service that has moved its catalog. -/
def moved : Servers where
  answer _ redirects _ :=
    if redirects = 0 then
      .ok ⟨⟨302, ""⟩, some { url := ⟨.http, {}, .domain "host", none, ["api", "vault", ""]⟩ }⟩
    else .ok ⟨⟨200, "[]"⟩, none⟩

/-- A run that lists the vaults makes two requests, if the first one is redirected. -/
theorem run_requests_moved :
    let i : Invocation := { onTwoVaults ["--list-vaults"] with network := moved.network }
    (run i).exitCode = 0 ∧ (run i).output = "# Vaults\n\nNo vaults are known to Vaultdoor.\n" ∧
      (run i).requests.map Request.sender = ["http://host/api/vault", "http://host/api/vault/"] ∧
      ∃ settings c, Reaches i { listVaults := true, url := some "http://host" } settings c ∧
        c.base.url.user = {} ∧ ¬(run i).requests.Perm [settings.request c.base.catalogUrl] := by
  intro i
  have he : (run i).exitCode = 0 := by decide +kernel
  obtain ⟨settings, c, h⟩ := exists_reaches (a := { listVaults := true, url := some "http://host" }) rfl rfl he
  refine ⟨he, by decide +kernel, by decide +kernel, settings, c, h, ?_, fun hperm => ?_⟩
  · obtain rfl : { service := ⟨"http://host", none, 30, true⟩ } = settings := Except.ok.inj h.load
    obtain rfl : ⟨⟨⟨.http, {}, .domain "host", none, [""]⟩, rfl⟩, none, moved.network.decoded⟩ = c :=
      Except.ok.inj h.connect
    rfl
  · have htwo : (run i).requests.length = 2 := by decide +kernel
    have hone : (run i).requests.length = 1 := hperm.length_eq
    exact absurd (htwo.symm.trans hone) (by decide)

end Run

end VaultUsage
