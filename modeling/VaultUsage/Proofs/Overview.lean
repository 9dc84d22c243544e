import VaultUsage.Proofs.CommandLine
import VaultUsage.Proofs.Layout
import VaultUsage.Proofs.Rows
import VaultUsage.Proofs.Run
import VaultUsage.Proofs.Totals

/-!
# The report on a whole catalog

Each vault of the catalog has a row of its own, in the order shown, and the totals are the capped sums of the
rows (`Shows`). Shown in the order of the catalog or newest first, the rows are the same in reverse: each vault
is asked for at another place, and its row is found in that place. What a run leaves behind is the text of that report
(`Report.Presents`).
-/

namespace VaultUsage

namespace Settings

theorem load_ok {files : Files} {a : Arguments} {settings : Settings} :
    load files a = .ok settings ↔
      ∃ given, stored files a.config = .ok given ∧ given.withArguments a = settings ∧ settings.fault? = none := by
  unfold load
  rw [bind_eq_ok]
  refine exists_congr fun given => and_congr_right fun _ => ?_
  dsimp only
  constructor
  · intro h
    split at h
    · cases h
    · next hf => cases h; exact ⟨rfl, hf⟩
  · rintro ⟨rfl, hf⟩
    rw [hf]

theorem load_catalogOrder {files : Files} {a : Arguments} {settings : Settings} (h : load files a = .ok settings) :
    load files { a with catalogOrder := true } =
      .ok { settings with display := { settings.display with newestFirst := false } } := by
  obtain ⟨given, hs, rfl, hf⟩ := load_ok.mp h
  refine load_ok.mpr ⟨given, hs, ?_, hf⟩
  simp [withArguments, DisplaySettings.withArguments, ServiceSettings.withArguments]

end Settings

namespace Client

theorem connect_map (url : String) (token : Option String) (n n' : Network) :
    connect url token n' = (connect url token n).map fun c => { c with network := n' } := by
  unfold connect
  split
  · rfl
  · split
    · rfl
    · split
      · rfl
      · rfl

theorem connect_network {url : String} {token : Option String} {n : Network} {c : Client}
    (h : connect url token n = .ok c) : c.network = n := by
  rw [connect_map url token n n] at h
  obtain ⟨c', -, rfl⟩ := map_eq_ok.mp h
  rfl

theorem connect_with {url : String} {token : Option String} {n n' : Network} {c : Client}
    (h : connect url token n = .ok c) : connect url token n' = .ok { c with network := n' } := by
  rw [connect_map url token n n', h]
  rfl

theorem catalog_result (c : Client) (before : Nat) :
    (c.catalog before).result =
      (receive c.catalogRequest (c.network.answer before c.catalogRequest) (catalogOf c.catalogRequest.url)).1 :=
  rfl

theorem summary_result (c : Client) (before : Nat) (project vault : String) :
    (c.summary before project vault).result =
      (receive (c.summaryRequest project vault) (c.network.answer before (c.summaryRequest project vault))
        (summaryOf project vault (c.summaryRequest project vault).url)).1 :=
  rfl

theorem fetched_reverse {c c' : Client} {project : String} {vaults : List Vault}
    (h : ∀ k v, vaults[k]? = some v →
      (c'.summary (1 + k) project v.id).result = (c.summary (vaults.length - k) project v.id).result) :
    c'.fetched 1 project vaults = (c.fetched 1 project vaults.reverse).reverse := by
  apply List.ext_getElem?
  intro k
  by_cases hk : k < vaults.length
  · rw [List.getElem?_reverse (by simpa using hk), getElem?_fetched, getElem?_fetched, length_fetched,
      List.length_reverse, List.getElem?_reverse (by omega)]
    -- place `k` is place `length - 1 - k` of the reverse, whose request is made `length - k` after the first
    have hk' : vaults.length - 1 - (vaults.length - 1 - k) = k := by omega
    have hn : 1 + (vaults.length - 1 - k) = vaults.length - k := by omega
    rw [hk', hn, List.getElem?_eq_getElem hk, Option.map_some, Option.map_some,
      h k _ (List.getElem?_eq_getElem hk)]
  · rw [List.getElem?_eq_none (by simpa using hk), List.getElem?_eq_none (by simpa using hk)]

theorem rows_reverse {c c' : Client} {project : String} {vaults : List Vault} {rows : List Row}
    (h : ∀ k v, vaults[k]? = some v →
      (c'.summary (1 + k) project v.id).result = (c.summary (vaults.length - k) project v.id).result)
    (hr : (c.rows 1 project vaults.reverse).result = .ok rows) :
    (c'.rows 1 project vaults).result = .ok rows.reverse := by
  obtain ⟨summaries, hf, rfl⟩ := (rows_ok c project).mp hr
  have hl : vaults.reverse.length = summaries.length := by
    rw [← length_fetched c project 1, hf, List.length_map]
  refine (rows_ok c' project).mpr ⟨summaries.reverse, ?_, ?_⟩
  · rw [fetched_reverse h, hf, List.map_reverse]
  · rw [rowsOf, rowsOf, List.reverse_zipWith hl, List.reverse_reverse]

end Client

namespace Run

/-! ## The summary of a project -/

theorem summarize_ok {c : Client} {clock : Clock} {newestFirst : Bool} {project : String} {r : Report} :
    (summarize c clock newestFirst project).result = .ok r ↔
      ∃ catalog, (c.catalog 0).result = .ok catalog ∧
        ∃ rows, (c.rows 1 project (arrange newestFirst catalog)).result = .ok rows ∧
          reportOf c.base clock project (arrange newestFirst catalog) rows = r := by
  simp [summarize]

theorem report_overview {c : Client} {clock : Clock} {order : MapOrder} {a : Arguments} {display : DisplaySettings}
    {text : String} (hl : a.listVaults = false) (hv : a.vault = none) :
    (report c clock order a display).result = .ok text ↔
      ∃ r, (summarize c clock display.newestFirst (a.project.getD "")).result = .ok r ∧
        overview a.outputFormat display.sizeFormat r = text := by
  simp [report, hl, hv]

@[simp] theorem length_arrange (newestFirst : Bool) (vaults : List Vault) :
    (arrange newestFirst vaults).length = vaults.length := by
  unfold arrange
  split <;> simp

/-- The report `r` shows the whole catalog: each vault in its place, by the answer to the request made for that
place, and the capped sums of all. -/
structure Shows (c : Client) (project : String) (newestFirst : Bool) (catalog : List Vault) (r : Report) : Prop where
  count : r.vaultCount = .ofNat r.rows.length
  length : r.rows.length = catalog.length
  row (k : Nat) (v : Vault) (hv : (arrange newestFirst catalog)[k]? = some v) :
    ∃ reply, c.network.answer (1 + k) (c.summaryRequest project v.id) = .ok reply ∧
      if reply.status = 200 then
        ∃ s, Summary.read reply.body = .ok s ∧ r.rows[k]? = some ⟨v.name, s.total.count, s.total.size⟩
      else r.rows[k]? = some ⟨v.name, 0, 0⟩
  totalCount : r.totals.count.toNat = min (r.rows.map fun row => row.fileCount.toNat).sum (UInt64.size - 1)
  totalSize : r.totals.size.toNat = min (r.rows.map fun row => row.totalSize.toNat).sum (UInt64.size - 1)

theorem shows_reportOf {c : Client} {clock : Clock} {project : String} {newestFirst : Bool} {catalog : List Vault}
    {rows : List Row} (h : (c.rows 1 project (arrange newestFirst catalog)).result = .ok rows) :
    Shows c project newestFirst catalog (reportOf c.base clock project (arrange newestFirst catalog) rows) where
  count := by rw [reportOf, Client.length_rows c project h]
  length := by rw [reportOf, Client.length_rows c project h, length_arrange]
  row k v hv := by
    obtain ⟨s, hs, hr⟩ := Client.getElem?_rows c project h hv
    obtain ⟨reply, hreply, hstatus⟩ := (Client.summary_ok c project).mp hs
    refine ⟨reply, hreply, ?_⟩
    by_cases h200 : reply.status = 200
    · rw [if_pos h200] at hstatus ⊢
      obtain ⟨summary, hread, rfl⟩ := hstatus
      exact ⟨summary, hread, hr⟩
    · rw [if_neg h200] at hstatus ⊢
      subst hstatus
      exact hr
  totalCount := Row.toNat_totals_count rows
  totalSize := Row.toNat_totals_size rows

/-! ## Both orders -/

/-- The run `j`, in the order of the catalog, is answered as the run `i` is, newest first: the same catalog, and
the same for the vault in each place of it. -/
def AnsweredAlike (i j : Invocation) (c : Client) (project : String) (catalog : List Vault) : Prop :=
  j.network.answer 0 c.catalogRequest = i.network.answer 0 c.catalogRequest ∧
    ∀ k v, catalog[k]? = some v →
      j.network.answer (1 + k) (c.summaryRequest project v.id) =
        i.network.answer (catalog.length - k) (c.summaryRequest project v.id)

theorem Reaches.catalogOrder {i j : Invocation} {a : Arguments} {settings : Settings} {c : Client}
    (h : Reaches i a settings c) (hr : Arguments.read j.environment j.arguments = .ok { a with catalogOrder := true })
    (hf : j.files = i.files) :
    Reaches j { a with catalogOrder := true }
      { settings with display := { settings.display with newestFirst := false } }
      { c with network := j.network.decoded } where
  read := hr
  sound := h.sound
  reports := h.reports
  load := by rw [hf]; exact Settings.load_catalogOrder h.load
  connect := Client.connect_with h.connect

theorem totalsLine_reverse {r r' : Report} (hr : r'.rows = r.rows.reverse) (ht : r'.totals = r.totals)
    (sizes : SizeFormat) : Markdown.totalsLine sizes r' = Markdown.totalsLine sizes r := by
  unfold Markdown.totalsLine
  rw [hr, ht, Row.countWithData_perm r.rows.reverse_perm, List.length_reverse, List.isEmpty_reverse]

theorem AnsweredAlike.summarize {i j : Invocation} {c : Client} {project : String} {catalog : List Vault}
    {rows : List Row} (h : AnsweredAlike i j c project catalog) (hn : c.network = i.network.decoded)
    (hc : (c.catalog 0).result = .ok catalog) (hr : (c.rows 1 project catalog.reverse).result = .ok rows) :
    (summarize { c with network := j.network.decoded } j.clock false project).result =
      .ok (reportOf c.base j.clock project catalog rows.reverse) := by
  have hdecoded {before before' : Nat} {r : Request} (ha : j.network.answer before' r = i.network.answer before r) :
      j.network.decoded.answer before' r = c.network.answer before r := by
    rw [hn]
    simp only [Network.decoded, ha]
  have hrows : (Client.rows { c with network := j.network.decoded } 1 project catalog).result = .ok rows.reverse := by
    refine Client.rows_reverse (fun k v hv => ?_) hr
    rw [Client.summary_result, Client.summary_result, ← hdecoded (h.2 k v hv)]
    rfl
  refine summarize_ok.mpr ⟨catalog, ?_, rows.reverse, hrows, rfl⟩
  rw [← hc, Client.catalog_result, Client.catalog_result, ← hdecoded h.1]
  rfl

/-- A summary that ends well delivers a text that shows the whole catalog, and with the order of the catalog asked for
one that shows the same rows in reverse and the same totals. -/
theorem run_overview {i : Invocation} {a : Arguments} (hr : Arguments.read i.environment i.arguments = .ok a)
    (hm : a.initConfig = false ∧ a.listVaults = false ∧ a.vault = none) (he : (run i).exitCode = 0) :
    ∃ settings c catalog r,
      Reaches i a settings c ∧ (c.catalog 0).result = .ok catalog ∧
      (∃ text, Delivers i a text ∧ r.Presents settings.display.sizeFormat a.outputFormat text) ∧
      Shows c (a.project.getD "") settings.display.newestFirst catalog r ∧
      (∃ arguments, Arguments.read i.environment arguments = .ok { a with catalogOrder := true }) ∧
      (settings.display.newestFirst = true →
        ∀ j, Arguments.read j.environment j.arguments = .ok { a with catalogOrder := true } → j.files = i.files →
          AnsweredAlike i j c (a.project.getD "") catalog →
          (run j).exitCode = 0 ∧
          ∃ r' text, Delivers j { a with catalogOrder := true } text ∧
            r'.Presents settings.display.sizeFormat a.outputFormat text ∧
            r'.rows = r.rows.reverse ∧ r'.totals = r.totals ∧
            Row.countWithData r'.rows = Row.countWithData r.rows ∧
            ∀ sizes, Markdown.totalsLine sizes r' = Markdown.totalsLine sizes r) := by
  obtain ⟨hi, hl, hv⟩ := hm
  obtain ⟨settings, c, h⟩ := exists_reaches hr hi he
  obtain ⟨text, ht, hd⟩ := h.exit_zero_iff.mp he
  obtain ⟨r, hs, rfl⟩ := (report_overview hl hv).mp ht
  obtain ⟨catalog, hc, rows, hrows, rfl⟩ := summarize_ok.mp hs
  refine ⟨settings, c, catalog, _, h, hc, ⟨_, h.delivers ht he, Report.presents_overview _ _ _⟩,
    shows_reportOf hrows, ?_, fun hnew j hrj hf ha => ?_⟩
  · have hcons := Arguments.read_consistent hr
    exact Arguments.exists_read_of_read hr ⟨⟨hcons.config, hcons.output⟩, hcons.vault⟩ rfl rfl
  rw [hnew, arrange, if_pos rfl] at hrows
  -- the other run reaches the same service, shows the rows in reverse and delivers them in the same way
  have hj := h.catalogOrder hrj hf
  have hsj := ha.summarize (Client.connect_network h.connect) hc hrows
  have htj : (report _ j.clock j.mapOrder { a with catalogOrder := true }
      { settings.display with newestFirst := false }).result = .ok _ := (report_overview hl hv).mpr ⟨_, hsj, rfl⟩
  have hw := exists_deliver_iff.mp hd
  rw [← hf] at hw
  obtain ⟨hej, hdelivers⟩ := hj.delivers_of htj hw
  have htotals : Row.totals rows.reverse = Row.totals rows := Row.totals_perm rows.reverse_perm
  refine ⟨hej, _, _, hdelivers, Report.presents_overview _ _ _, rfl, htotals, ?_, totalsLine_reverse rfl htotals⟩
  exact Row.countWithData_perm rows.reverse_perm

/-- Two vaults, one of which has something of the project. -/
def twoVaults : Network where
  answer _ r :=
    if r.url.render = "http://host/api/vault" then
      .ok { body := "[\x7b\"vaultId\":\"a\",\"name\":\"A\"\x7d,\x7b\"vaultId\":\"b\",\"name\":\"B\"\x7d]" }
    else if r.url.render = "http://host/api/vault/a/projectSummary/p" then
      .ok { body := "\x7b\"total\":\x7b\"count\":3,\"size\":4\x7d\x7d" }
    else .ok { status := 404, body := "" }

def onTwoVaults (arguments : List String) : Invocation where
  arguments
  environment := ⟨some "http://host", none⟩
  files _ := .vacant
  clock := ⟨⟨⟨2024, 3, 1⟩, ⟨12, 34, 56, 0⟩, by decide⟩, .zero false⟩
  network := twoVaults

theorem run_overview_onTwoVaults :
    ∃ settings c catalog r,
      Reaches (onTwoVaults ["-p", "p"]) { project := some "p", url := some "http://host" } settings c ∧
      Shows c "p" true catalog r ∧
      r.Presents settings.display.sizeFormat .markdown (run (onTwoVaults ["-p", "p"])).output ∧
      (run (onTwoVaults ["-p", "p", "--catalog-order"])).exitCode = 0 ∧
      ∃ r' : Report, r'.rows = r.rows.reverse ∧ r'.totals = r.totals ∧
        r'.Presents settings.display.sizeFormat .markdown
          (run (onTwoVaults ["-p", "p", "--catalog-order"])).output := by
  obtain ⟨settings, c, catalog, r, h, -, ⟨text, ⟨rfl, -⟩, htext⟩, hs, -, hj⟩ :=
    run_overview (i := onTwoVaults ["-p", "p"]) (a := { project := some "p", url := some "http://host" })
      rfl ⟨rfl, rfl, rfl⟩ (by decide +kernel)
  have hnew : settings.display.newestFirst = true := by
    obtain ⟨given, hgiven, rfl, -⟩ := Settings.load_ok.mp h.load
    obtain rfl : {} = given := Except.ok.inj hgiven
    rfl
  rw [hnew] at hs
  obtain ⟨he, r', text', ⟨rfl, -⟩, htext', hrows, htotals, -⟩ :=
    hj hnew (onTwoVaults ["-p", "p", "--catalog-order"]) rfl rfl ⟨rfl, fun _ _ _ => rfl⟩
  exact ⟨settings, c, catalog, r, h, hs, htext, he, r', hrows, htotals, htext'⟩

end Run

end VaultUsage
