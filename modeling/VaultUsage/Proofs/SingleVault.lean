import VaultUsage.Proofs.Sources
import VaultUsage.Proofs.Tables

/-!
# One vault and its row

What a project holds in one vault can be read off the summary table or asked for by itself. If the service answers the
same, the two show the same: a vault without an answer has a row of zeros and no breakdown, and any other has the same
number of files and the same size in both texts.
-/

namespace VaultUsage

theorem SizeFormat.render_zero (f : SizeFormat) : f.render 0 = "0 B" := render_of_lt f.units.base_pos

@[simp] theorem Row.vaultName_ofSummary (v : Vault) (s : Option Summary) : (ofSummary v s).vaultName = v.name := by
  cases s <;> rfl

namespace Markdown

/-! ## The breakdown -/

def breakdownTitle (project vault : String) : String := "# Project " ++ project ++ " in vault `" ++ vault ++ "`\n\n"

theorem breakdown_some (sizes : SizeFormat) (project vault : String) (s : Summary) :
    breakdown sizes project vault (some s) = breakdownTitle project vault ++ "**Total:** " ++
      toString s.total.count.toNat ++ " files, " ++ sizes.render s.total.size ++ "\n\n" ++ breakdownTables sizes s := by
  unfold breakdown breakdownTitle
  simp only [String.append_assoc]

theorem breakdown_eq_noData_iff (sizes : SizeFormat) (project vault : String) (summary : Option Summary) :
    breakdown sizes project vault summary =
      breakdownTitle project vault ++ "No data for this project in this vault.\n" ↔ summary = none := by
  cases summary with
  | none => exact iff_of_true rfl rfl
  | some s =>
    refine iff_of_false ?_ nofun
    intro h
    -- behind the title, the texts differ in their first character
    have hstar : "**Total:** ".toList.head? = some '*' := rfl
    have hletter : "No data for this project in this vault.\n".toList.head? = some 'N' := rfl
    rw [breakdown_some] at h
    simp only [String.append_assoc, String.append_right_inj] at h
    have hhead := congrArg (fun text => text.toList.head?) h
    simp only [String.toList_append, List.head?_append] at hhead
    rw [hstar, hletter, Option.some_or, Option.some.injEq] at hhead
    exact absurd hhead (by decide)

end Markdown

namespace Run

variable {i : Invocation} {a : Arguments} {settings : Settings} {c : Client}

/-- The run `j` asks the same service for one vault with the same settings. -/
theorem Reaches.ask (h : Reaches i a settings c) {vault : String} (hv : Text.isBlankText vault = false)
    {format : Option Format} {j : Invocation}
    (hr : Arguments.read j.environment j.arguments = .ok { a with vault := some vault, format := format })
    (hf : j.files = i.files) :
    Reaches j { a with vault := some vault, format := format } settings { c with network := j.network.decoded } where
  read := hr
  sound := by
    obtain ⟨hproject, hurl, -, hdecimals, htimeout, hverbose⟩ := (Arguments.fault?_eq_none h.reports).mp h.sound
    have hreports : ({ a with vault := some vault, format := format } : Arguments).initConfig = false := h.reports
    exact (Arguments.fault?_eq_none hreports).mpr ⟨hproject, hurl, hv, hdecimals, htimeout, hverbose⟩
  reports := h.reports
  load := by
    rw [hf]
    exact h.load
  connect := Client.connect_with h.connect

theorem report_detail {clock : Clock} {order : MapOrder} {display : DisplaySettings} {vault text : String}
    (hl : a.listVaults = false) (hv : a.vault = some vault) :
    (report c clock order a display).result = .ok text ↔
      ∃ s, (c.summary 0 (a.project.getD "") vault).result = .ok s ∧
        detail order a.outputFormat display.sizeFormat (a.project.getD "") vault s = text := by
  simp [report, hl, hv]

theorem Reaches.delivers_detail (h : Reaches i a settings c) (hl : a.listVaults = false) {vault : String}
    (hv : a.vault = some vault) (hformat : a.outputFormat = .markdown)
    (hw : ∀ path, a.output = some path → (i.files path).writeFault? = none) {s : Option Summary}
    (hs : (c.summary 0 (a.project.getD "") vault).result = .ok s) :
    (run i).exitCode = 0 ∧
      Delivers i a (Markdown.breakdown settings.display.sizeFormat (a.project.getD "") vault s) := by
  apply h.delivers_of _ hw
  refine (report_detail hl hv).mpr ⟨s, hs, ?_⟩
  rw [hformat]
  rfl

/-- What a vault shows by itself and in its line of the table, by the reply to the request for it. -/
structure Agrees (project : String) (v : Vault) (reply : Reply) (text line : String) : Prop where
  noData : text = Markdown.breakdownTitle project v.id ++ "No data for this project in this vault.\n" ↔
    reply.status ≠ 200
  figures : ∃ files size, line = Markdown.tableLine v.name files size ∧
    (reply.status ≠ 200 → files = "0" ∧ size = "0 B") ∧
    (reply.status = 200 → ∃ tables, text = Markdown.breakdownTitle project v.id ++
      "**Total:** " ++ files ++ " files, " ++ size ++ "\n\n" ++ tables)

theorem agrees_breakdown (sizes : SizeFormat) {project : String} {v : Vault} {reply : Reply} {s : Option Summary}
    (h : if reply.status = 200 then ∃ summary, Summary.read reply.body = .ok summary ∧ some summary = s
      else none = s) :
    Agrees project v reply (Markdown.breakdown sizes project v.id s)
      (Markdown.tableLine v.name (toString (Row.ofSummary v s).fileCount.toNat)
        (sizes.render (Row.ofSummary v s).totalSize)) := by
  by_cases hs : reply.status = 200
  · rw [if_pos hs] at h
    obtain ⟨summary, -, rfl⟩ := h
    refine ⟨?_, _, _, rfl, fun hne => absurd hs hne, fun _ => ⟨_, Markdown.breakdown_some ..⟩⟩
    rw [Markdown.breakdown_eq_noData_iff]
    exact iff_of_false nofun (not_not.mpr hs)
  · rw [if_neg hs] at h
    subst h
    have hzero : toString (0 : UInt64).toNat = "0" := by decide
    exact ⟨iff_of_true rfl hs, _, _, rfl, fun _ => ⟨hzero, sizes.render_zero⟩, fun h => absurd h hs⟩

/-- If a summary ends well, it has a line for each vault in its table, and each vault of the catalog can be asked for by
itself, with an identifier that is not blank. If the service answers as it did for the row of the vault, that run ends
well too, and shows what the line shows. -/
theorem run_detail_agrees (hr : Arguments.read i.environment i.arguments = .ok a)
    (hm : a.initConfig = false ∧ a.listVaults = false ∧ a.vault = none) (he : (run i).exitCode = 0) :
    ∃ settings c catalog r lines,
      Reaches i a settings c ∧ (c.catalog 0).result = .ok catalog ∧
      Delivers i a (overview a.outputFormat settings.display.sizeFormat r) ∧
      (a.outputFormat = .markdown → catalog ≠ [] →
        Delivers i a (r.heading ++ "| Vault | Files | Size |\n|:---|---:|---:|\n" ++ String.join lines ++ "\n" ++
          Markdown.totalsLine settings.display.sizeFormat r)) ∧
      lines.length = catalog.length ∧
      ∀ k v, (arrange settings.display.newestFirst catalog)[k]? = some v → Text.isBlankText v.id = false →
        ∀ format, format ≠ some .json →
          let b := { a with vault := some v.id, format := format }
          let request := c.summaryRequest (a.project.getD "") v.id
          (∃ arguments, Arguments.read i.environment arguments = .ok b) ∧
          ∀ j, Arguments.read j.environment j.arguments = .ok b → j.files = i.files →
            j.network.answer 0 request = i.network.answer (1 + k) request →
            (run j).exitCode = 0 ∧ ∃ reply text line,
              c.network.answer (1 + k) request = .ok reply ∧ Delivers j b text ∧ lines[k]? = some line ∧
              Agrees (a.project.getD "") v reply text line := by
  obtain ⟨hi, hl, hv⟩ := hm
  obtain ⟨settings, c, h⟩ := exists_reaches hr hi he
  obtain ⟨text, ht, hd⟩ := h.exit_zero_iff.mp he
  obtain ⟨r, hs, rfl⟩ := (report_overview hl hv).mp ht
  obtain ⟨catalog, hc, rows, hrows, rfl⟩ := summarize_ok.mp hs
  have hlength : rows.length = catalog.length := by
    rw [Client.length_rows c _ hrows, length_arrange]
  refine ⟨settings, c, catalog, _, Markdown.tableLines settings.display.sizeFormat rows, h, hc, h.delivers ht he,
    fun hformat hne => ?_, ?_, fun k v hk hblank format hformat => ⟨?_, fun j hrj hf hj => ?_⟩⟩
  · have hdelivers := h.delivers ht he
    have hrows : rows ≠ [] := by
      rintro rfl
      exact hne (List.eq_nil_of_length_eq_zero hlength.symm)
    rw [hformat, overview, Markdown.report_eq _ hrows, Report.heading_eq] at hdelivers
    exact hdelivers
  · rw [Markdown.tableLines, List.length_map, hlength]
  · have hcons := Arguments.read_consistent hr
    refine Arguments.exists_read_of_read hr ⟨⟨hcons.config, hcons.output⟩, ?_⟩ rfl rfl
    simp [hl]
  obtain ⟨s, hsummary, hrow⟩ := Client.getElem?_rows c _ hrows hk
  obtain ⟨reply, hreply, hstatus⟩ := (Client.summary_ok c _).mp hsummary
  have hreach := h.ask hblank hrj hf
  -- the vault by itself is asked for first, and its row after the catalog and the vaults before it
  have hanswer : j.network.decoded.answer 0 (c.summaryRequest (a.project.getD "") v.id) =
      c.network.answer (1 + k) (c.summaryRequest (a.project.getD "") v.id) := by
    rw [Client.connect_network h.connect]
    simp only [Network.decoded, hj]
  have hsame : (Client.summary { c with network := j.network.decoded } 0 (a.project.getD "") v.id).result = .ok s :=
    (Client.summary_ok _ _).mpr ⟨reply, hanswer.trans hreply, hstatus⟩
  have hmarkdown : ({ a with vault := some v.id, format := format } : Arguments).outputFormat = .markdown := by
    cases format with
    | none => rfl
    | some f =>
      cases f with
      | markdown => rfl
      | json => exact absurd rfl hformat
  have hw := exists_deliver_iff.mp hd
  rw [← hf] at hw
  obtain ⟨hexit, hdelivers⟩ := hreach.delivers_detail hl rfl hmarkdown hw hsame
  refine ⟨hexit, reply, _, _, hreply, hdelivers, ?_, agrees_breakdown _ hstatus⟩
  rw [Markdown.tableLines, List.getElem?_map, hrow, Option.map_some, Row.vaultName_ofSummary]

/-- The vault that does not know the project, asked for by itself and in its line of the table. -/
theorem run_detail_agrees_onTwoVaults :
    let j := onTwoVaults ["-p", "p", "--vault", "b"]
    (run j).output = "# Project p in vault `b`\n\nNo data for this project in this vault.\n" ∧
      (∃ head lines total, (run (onTwoVaults ["-p", "p"])).output =
          head ++ "| Vault | Files | Size |\n|:---|---:|---:|\n" ++ String.join lines ++ "\n" ++ total ∧
        lines[0]? = some (Markdown.tableLine "B" "0" "0 B")) ∧
      ∃ reply text, reply.status ≠ 200 ∧
        Delivers j { project := some "p", url := some "http://host", vault := some "b" } text ∧
        Agrees "p" ⟨"b", "B"⟩ reply text (Markdown.tableLine "B" "0" "0 B") := by
  intro j
  obtain ⟨settings, c, catalog, r, lines, h, hc, -, htable, -, hvault⟩ :=
    run_detail_agrees (i := onTwoVaults ["-p", "p"]) (a := { project := some "p", url := some "http://host" })
      rfl ⟨rfl, rfl, rfl⟩ (by decide +kernel)
  obtain rfl : { service := ⟨"http://host", none, 30, true⟩ } = settings := Except.ok.inj h.load
  obtain rfl : ⟨⟨⟨.http, {}, .domain "host", none, [""]⟩, rfl⟩, none, twoVaults.decoded⟩ = c :=
    Except.ok.inj h.connect
  obtain rfl : [⟨"a", "A"⟩, ⟨"b", "B"⟩] = catalog := Except.ok.inj (Eq.trans (by decide +kernel) hc)
  obtain ⟨-, hrun⟩ := hvault 0 ⟨"b", "B"⟩ rfl (by decide) none nofun
  obtain ⟨-, reply, text, line, hreply, htext, hline, hagrees⟩ := hrun j rfl rfl rfl
  obtain rfl : ⟨404, ""⟩ = reply := Except.ok.inj (Eq.trans (by decide +kernel) hreply)
  obtain ⟨files, size, rfl, hzero, -⟩ := hagrees.figures
  obtain ⟨rfl, rfl⟩ := hzero (by decide)
  exact ⟨by decide +kernel, ⟨_, lines, _, (htable rfl nofun).1, hline⟩, _, text, by decide, htext, hagrees⟩

end Run

end VaultUsage
