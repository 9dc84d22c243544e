import VaultUsage.Proofs.Json.FromText
import VaultUsage.Proofs.Json.Integers
import VaultUsage.Proofs.Json.Pointers
import VaultUsage.Proofs.Overview
import VaultUsage.Proofs.ReadBack
import VaultUsage.Wire

/-!
# Figures from the text of a summary to the report

The total count and the total size of a summary are read from the texts of numbers. A text of digits that fits into 64
bits is read as what it says, and the row of the vault in a JSON report prints the same digits again; with any other
number the summary is refused (`Run.figures_exact`).
-/

namespace VaultUsage

open Json (Shape Tree Context IsNumeral)

/-! ## The two figures -/

namespace Usage

abbrev fields : Json.Fields := .cons "count" (.whole "u64") (.cons "size" (.whole "u64") .nil)

namespace Figure

def pointer : (f : Figure) → fields.Pointer f.name (.whole "u64")
  | count => .here
  | size => .there .here

theorem get_pointer (f : Figure) (v : shape.Value) : f.pointer.get v = f.of (ofFields v) := by
  cases f <;> rfl

/-- The way from a summary to the figure in its total. -/
def path (f : Figure) : List (String × Nat) := [("total", 0), (f.name, f.pointer.index)]

end Figure

end Usage

open Usage (Figure)

namespace Summary

abbrev fields : Json.Fields :=
  .cons "total" Usage.shape (.cons "gnmType" Breakdown.shape (.cons "fileType" Breakdown.shape
    (.cons "mediaType" Breakdown.shape (.cons "hiddenFile" Breakdown.shape (.cons "gnmProject" Breakdown.shape .nil)))))

def totalPointer : fields.Pointer "total" Usage.shape := .here

/-- A figure is read from what stands in its place, and anything else there that can be read makes a summary too. -/
theorem reads_figure {r : Json.TableRule} {f : Figure} {c : Context} (hc : c.Follows f.path) :
    (∀ {t v}, shape.Reads r (c.plug t) v → (Shape.whole "u64").Reads r t (f.of (ofFields v).total)) ∧
      ∀ {t t' v w}, shape.Reads r (c.plug t) v → (Shape.whole "u64").Reads r t' w →
        ∃ v', shape.Reads r (c.plug t') v' := by
  obtain ⟨inner, hinner, hget, hset⟩ := totalPointer.exists_inner hc "VaultUsageSummary"
  obtain ⟨hole, hhole, hget', hset'⟩ := f.pointer.exists_inner (r := r) hinner "SummaryEntry"
  cases Json.Context.eq_here hhole
  constructor
  · intro t v hv
    have hfigure := hget' (hget hv)
    rwa [Figure.get_pointer] at hfigure
  · intro t t' v w hv hw
    exact ⟨_, hset (by decide) hv (hset' (by decide) (hget hv) hw)⟩

end Summary

/-! ## Numbers that are read -/

/-- Digits only, and the number fits into 64 bits. -/
def IsWord (text : List Char) : Prop := (∀ c ∈ text, Text.isDigit c = true) ∧ Text.ofDigits 10 text < 2 ^ 64

theorem Json.IsNumeral.isWord_iff {x rest : List Char} {l : Json.Numeral} (h : IsNumeral (x ++ rest) l rest) :
    IsWord x ↔ ∃ w : UInt64, Nat.toDigits 10 w.toNat = x := by
  constructor
  · rintro ⟨hdigits, hlt⟩
    refine ⟨.ofNat (Text.ofDigits 10 x), ?_⟩
    rw [UInt64.toNat_ofNat_of_lt' hlt]
    rcases h.plain_or with ⟨-, rfl, -⟩ | ⟨-, c, hc, hd⟩
    · exact h.toDigits_whole
    · cases (hdigits c hc).symm.trans hd
  · rintro ⟨w, rfl⟩
    refine ⟨fun c => Text.isDigit_of_mem_toDigits, ?_⟩
    rw [Text.ofDigits_toDigits (by decide) (by decide)]
    exact w.toNat_lt

theorem Json.IsNumeral.reads_iff {x rest : List Char} {l : Json.Numeral} (h : IsNumeral (x ++ rest) l rest)
    {r : Json.TableRule} {name : String} {w : UInt64} :
    (Shape.whole name).Reads r (.number l.value.toOption) w ↔ Nat.toDigits 10 w.toNat = x := by
  constructor
  · rintro ⟨i, hi, hnonneg, rfl⟩
    obtain ⟨n, rfl⟩ := Int.eq_ofNat_of_zero_le hnonneg
    rw [Tree.number.injEq, toOption_eq_some, h.value_eq_natural] at hi
    rw [Int.toNat_natCast, UInt64.toNat_ofNat_of_lt' hi.2]
    exact hi.1
  · intro hx
    refine ⟨w.toNat, ?_, Int.natCast_nonneg _, UInt64.ofNat_toNat⟩
    rw [Tree.number.injEq, toOption_eq_some, h.value_eq_natural]
    exact ⟨hx, w.toNat_lt⟩

namespace Usage.Figure

/-- The text of a number stands in the place of the figure. With a zero in that place, the rest is a summary. -/
def StandsIn (f : Figure) (body : String) (x : List Char) : Prop :=
  ∃ c rest l, c.Follows f.path ∧ Json.StandsAt body.toList c (x ++ rest) rest ∧ IsNumeral (x ++ rest) l rest ∧
    ∃ v, Summary.shape.Reads Json.Collects (c.plug (.number (some (.integer 0)))) v

variable {f : Figure} {body : String} {x : List Char}

theorem StandsIn.read_eq_ok (h : f.StandsIn body x) :
    ((∃ s, Summary.read body = .ok s) ↔ IsWord x) ∧
      ∀ s, Summary.read body = .ok s → Nat.toDigits 10 (f.of s.total).toNat = x := by
  obtain ⟨c, rest, l, hc, hstands, hnumeral, zero, hzero⟩ := h
  obtain ⟨hget, hset⟩ := Summary.reads_figure (r := Json.Collects) hc
  have hbody : Json.IsWellFormed body.toList (c.plug (.number l.value.toOption)) :=
    hstands.isWellFormed (.number hnumeral rfl)
  have hread {s : Summary} : Summary.read body = .ok s ↔
      ∃ v, Summary.shape.Reads Json.Collects (c.plug (.number l.value.toOption)) v ∧ Summary.ofFields v = s := by
    rw [Summary.read, map_eq_ok]
    exact exists_congr fun v => and_congr_left' (Summary.shape.read_of_isWellFormed (by decide) hbody)
  have hfigure {s : Summary} (hs : Summary.read body = .ok s) : Nat.toDigits 10 (f.of s.total).toNat = x := by
    obtain ⟨v, hv, rfl⟩ := hread.mp hs
    exact hnumeral.reads_iff.mp (hget hv)
  refine ⟨?_, fun s => hfigure⟩
  rw [hnumeral.isWord_iff]
  constructor
  · rintro ⟨s, hs⟩
    exact ⟨_, hfigure hs⟩
  · rintro ⟨w, hw⟩
    obtain ⟨v, hv⟩ := hset hzero (hnumeral.reads_iff.mpr hw)
    exact ⟨_, hread.mpr ⟨v, hv, rfl⟩⟩

end Usage.Figure

/-! ## A body for each number -/

namespace Json

theorem hasString_escape (s : String) (rest : List Char) :
    HasString (s.toList.flatMap escapeChar ++ '"' :: rest) (some s) rest :=
  hasString_iff.mpr (isString_flatMap_escapeChar s.toList rest)

theorem membersTo_quoted (name : String) (start : List Char) :
    MembersTo true ((quoted name).toList ++ ':' :: start) [] (some name) start := by
  rw [quoted_append]
  exact .here (.first .none) (hasString_escape name _) .none .none

theorem stops_of_delimits {c : Char} {rest : List Char} (hc : c = ',' ∨ c = '\x7d') : Stops (c :: rest) := by
  intro d hd
  cases hd
  rcases hc with rfl | rfl <;> decide

end Json

/-- Every natural number stands in some body. -/
theorem Usage.Figure.count_standsIn (n : Nat) :
    count.StandsIn ("\x7b\"total\":\x7b\"count\":" ++ toString n ++ ",\"size\":0\x7d\x7d") (Nat.toDigits 10 n) := by
  let zero : Json.Tree := .number (some (.integer 0))
  let c : Context := .member [] (some "total") (.member [] (some "count") .here [(some "size", zero)]) []
  let rest : List Char := ',' :: ((Json.quoted "size").toList ++ [':', '0', '\x7d', '\x7d'])
  have hsize : Json.HasMembers false rest [(some "size", zero)] ['\x7d'] := by
    unfold rest
    rw [Json.quoted_append]
    exact .member (.next .none .none) (Json.hasString_escape "size" _) .none .none
      (.number (Json.isNumeral_toDigits 0 (Json.stops_of_delimits (.inr rfl))) rfl) (.closed .none)
  have hencloses (hole : List Char) : Json.Encloses ('\x7b' :: ((Json.quoted "total").toList ++ ':' :: '\x7b' ::
      ((Json.quoted "count").toList ++ ':' :: hole))) c hole rest [] :=
    .member (Json.membersTo_quoted "total" _) (.member (Json.membersTo_quoted "count" _) .here hsize) (.closed .none)
  have hzero : ∃ v, Summary.shape.Reads Json.Collects (c.plug zero) v := by
    have hread : Summary.read "\x7b\"total\":\x7b\"count\":0,\"size\":0\x7d\x7d" = .ok { total := {} } := by
      decide +kernel
    have hbody : Json.IsWellFormed "\x7b\"total\":\x7b\"count\":0,\"size\":0\x7d\x7d".toList (c.plug zero) := by
      decide +kernel
    obtain ⟨v, hshape, -⟩ := map_eq_ok.mp hread
    exact ⟨v, (Summary.shape.read_of_isWellFormed (by decide) hbody).mp hshape⟩
  refine ⟨c, rest, _, ⟨_, _, rfl, rfl, _, _, rfl, rfl, rfl⟩, ⟨_, [], .none, ?_, .none⟩,
    Json.isNumeral_toDigits n (Json.stops_of_delimits (.inl rfl)), hzero⟩
  have htext : ("\x7b\"total\":\x7b\"count\":" ++ toString n ++ ",\"size\":0\x7d\x7d").toList = '\x7b' ::
      ((Json.quoted "total").toList ++ ':' :: '\x7b' :: ((Json.quoted "count").toList ++ ':' ::
        (Nat.toDigits 10 n ++ rest))) := by
    have htotal : Json.quoted "total" = "\"total\"" := by decide
    have hcount : Json.quoted "count" = "\"count\"" := by decide
    have hsize : Json.quoted "size" = "\"size\"" := by decide
    simp [rest, htotal, hcount, hsize]
  rw [htext]
  exact hencloses _

/-! ## From the body to the report -/

theorem Client.summary_of_body {c : Client} {before : Nat} {project vault body : String}
    (h : c.network.answer before (c.summaryRequest project vault) = .ok ⟨200, body⟩) :
    (c.summary before project vault).result =
      ((Summary.read body).map some).mapError (.decode (c.summaryRequest project vault).url) := by
  rw [summary_result, h, receive, summaryOf, if_pos rfl]
  cases Summary.read body <;> rfl

namespace Run

/-- The run is to show the whole catalog, and for the vault in place `k` of it, as it is shown, it gets the body. -/
structure Gets (i : Invocation) (a : Arguments) (settings : Settings) (c : Client) (catalog : List Vault) (k : Nat)
    (v : Vault) (body : String) : Prop where
  reaches : Reaches i a settings c
  showsAll : a.listVaults = false ∧ a.vault = none
  listed : (c.catalog 0).result = .ok catalog
  place : (arrange settings.display.newestFirst catalog)[k]? = some v
  reply : c.network.answer (1 + k) (c.summaryRequest (a.project.getD "") v.id) = .ok ⟨200, body⟩

/-- A run that ends well has read the body and shows what it says in the place of the vault. -/
theorem Gets.exists_report {i : Invocation} {a : Arguments} {settings : Settings} {c : Client} {catalog : List Vault}
    {k : Nat} {v : Vault} {body : String} (h : Gets i a settings c catalog k v body) (he : (run i).exitCode = 0) :
    ∃ s r, Summary.read body = .ok s ∧ Delivers i a (overview a.outputFormat settings.display.sizeFormat r) ∧
      r.rows.length = catalog.length ∧ r.rows[k]? = some ⟨v.name, s.total.count, s.total.size⟩ := by
  obtain ⟨text, ht, -⟩ := h.reaches.exit_zero_iff.mp he
  obtain ⟨r, hr, rfl⟩ := (report_overview h.showsAll.1 h.showsAll.2).mp ht
  obtain ⟨catalog', hcatalog, rows, hrows, rfl⟩ := summarize_ok.mp hr
  cases h.listed.symm.trans hcatalog
  have hshows : Shows c (a.project.getD "") settings.display.newestFirst catalog
      (reportOf c.base i.clock _ (arrange settings.display.newestFirst catalog) rows) := shows_reportOf hrows
  obtain ⟨reply, hreply, hrow⟩ := hshows.row k v h.place
  cases h.reply.symm.trans hreply
  obtain ⟨s, hs, hrow⟩ := hrow
  exact ⟨s, _, hs, h.reaches.delivers ht he, hshows.length, hrow⟩

/-- A number in the place of a figure, in a body that is a summary but for it. If it is digits only and fits into 64
bits, the summary is read, and the row of the vault in a JSON report has the same digits. Any other number is an error
of the vault, so of every batch that it is in. -/
theorem figures_exact {f : Figure} {body : String} {x : List Char} (h : f.StandsIn body x) :
    (∀ (c : Client) (before : Nat) (project vault : String),
      c.network.answer before (c.summaryRequest project vault) = .ok ⟨200, body⟩ →
        ((∃ s, (c.summary before project vault).result = .ok (some s)) ↔ IsWord x) ∧
        (¬IsWord x → ∃ cause,
          (c.summary before project vault).result = .error (.decode (c.summaryRequest project vault).url cause))) ∧
    (¬IsWord x → ∀ (c : Client) (before : Nat) (project : String) (vaults : List Vault) (k : Nat) (v : Vault),
      vaults[k]? = some v → c.network.answer (before + k) (c.summaryRequest project v.id) = .ok ⟨200, body⟩ →
        ∃ e, (c.rows before project vaults).result = .error e) ∧
    ∀ i a settings c catalog k v, Gets i a settings c catalog k v body →
      (¬IsWord x → (run i).exitCode ≠ 0) ∧
      (a.outputFormat = .json → (run i).exitCode = 0 →
        ∃ head lines tail figures,
          Delivers i a
            (head ++ "\n  \"rows\": [" ++ ",".intercalate lines ++ "\n  ],\n  \"totals\": " ++ tail) ∧
          lines.length = catalog.length ∧ lines[k]? = some (Row.lines v.name figures) ∧
          figures f = String.ofList x) := by
  obtain ⟨hread, hfigure⟩ := h.read_eq_ok
  have hsummary (c : Client) (before : Nat) (project vault : String)
      (hbody : c.network.answer before (c.summaryRequest project vault) = .ok ⟨200, body⟩) :
      ((∃ s, (c.summary before project vault).result = .ok (some s)) ↔ IsWord x) ∧
      (¬IsWord x → ∃ cause,
        (c.summary before project vault).result = .error (.decode (c.summaryRequest project vault).url cause)) := by
    rw [Client.summary_of_body hbody, ← hread]
    cases Summary.read body with
    | ok s => exact ⟨⟨fun _ => ⟨s, rfl⟩, fun _ => ⟨s, rfl⟩⟩, fun hnone => absurd ⟨s, rfl⟩ hnone⟩
    | error cause => exact ⟨⟨nofun, nofun⟩, fun _ => ⟨cause, rfl⟩⟩
  refine ⟨hsummary, fun hx c before project vaults k v hv hbody => ?_, fun i a settings c catalog k v hg => ⟨?_, ?_⟩⟩
  · cases hrows : (c.rows before project vaults).result with
    | error e => exact ⟨e, rfl⟩
    | ok rows =>
      obtain ⟨s, hs⟩ := (c.exists_rows_iff project).mp ⟨rows, hrows⟩ k v hv
      obtain ⟨cause, hcause⟩ := (hsummary c (before + k) project v.id hbody).2 hx
      cases hs.symm.trans hcause
  · intro hx he
    obtain ⟨s, -, hs, -⟩ := hg.exists_report he
    exact hx (hread.mp ⟨s, hs⟩)
  · intro hformat he
    obtain ⟨s, r, hs, hdelivers, hlength, hrow⟩ := hg.exists_report he
    have hne : r.rows ≠ [] := List.ne_nil_of_mem (List.mem_of_getElem? hrow)
    obtain ⟨head, tail, hjson⟩ := Report.json_rows hne
    rw [hformat, overview, hjson] at hdelivers
    refine ⟨head, _, tail, Row.figures ⟨v.name, s.total.count, s.total.size⟩, hdelivers, ?_, ?_, ?_⟩
    · rw [List.length_map, hlength]
    · rw [List.getElem?_map, hrow, Option.map_some]
    · have husage : Row.usage ⟨v.name, s.total.count, s.total.size⟩ = s.total := rfl
      rw [Row.figures, husage, Nat.toString_eq_ofList_toDigits, hfigure s hs]

/-- The largest word is read and shown as it is; the number above it is refused. -/
theorem figures_exact_largest :
    let body (n : Nat) : String := "\x7b\"total\":\x7b\"count\":" ++ toString n ++ ",\"size\":0\x7d\x7d"
    let i (n : Nat) : Invocation :=
      { onTwoVaults ["-p", "p", "-f", "json"] with
        network := { answer := fun before _ => .ok ⟨200, if before = 0 then listing .json [⟨"a", "A"⟩] else body n⟩ } }
    (∃ head lines tail figures,
      (run (i 18446744073709551615)).output =
        head ++ "\n  \"rows\": [" ++ ",".intercalate lines ++ "\n  ],\n  \"totals\": " ++ tail ∧
      lines[0]? = some (Row.lines "A" figures) ∧ figures .count = "18446744073709551615") ∧
    (run (i 18446744073709551616)).exitCode ≠ 0 := by
  intro body i
  let a : Arguments := { project := some "p", url := some "http://host", format := some .json }
  have hgets {n : Nat} {settings : Settings} {c : Client} (h : Reaches (i n) a settings c) :
      Gets (i n) a settings c [⟨"a", "A"⟩] 0 ⟨"a", "A"⟩ (body n) := by
    have hnetwork : c.network = (i n).network.decoded := Client.connect_network h.connect
    have hlisted : c.network.answer 0 c.catalogRequest = .ok ⟨200, listing .json [⟨"a", "A"⟩]⟩ := by
      have hmark : Network.dropMark (listing .json [⟨"a", "A"⟩]) = listing .json [⟨"a", "A"⟩] := by decide +kernel
      rw [hnetwork]
      exact congrArg (fun text => Except.ok (Reply.mk 200 text)) hmark
    refine ⟨h, ⟨rfl, rfl⟩, Client.catalog_ok.mpr ⟨_, hlisted, Vault.lists_listing _⟩, ?_, ?_⟩
    · cases settings.display.newestFirst <;> rfl
    · have hmark : Network.dropMark (body n) = body n := by simp [Network.dropMark, body]
      rw [hnetwork]
      exact congrArg (fun text => Except.ok (Reply.mk 200 text)) hmark
  constructor
  · have he : (run (i 18446744073709551615)).exitCode = 0 := by decide +kernel
    obtain ⟨settings, c, h⟩ := exists_reaches (a := a) rfl rfl he
    obtain ⟨-, hshown⟩ := (figures_exact (Figure.count_standsIn _)).2.2 _ a settings c _ 0 _ (hgets h)
    obtain ⟨head, lines, tail, figures, ⟨houtput, -⟩, -, hline, hcount⟩ := hshown rfl he
    refine ⟨head, lines, tail, figures, houtput, hline, hcount.trans ?_⟩
    decide +kernel
  · intro he
    obtain ⟨settings, c, h⟩ := exists_reaches (a := a) rfl rfl he
    have hword : ¬IsWord (Nat.toDigits 10 18446744073709551616) := by
      rintro ⟨-, hlt⟩
      rw [Text.ofDigits_toDigits (by decide) (by decide)] at hlt
      exact absurd hlt (by decide)
    exact ((figures_exact (Figure.count_standsIn _)).2.2 _ a settings c _ 0 _ (hgets h)).1 hword he

end Run

end VaultUsage
