import VaultUsage.Proofs.Catalog
import VaultUsage.Proofs.Overview

/-!
# Nothing is missing without a record

A request that is answered with another status than 200 leaves an empty catalog or a row of zeros, and that looks like
a service that holds nothing. The errors in the log tell the two apart: in a run that ends well there is one for each
such request and no other, in whatever order the answers come and however little is logged.
-/

namespace VaultUsage

def errors (log : List LogRecord) : List LogRecord := log.filter (·.level == .error)

@[simp] theorem errors_nil : errors [] = [] := rfl

@[simp] theorem errors_cons (r : LogRecord) (log : List LogRecord) :
    errors (r :: log) = if r.level = .error then r :: errors log else errors log := by
  simp [errors, List.filter_cons]

@[simp] theorem errors_append (log log' : List LogRecord) : errors (log ++ log') = errors log ++ errors log' :=
  List.filter_append ..

theorem errors_flatMap {α : Type} (f : α → List LogRecord) (l : List α) :
    errors (l.flatMap f) = l.flatMap fun a => errors (f a) := by
  induction l with
  | nil => rfl
  | cons a l ih => simp [ih]

theorem LogLevel.admits_error (most : LogLevel) : most.admits .error = true := by
  cases most <;> rfl

/-- Whatever level is asked for, no error is left out. -/
theorem errors_filter_admits (most : LogLevel) (log : List LogRecord) :
    errors (log.filter fun r => most.admits r.level) = errors log := by
  unfold errors
  rw [List.filter_filter]
  apply List.filter_congr
  intro r _
  by_cases h : r.level = .error
  · simp [h, most.admits_error]
  · simp [h]

/-! ## The order of a batch -/

namespace Batch

theorem nodup_eraseDups : ∀ l : List Nat, l.eraseDups.Nodup
  | [] => by simp
  | place :: rest => by
    rw [List.eraseDups_cons, List.nodup_cons]
    refine ⟨?_, nodup_eraseDups (rest.filter fun other => !other == place)⟩
    simp
termination_by l => l.length
decreasing_by exact Nat.lt_succ_of_le (List.length_filter_le _ _)

theorem awaited_perm (order : List Nat) (n : Nat) : (awaited order n).Perm (List.range n) := by
  have hnodup : (awaited order n).Nodup := by
    unfold awaited places
    split
    · exact nodup_eraseDups _
    · exact List.nodup_range
  apply (List.perm_ext_iff_of_nodup hnodup List.nodup_range).mpr
  intro place
  rw [mem_awaited, List.mem_range]

theorem filterMap_range {α : Type} (parts : List α) :
    ((List.range parts.length).filterMap fun place => parts[place]?) = parts := by
  induction parts with
  | nil => rfl
  | cons part parts ih => simp [List.range_succ_eq_map, List.filterMap_map, ih]

end Batch

/-! ## Requests that get nothing -/

namespace Client

def listingErrors (reply : Reply) : List LogRecord :=
  if reply.status = 200 then []
  else [⟨.error, "Vault listing failed with status " ++ toString reply.status ++ ": " ++ reply.body⟩]

def summaryErrors (project vault : String) (reply : Reply) : List LogRecord :=
  if reply.status = 200 then []
  else [⟨.error, "Summary for project " ++ project ++ " in vault " ++ vault ++ " failed with status " ++
    toString reply.status ++ ": " ++ reply.body⟩]

theorem errors_vaultsOf (url : Url) (content : Json) : errors (vaultsOf url content).2 = [] := by
  unfold vaultsOf
  split
  · split <;> simp
  · simp

theorem errors_catalogOf (url : Url) (reply : Reply) : errors (catalogOf url reply).2 = listingErrors reply := by
  unfold catalogOf listingErrors
  by_cases h : reply.status = 200
  · simp only [h, if_true]
    split
    · exact errors_vaultsOf _ _
    · rfl
  · simp [h]

theorem errors_summaryOf (project vault : String) (url : Url) (reply : Reply) :
    errors (summaryOf project vault url reply).2 = summaryErrors project vault reply := by
  unfold summaryOf summaryErrors
  by_cases h : reply.status = 200
  · simp only [h, if_true]
    split <;> rfl
  · simp [h]

theorem errors_receive {α : Type} (r : Request) (reply : Reply) (use : Reply → Logged α) :
    errors (receive r (.ok reply) use).2 = errors (use reply).2 := by
  simp [receive, replyRecord]

section
variable (c : Client) (project : String)

theorem errors_connectLog : errors c.connectLog = [] := by
  unfold connectLog
  split <;> simp

theorem errors_catalog {before : Nat} {reply : Reply} (h : c.network.answer before c.catalogRequest = .ok reply) :
    errors (c.catalog before).log = listingErrors reply := by
  simp only [Client.catalog, h, errors_cons]
  exact (errors_receive _ _ _).trans (errors_catalogOf _ _)

/-- The error for a vault that is asked after `before` other requests. -/
def failure (before : Nat) (vault : String) : List LogRecord :=
  match c.network.answer before (c.summaryRequest project vault) with
  | .ok reply => summaryErrors project vault reply
  | .error _ => []

theorem errors_awaitSummary (before : Nat) (vault : String) :
    errors (c.awaitSummary before project vault).2 = c.failure project before vault := by
  unfold awaitSummary failure
  dsimp only
  cases c.network.answer before (c.summaryRequest project vault) with
  | error detail => rfl
  | ok reply => exact (errors_receive _ _ _).trans (errors_summaryOf _ _ _ _)

/-! ## A batch of vaults -/

theorem logUntilError_ok {α : Type} {parts : List (Logged α)} (h : ∀ p ∈ parts, ∃ a, p.1 = .ok a) :
    logUntilError parts = parts.flatMap Prod.snd := by
  induction parts with
  | nil => rfl
  | cons p parts ih =>
    obtain ⟨a, ha⟩ := h p List.mem_cons_self
    obtain ⟨result, log⟩ := p
    obtain rfl : result = .ok a := ha
    rw [logUntilError, ih fun q hq => h q (List.mem_cons_of_mem _ hq), List.flatMap_cons]

theorem errors_map {α : Type} {f : α → LogRecord} (h : ∀ a, (f a).level ≠ .error) (l : List α) :
    errors (l.map f) = [] := by
  induction l with
  | nil => rfl
  | cons a l ih => simp [h a, ih]

theorem errors_rows {before : Nat} {vaults : List Vault} {rows : List Row}
    (h : (c.rows before project vaults).result = .ok rows) :
    (errors (c.rows before project vaults).log).Perm
      (vaults.zipIdx.flatMap fun (v, k) => c.failure project (before + k) v.id) := by
  by_cases hv : vaults = []
  · subst hv
    exact .refl _
  let parts := vaults.zipIdx.map fun (v, k) => c.awaitSummary (before + k) project v.id
  let order := Batch.awaited (c.network.order (vaults.map fun v => c.summaryRequest project v.id)) vaults.length
  have hok : ∀ p ∈ parts, ∃ s, p.1 = .ok s := by
    intro p hp
    obtain ⟨summaries, hf, -⟩ := (rows_ok c project).mp h
    rw [fetched_eq_map] at hf
    have hm : p.1 ∈ summaries.map .ok := hf ▸ List.mem_map_of_mem hp
    obtain ⟨s, -, hs⟩ := List.mem_map.mp hm
    exact ⟨s, hs.symm⟩
  have hends : (order.filterMap fun place => parts[place]?).Perm parts := by
    have hlength : parts.length = vaults.length := by simp [parts]
    have := (Batch.awaited_perm (c.network.order (vaults.map fun v => c.summaryRequest project v.id))
      vaults.length).filterMap fun place => parts[place]?
    rwa [← hlength, Batch.filterMap_range, hlength] at this
  -- all parts end well, so the log has that of each of them, and nothing else in it is an error
  have hlog : errors (c.rows before project vaults).log =
      errors ((order.filterMap fun place => parts[place]?).flatMap Prod.snd) := by
    rw [← logUntilError_ok fun p hp => hok p (hends.mem_iff.mp hp)]
    have hchecks := errors_map (f := fun v : Vault => c.checkingRecord project v.id) (by simp [checkingRecord]) vaults
    unfold Client.rows
    simp only [List.isEmpty_iff, hv, if_false]
    split <;> simp [hchecks, parts, order]
  rw [hlog, errors_flatMap]
  refine (hends.flatMap_right _).trans ?_
  simp only [parts, List.flatMap_map, errors_awaitSummary]
  exact .refl _

end

end Client

/-! ## Runs -/

namespace Run

variable {i : Invocation} {a : Arguments} {settings : Settings} {c : Client}

theorem Reaches.errors_eq (h : Reaches i a settings c) (he : (run i).exitCode = 0) :
    errors (run i).log = errors (report c i.clock i.mapOrder a settings.display).log := by
  have hlog : errors (work i a settings).log = errors (report c i.clock i.mapOrder a settings.display).log := by
    simp [work, h.connect, Client.errors_connectLog]
  rw [h.run_eq, withSettings] at he ⊢
  split at he
  · rw [errors_filter_admits, ← hlog]
    simp
  · cases he

theorem errors_summarize {clock : Clock} {newestFirst : Bool} {project : String} {r : Report} {reply : Reply}
    {catalog : List Vault} (hreply : c.network.answer 0 c.catalogRequest = .ok reply)
    (hc : (c.catalog 0).result = .ok catalog) (h : (summarize c clock newestFirst project).result = .ok r) :
    (errors (summarize c clock newestFirst project).log).Perm (Client.listingErrors reply ++
      (arrange newestFirst catalog).zipIdx.flatMap fun (v, k) => c.failure project (1 + k) v.id) := by
  obtain ⟨catalog', hc', rows, hrows, -⟩ := summarize_ok.mp h
  obtain rfl : catalog = catalog' := Except.ok.inj (hc.symm.trans hc')
  have hfirst : ((c.catalog 0).mapError Failure.service).result = .ok catalog := Exchange.mapError_ok.mpr hc
  have hlog : (summarize c clock newestFirst project).log =
      (c.catalog 0).log ++ (c.rows 1 project (arrange newestFirst catalog)).log := by
    simp only [summarize, Exchange.andThen, hfirst]
    rfl
  rw [hlog, errors_append, c.errors_catalog hreply]
  exact (c.errors_rows project hrows).append_left _

/-- A row is zero and has its error, or it has none and is what the vault reports. -/
theorem Shows.failure_or_reported {project : String} {newestFirst : Bool} {catalog : List Vault} {r : Report}
    (h : Shows c project newestFirst catalog r) {k : Nat} {v : Vault}
    (hv : (arrange newestFirst catalog)[k]? = some v) :
    (∃ e, c.failure project (1 + k) v.id = [e] ∧ r.rows[k]? = some ⟨v.name, 0, 0⟩) ∨
      c.failure project (1 + k) v.id = [] ∧
        ∃ reply s, c.network.answer (1 + k) (c.summaryRequest project v.id) = .ok reply ∧
          Summary.read reply.body = .ok s ∧ r.rows[k]? = some ⟨v.name, s.total.count, s.total.size⟩ := by
  obtain ⟨reply, hreply, hrow⟩ := h.row k v hv
  unfold Client.failure Client.summaryErrors
  rw [hreply]
  by_cases hs : reply.status = 200
  · simp only [hs, if_true] at hrow ⊢
    obtain ⟨s, hread, hrow⟩ := hrow
    exact .inr ⟨trivial, reply, s, rfl, hread, hrow⟩
  · simp only [hs, if_false] at hrow ⊢
    exact .inl ⟨_, rfl, hrow⟩

/-- In a summary that ends well the errors in the log are those of the requests that were not answered with status
200, one for each: the catalog if it is not listed, and each vault, in its place, that does not tell what it holds. The
row in that place is zero, and any other row is what the vault reports. -/
theorem run_errors (hr : Arguments.read i.environment i.arguments = .ok a)
    (hm : a.initConfig = false ∧ a.listVaults = false ∧ a.vault = none) (he : (run i).exitCode = 0) :
    ∃ settings c reply catalog r,
      Reaches i a settings c ∧
      c.network.answer 0 c.catalogRequest = .ok reply ∧ reply.Lists catalog ∧
      Delivers i a (overview a.outputFormat settings.display.sizeFormat r) ∧
      Shows c (a.project.getD "") settings.display.newestFirst catalog r ∧
      (errors (run i).log).Perm (Client.listingErrors reply ++
        (arrange settings.display.newestFirst catalog).zipIdx.flatMap fun (v, k) =>
          c.failure (a.project.getD "") (1 + k) v.id) ∧
      ∀ k v, (arrange settings.display.newestFirst catalog)[k]? = some v →
        (∃ e, c.failure (a.project.getD "") (1 + k) v.id = [e] ∧ r.rows[k]? = some ⟨v.name, 0, 0⟩) ∨
        c.failure (a.project.getD "") (1 + k) v.id = [] ∧
          ∃ reply s, c.network.answer (1 + k) (c.summaryRequest (a.project.getD "") v.id) = .ok reply ∧
            Summary.read reply.body = .ok s ∧ r.rows[k]? = some ⟨v.name, s.total.count, s.total.size⟩ := by
  obtain ⟨hi, hl, hv⟩ := hm
  obtain ⟨settings, c, h⟩ := exists_reaches hr hi he
  obtain ⟨text, ht, -⟩ := h.exit_zero_iff.mp he
  obtain ⟨r, hs, rfl⟩ := (report_overview hl hv).mp ht
  obtain ⟨catalog, hc, rows, hrows, rfl⟩ := summarize_ok.mp hs
  obtain ⟨reply, hreply, hlists⟩ := Client.catalog_ok.mp hc
  have hshows := @shows_reportOf c i.clock _ _ _ _ hrows
  refine ⟨settings, c, reply, catalog, _, h, hreply, hlists, h.delivers ht he, hshows, ?_,
    fun k v hk => hshows.failure_or_reported hk⟩
  have hreport : (report c i.clock i.mapOrder a settings.display).log =
      (summarize c i.clock settings.display.newestFirst (a.project.getD "")).log := by
    simp [report, hl, hv, Exchange.map]
  rw [h.errors_eq he, hreport]
  exact errors_summarize hreply hc hs

/-- Asked quietly for two vaults, one of which does not know the project. -/
theorem run_errors_onTwoVaults :
    let i := onTwoVaults ["-p", "p", "-q"]
    (run i).log = [⟨.error, "Summary for project p in vault b failed with status 404: "⟩] ∧
      ∃ (settings : Settings) (c : Client) (reply : Reply) (catalog : List Vault) (r : Report),
        Reaches i { project := some "p", url := some "http://host", quiet := true } settings c ∧
        Shows c "p" settings.display.newestFirst catalog r ∧
        (errors (run i).log).Perm (Client.listingErrors reply ++
          (arrange settings.display.newestFirst catalog).zipIdx.flatMap fun (v, k) => c.failure "p" (1 + k) v.id) := by
  intro i
  obtain ⟨settings, c, reply, catalog, r, h, -, -, -, hshows, hperm, -⟩ :=
    run_errors (i := i) (a := { project := some "p", url := some "http://host", quiet := true }) rfl
      ⟨rfl, rfl, rfl⟩ (by decide +kernel)
  exact ⟨by decide +kernel, settings, c, reply, catalog, r, h, hshows, hperm⟩

end Run

end VaultUsage
