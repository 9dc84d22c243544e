import VaultUsage.Proofs.Batch
import VaultUsage.Proofs.Results
import VaultUsage.Service.Client

/-!
# The rows of a catalog

Asking for many vaults at a time gives what asking for them one after the other gives. `fetched` is what comes
of each vault on its own, by place; the rows are made of it when all of it is good, and the order in which the
answers arrive decides no more than which of several errors is reported.
-/

namespace VaultUsage.Client

/-- The client on a network that answers the same, but ends requests in another order. -/
def withOrder (c : Client) (order : List Request → List Nat) : Client :=
  { c with network := { c.network with order := order } }

/-- The rows of the vaults, asked for one after the other; the first error ends it. -/
def rowsInTurn (c : Client) (before : Nat) (project : String) : List Vault → Except ServiceError (List Row)
  | [] => .ok []
  | v :: rest =>
    match (c.summary before project v.id).result with
    | .error e => .error e
    | .ok summary => (c.rowsInTurn (before + 1) project rest).map (Row.ofSummary v summary :: ·)

/-- What comes of each vault alone, by place. -/
def fetched (c : Client) (before : Nat) (project : String) : List Vault → List (Except ServiceError (Option Summary))
  | [] => []
  | v :: rest => (c.summary before project v.id).result :: c.fetched (before + 1) project rest

section
variable (c : Client) (project : String)

/-! ## One vault -/

/-- A vault has a summary when it is answered with status 200 and one that can be read, and has none at any
other status. -/
theorem summary_ok {before : Nat} {vault : String} {s : Option Summary} :
    (c.summary before project vault).result = .ok s ↔
      ∃ reply, c.network.answer before (c.summaryRequest project vault) = .ok reply ∧
        if reply.status = 200 then ∃ summary, Summary.read reply.body = .ok summary ∧ some summary = s
        else none = s := by
  simp only [summary, awaitSummary, receive]
  cases c.network.answer before (c.summaryRequest project vault) with
  | error detail => simp
  | ok reply =>
    simp only [summaryOf, Except.ok.injEq, exists_eq_left']
    split
    · cases Summary.read reply.body <;> simp
    · simp

/-! ## By place -/

theorem fetched_eq_map (vaults : List Vault) (before : Nat) :
    c.fetched before project vaults =
      (vaults.zipIdx.map fun (v, i) => c.awaitSummary (before + i) project v.id).map Prod.fst := by
  rw [List.map_map]
  suffices ∀ k, c.fetched (before + k) project vaults = (vaults.zipIdx k).map
      (Prod.fst ∘ fun (v, i) => c.awaitSummary (before + i) project v.id) by simpa using this 0
  induction vaults with
  | nil => intro k; rfl
  | cons v rest ih =>
    intro k
    rw [fetched, List.zipIdx_cons, List.map_cons, Nat.add_assoc, ih (k + 1)]
    rfl

@[simp] theorem length_fetched (before : Nat) (vaults : List Vault) :
    (c.fetched before project vaults).length = vaults.length := by
  rw [fetched_eq_map]; simp

theorem getElem?_fetched (before : Nat) (vaults : List Vault) (i : Nat) :
    (c.fetched before project vaults)[i]? =
      vaults[i]?.map fun v => (c.summary (before + i) project v.id).result := by
  rw [fetched_eq_map, List.getElem?_map, List.getElem?_map, List.getElem?_zipIdx]
  cases vaults[i]? with
  | none => rfl
  | some v => simp; rfl

theorem mem_fetched {before : Nat} {vaults : List Vault} {r : Except ServiceError (Option Summary)} :
    r ∈ c.fetched before project vaults ↔
      ∃ i v, vaults[i]? = some v ∧ (c.summary (before + i) project v.id).result = r := by
  simp [List.mem_iff_getElem?, getElem?_fetched]

/-! ## The two ways of asking -/

theorem rows_result (before : Nat) (vaults : List Vault) :
    (c.rows before project vaults).result =
      (Batch.collect (Batch.awaited (c.network.order (vaults.map fun v => c.summaryRequest project v.id))
        (c.fetched before project vaults).length) (c.fetched before project vaults)).map (rowsOf vaults) := by
  cases vaults with
  | nil =>
    rw [Batch.collect_eq_ok.mpr (show c.fetched before project [] = [].map .ok from rfl)]
    rfl
  | cons v rest =>
    rw [length_fetched, fetched_eq_map]
    unfold rows
    simp only [List.isEmpty_cons, Bool.false_eq_true, if_false]
    split
    · next e he => rw [he]; rfl
    · next summaries hs => rw [hs]; rfl

theorem rows_requests (before : Nat) (vaults : List Vault) :
    (c.rows before project vaults).requests =
      c.network.sent before (vaults.map fun v => c.summaryRequest project v.id) := by
  cases vaults with
  | nil => rfl
  | cons v rest =>
    unfold rows
    simp only [List.isEmpty_cons, Bool.false_eq_true, if_false]
    split
    · rfl
    · rfl

theorem rows_ok {before : Nat} {vaults : List Vault} {rows : List Row} :
    (c.rows before project vaults).result = .ok rows ↔
      ∃ summaries, c.fetched before project vaults = summaries.map .ok ∧ rowsOf vaults summaries = rows := by
  rw [rows_result, map_eq_ok]
  exact exists_congr fun summaries => and_congr_left fun _ => Batch.collect_eq_ok

theorem rows_error {before : Nat} {vaults : List Vault} {e : ServiceError}
    (h : (c.rows before project vaults).result = .error e) : .error e ∈ c.fetched before project vaults := by
  rw [rows_result] at h
  cases hc : Batch.collect (Batch.awaited (c.network.order (vaults.map fun v => c.summaryRequest project v.id))
      (c.fetched before project vaults).length) (c.fetched before project vaults) with
  | error f =>
    rw [hc] at h
    cases h
    exact Batch.collect_eq_error hc
  | ok summaries => rw [hc] at h; cases h

theorem rowsInTurn_ok {vaults : List Vault} : ∀ {before : Nat} {rows : List Row},
    c.rowsInTurn before project vaults = .ok rows ↔
      ∃ summaries, c.fetched before project vaults = summaries.map .ok ∧ rowsOf vaults summaries = rows := by
  induction vaults with
  | nil =>
    intro before rows
    simp [rowsInTurn, fetched, rowsOf]
  | cons v rest ih =>
    intro before rows
    rw [rowsInTurn, fetched]
    cases (c.summary before project v.id).result with
    | error e =>
      constructor
      · intro h
        cases h
      · rintro ⟨summaries, hf, -⟩
        cases summaries <;> cases hf
    | ok summary =>
      constructor
      · intro h
        obtain ⟨rows', hr, rfl⟩ := map_eq_ok.mp h
        obtain ⟨summaries, hf, rfl⟩ := ih.mp hr
        exact ⟨summary :: summaries, by rw [hf]; rfl, rfl⟩
      · rintro ⟨summaries, hf, rfl⟩
        obtain ⟨s, summaries', rfl, hs, hf'⟩ := List.map_eq_cons_iff.mp hf.symm
        cases hs
        exact map_eq_ok.mpr ⟨_, ih.mpr ⟨summaries', hf'.symm, rfl⟩, rfl⟩

theorem rows_toOption (before : Nat) (vaults : List Vault) :
    (c.rows before project vaults).result.toOption = (c.rowsInTurn before project vaults).toOption := by
  have h rows : (c.rows before project vaults).result = .ok rows ↔ c.rowsInTurn before project vaults = .ok rows :=
    (rows_ok c project).trans (rowsInTurn_ok c project).symm
  cases hr : c.rowsInTurn before project vaults with
  | ok rows => rw [(h rows).mpr hr]
  | error e =>
    cases hc : (c.rows before project vaults).result with
    | ok rows => rw [(h rows).mp hc] at hr; cases hr
    | error f => rfl

theorem rowsInTurn_withOrder (order : List Request → List Nat) (vaults : List Vault) : ∀ before,
    (c.withOrder order).rowsInTurn before project vaults = c.rowsInTurn before project vaults := by
  induction vaults with
  | nil => intro before; rfl
  | cons v rest ih =>
    intro before
    rw [rowsInTurn, rowsInTurn, ih]
    rfl

/-! ## Rows and vaults -/

theorem exists_rows_iff {before : Nat} {vaults : List Vault} :
    (∃ rows, (c.rows before project vaults).result = .ok rows) ↔
      ∀ (i : Nat) (v : Vault), vaults[i]? = some v → ∃ s, (c.summary (before + i) project v.id).result = .ok s := by
  constructor
  · rintro ⟨rows, h⟩ i v hv
    obtain ⟨summaries, hf, -⟩ := (rows_ok c project).mp h
    have hm : (c.summary (before + i) project v.id).result ∈ c.fetched before project vaults :=
      (mem_fetched c project).mpr ⟨i, v, hv, rfl⟩
    rw [hf] at hm
    obtain ⟨s, -, hs⟩ := List.mem_map.mp hm
    exact ⟨s, hs.symm⟩
  · intro h
    cases hr : (c.rows before project vaults).result with
    | ok rows => exact ⟨rows, rfl⟩
    | error e =>
      obtain ⟨i, v, hv, he⟩ := (mem_fetched c project).mp (rows_error c project hr)
      obtain ⟨s, hs⟩ := h i v hv
      rw [hs] at he
      cases he

theorem length_rows {before : Nat} {vaults : List Vault} {rows : List Row}
    (h : (c.rows before project vaults).result = .ok rows) : rows.length = vaults.length := by
  obtain ⟨summaries, hf, rfl⟩ := (rows_ok c project).mp h
  have := congrArg List.length hf
  rw [length_fetched, List.length_map] at this
  simp [rowsOf, this]

theorem getElem?_rows {before : Nat} {vaults : List Vault} {rows : List Row}
    (h : (c.rows before project vaults).result = .ok rows) {i : Nat} {v : Vault} (hv : vaults[i]? = some v) :
    ∃ s, (c.summary (before + i) project v.id).result = .ok s ∧ rows[i]? = some (Row.ofSummary v s) := by
  obtain ⟨summaries, hf, rfl⟩ := (rows_ok c project).mp h
  have := getElem?_fetched c project before vaults i
  rw [hf, List.getElem?_map, hv, Option.map_some] at this
  obtain ⟨s, hs, hr⟩ := Option.map_eq_some_iff.mp this
  refine ⟨s, hr.symm, ?_⟩
  rw [rowsOf, List.getElem?_zipWith, hv, hs]

end

/-- Asking for all vaults at a time refines asking for one after the other: it succeeds exactly when each vault
alone does, with one row per vault in the place of the vault; an error is that of a vault that fails; and of
the order in which the answers arrive nothing is left in the rows. -/
theorem rows_refine_inTurn (c : Client) (before : Nat) (project : String) (vaults : List Vault) :
    (c.rows before project vaults).result.toOption = (c.rowsInTurn before project vaults).toOption ∧
    ((∃ rows, (c.rows before project vaults).result = .ok rows) ↔
      ∀ (i : Nat) (v : Vault), vaults[i]? = some v →
        ∃ s, (c.summary (before + i) project v.id).result = .ok s) ∧
    (∀ rows, (c.rows before project vaults).result = .ok rows →
      rows.length = vaults.length ∧
      ∀ (i : Nat) (v : Vault), vaults[i]? = some v →
        ∃ s, (c.summary (before + i) project v.id).result = .ok s ∧ rows[i]? = some (Row.ofSummary v s)) ∧
    (∀ e, (c.rows before project vaults).result = .error e →
      ∃ (i : Nat) (v : Vault), vaults[i]? = some v ∧ (c.summary (before + i) project v.id).result = .error e) ∧
    ∀ order : List Request → List Nat,
      ((c.withOrder order).rows before project vaults).result.toOption =
        (c.rows before project vaults).result.toOption := by
  refine ⟨rows_toOption c project before vaults, exists_rows_iff c project, fun rows h => ?_, fun e h => ?_,
    fun order => ?_⟩
  · exact ⟨length_rows c project h, fun i v hv => getElem?_rows c project h hv⟩
  · exact (mem_fetched c project).mp (rows_error c project h)
  · rw [rows_toOption, rows_toOption, rowsInTurn_withOrder]

end VaultUsage.Client
