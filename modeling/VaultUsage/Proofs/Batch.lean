import VaultUsage.Service.Batch

/-!
# A batch under way

The parts of a batch end one after the other, in any order. Until one of them fails, the value of each part
that has ended is kept in the slot of its place and every other slot is empty (`Filled`). Once all have ended
the values stand by place, whatever the order was, and `collect` is what this comes to.
-/

namespace VaultUsage.Batch

/-! ## Orders -/

theorem mem_places {order : List Nat} {n place : Nat} : place ∈ places order n ↔ place < n := by
  unfold places
  simp only [List.mem_eraseDups, List.mem_append, List.mem_filter, decide_eq_true_eq, List.mem_range]
  exact ⟨fun h => h.elim And.right id, Or.inr⟩

theorem mem_awaited {order : List Nat} {n place : Nat} : place ∈ awaited order n ↔ place < n := by
  unfold awaited
  split
  · exact mem_places
  · exact List.mem_range

variable {ε α : Type}

/-! ## Slots -/

/-- The part in `place` ends: its value is kept in its slot, or its error ends the batch. -/
def finish (results : List (Except ε α)) (slots : List (Option α)) (place : Nat) : Except ε (List (Option α)) :=
  match results[place]? with
  | some (.ok a) => .ok (slots.set place (some a))
  | some (.error e) => .error e
  | none => .ok slots

/-- The parts end in the given order, until one fails. -/
def finishAll (results : List (Except ε α)) (slots : List (Option α)) : List Nat → Except ε (List (Option α))
  | [] => .ok slots
  | place :: rest =>
    match finish results slots place with
    | .ok slots => finishAll results slots rest
    | .error e => .error e

/-- The parts in `done` have ended well, and the slots hold their values and nothing else. -/
structure Filled (results : List (Except ε α)) (done : List Nat) (slots : List (Option α)) : Prop where
  slot (i : Nat) : slots[i]? = results[i]?.map fun r => if i ∈ done then r.toOption else none
  good (i : Nat) (hi : i ∈ done) : results[i]?.bind error? = none

theorem Filled.start (results : List (Except ε α)) : Filled results [] (List.replicate results.length none) where
  slot i := by
    rw [List.getElem?_replicate]
    by_cases h : i < results.length <;> simp [h]
  good i hi := by cases hi

theorem Filled.length_eq {results : List (Except ε α)} {done : List Nat} {slots : List (Option α)}
    (hf : Filled results done slots) : slots.length = results.length := by
  have h := hf.slot slots.length
  rw [List.getElem?_eq_none (Nat.le_refl _)] at h
  exact Nat.le_antisymm (List.getElem?_eq_none_iff.mp (by simp [hf.slot]))
    (List.getElem?_eq_none_iff.mp (Option.map_eq_none_iff.mp h.symm))

theorem finish_ok {results : List (Except ε α)} {done : List Nat} {slots slots' : List (Option α)} {place : Nat}
    (hf : Filled results done slots) (h : finish results slots place = .ok slots') :
    Filled results (place :: done) slots' := by
  unfold finish at h
  split at h
  · next a hr =>
    cases h
    refine ⟨fun i => ?_, fun i hi => ?_⟩
    · rw [List.getElem?_set]
      by_cases hi : place = i
      · subst hi
        have hlt : place < slots.length := hf.length_eq ▸ (List.getElem?_eq_some_iff.mp hr).1
        rw [if_pos rfl, if_pos hlt, hr]
        simp [Except.toOption]
      · simp [hi, hf.slot, Ne.symm hi]
    · rcases List.mem_cons.mp hi with rfl | hi
      · simp [hr, error?]
      · exact hf.good i hi
  · cases h
  · next hr =>
    cases h
    refine ⟨fun i => ?_, fun i hi => ?_⟩
    · rw [hf.slot]
      by_cases hi : i = place
      · subst hi; simp [hr]
      · simp [hi]
    · rcases List.mem_cons.mp hi with rfl | hi
      · simp [hr]
      · exact hf.good i hi

theorem finishAll_ok {results : List (Except ε α)} : ∀ {order done : List Nat} {slots slots' : List (Option α)},
    Filled results done slots → finishAll results slots order = .ok slots' →
      Filled results (order.reverse ++ done) slots'
  | [], _, _, _, hf, h => by
    cases h
    exact hf
  | place :: rest, done, slots, slots', hf, h => by
    rw [finishAll] at h
    split at h
    · next mid hm =>
      -- one step fills one more slot, and the rest of the order starts from there
      have := finishAll_ok (finish_ok hf hm) h
      simpa using this
    · cases h

theorem finish_error {results : List (Except ε α)} {slots : List (Option α)} {place : Nat} {e : ε} :
    finish results slots place = .error e ↔ results[place]?.bind error? = some e := by
  unfold finish
  cases hr : results[place]? with
  | none => simp
  | some r => cases r <;> simp [error?]

theorem finishAll_error {results : List (Except ε α)} {e : ε} : ∀ {order : List Nat} {slots : List (Option α)},
    finishAll results slots order = .error e ↔
      (order.findSome? fun place => results[place]?.bind error?) = some e
  | [], _ => by simp [finishAll]
  | place :: rest, slots => by
    rw [finishAll, List.findSome?_cons]
    cases hf : finish results slots place with
    | error f => simp [finish_error.mp hf]
    | ok mid =>
      have hn : results[place]?.bind error? = none := by
        cases hr : results[place]?.bind error? with
        | none => rfl
        | some f => rw [finish_error.mpr hr] at hf; cases hf
      simp only [hn]
      exact finishAll_error

/-! ## All parts -/

theorem mapM_id_ok (values : List α) : (values.map (Except.ok (ε := ε))).mapM id = .ok values := by
  induction values with
  | nil => rfl
  | cons a values ih =>
    rw [List.map_cons, List.mapM_cons, ih]
    rfl

theorem Filled.results_eq {results : List (Except ε α)} {done : List Nat} {slots : List (Option α)}
    (hf : Filled results done slots) (hd : ∀ i < results.length, i ∈ done) :
    results = (slots.filterMap id).map .ok := by
  have hs : slots = results.map Except.toOption := by
    apply List.ext_getElem?
    intro i
    rw [hf.slot, List.getElem?_map]
    by_cases h : i < results.length
    · simp [hd i h]
    · simp [List.getElem?_eq_none (Nat.le_of_not_lt h)]
  have hok : ∀ r ∈ results, ∃ a, r = .ok a := by
    intro r hr
    obtain ⟨i, hi, rfl⟩ := List.mem_iff_getElem.mp hr
    have := hf.good i (hd i hi)
    cases hri : results[i] with
    | ok a => exact ⟨a, rfl⟩
    | error e => simp [hi, hri, error?] at this
  clear hf hd
  subst hs
  induction results with
  | nil => rfl
  | cons r results ih =>
    obtain ⟨a, rfl⟩ := hok r (by simp)
    have := ih fun r hr => hok r (by simp [hr])
    simpa [Except.toOption] using this

theorem collect_eq_finishAll {order : List Nat} {results : List (Except ε α)}
    (ho : ∀ i < results.length, i ∈ order) :
    collect order results =
      (finishAll results (List.replicate results.length none) order).map (List.filterMap id) := by
  unfold collect
  cases hrun : finishAll results (List.replicate results.length none) order with
  | error e => rw [finishAll_error.mp hrun]; rfl
  | ok slots =>
    have hn : (order.findSome? fun place => results[place]?.bind error?) = none := by
      cases hs : order.findSome? fun place => results[place]?.bind error? with
      | none => rfl
      | some e => rw [finishAll_error.mpr hs] at hrun; cases hrun
    have hf := finishAll_ok (.start results) hrun
    rw [hn]
    have hr := hf.results_eq fun i hi => by simp [ho i hi]
    rw [hr, mapM_id_ok]
    simp [Except.map]

theorem finishAll_error_mem {order : List Nat} {results : List (Except ε α)} {slots : List (Option α)} {e : ε}
    (h : finishAll results slots order = .error e) : .error e ∈ results := by
  obtain ⟨place, -, hp⟩ := List.exists_of_findSome?_eq_some (finishAll_error.mp h)
  obtain ⟨r, hr, he⟩ := Option.bind_eq_some_iff.mp hp
  cases r with
  | ok a => cases he
  | error f =>
    cases he
    exact List.mem_of_getElem? hr

theorem collect_eq_ok {order : List Nat} {results : List (Except ε α)} {values : List α} :
    collect (awaited order results.length) results = .ok values ↔ results = values.map .ok := by
  rw [collect_eq_finishAll fun i hi => mem_awaited.mpr hi]
  cases hrun : finishAll results (List.replicate results.length none) (awaited order results.length) with
  | error e =>
    have hm := finishAll_error_mem hrun
    constructor
    · intro h
      cases h
    · intro h
      rw [h] at hm
      simp at hm
  | ok slots =>
    have hf := finishAll_ok (.start results) hrun
    have hr := hf.results_eq fun i hi => by simp [mem_awaited.mpr hi]
    constructor
    · intro h
      cases h
      exact hr
    · intro h
      have : values.map (Except.ok (ε := ε)) = (slots.filterMap id).map .ok := h.symm.trans hr
      rw [List.map_inj_right fun _ _ e => Except.ok.inj e] at this
      rw [this]
      rfl

theorem collect_eq_error {order : List Nat} {results : List (Except ε α)} {e : ε}
    (h : collect (awaited order results.length) results = .error e) : .error e ∈ results := by
  rw [collect_eq_finishAll fun i hi => mem_awaited.mpr hi] at h
  cases hrun : finishAll results (List.replicate results.length none) (awaited order results.length) with
  | error f =>
    rw [hrun] at h
    cases h
    exact finishAll_error_mem hrun
  | ok slots =>
    rw [hrun] at h
    cases h

end VaultUsage.Batch
