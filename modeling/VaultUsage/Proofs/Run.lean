import VaultUsage.Run

/-!
# How a run ends

A run either stops before it has a client of the service, or it has one (`Reaches`), and then it ends well
exactly when its report is complete and can be delivered. What a run prints and writes is decided at that
last step only, so a run that fails leaves nothing behind.
-/

namespace VaultUsage.Run

/-! ## Failures -/

/-- If the run failed, it has printed nothing on the standard output and written no file. -/
def Atomic (o : Outcome) : Prop := o.exitCode ≠ 0 → o.output = "" ∧ o.writes = []

theorem atomic_refused (message : String) : Atomic (refused message) := fun _ => ⟨rfl, rfl⟩

theorem atomic_stopped (screen : Arguments.Stop → String) (stop : Arguments.Stop) : Atomic (stopped screen stop) := by
  intro h
  unfold stopped at h ⊢
  split
  · next ha => simp [ha] at h
  · exact ⟨rfl, rfl⟩

theorem atomic_initSettings (files : Files) : Atomic (initSettings files) := by
  intro h
  cases ht : (files Settings.fileName).isThere with
  | true => simp [initSettings, ht]
  | false =>
    cases hw : (files Settings.fileName).writeFault? with
    | some fault => simp [initSettings, ht, hw]
    | none => simp [initSettings, ht, hw] at h

theorem atomic_withSettings (i : Invocation) (a : Arguments) (settings : Settings) :
    Atomic (withSettings i a settings) := by
  intro h
  cases hr : (work i a settings).result with
  | ok out => simp [withSettings, hr] at h
  | error failure => simp [withSettings, hr]

theorem atomic_withArguments (i : Invocation) (a : Arguments) : Atomic (withArguments i a) := by
  unfold withArguments
  split
  · exact atomic_refused _
  · split
    · exact atomic_initSettings _
    · split
      · exact atomic_refused _
      · exact atomic_withSettings _ _ _

theorem atomic_run (i : Invocation) : Atomic (run i) := by
  unfold run
  split
  · exact atomic_stopped _ _
  · exact atomic_withArguments _ _

/-! ## Runs with a client -/

/-- The run is to report, its arguments and settings are good, and it has a client of the service. -/
structure Reaches (i : Invocation) (a : Arguments) (settings : Settings) (c : Client) : Prop where
  read : Arguments.read i.environment i.arguments = .ok a
  sound : a.fault? = none
  reports : a.initConfig = false
  load : Settings.load i.files a = .ok settings
  connect : Client.connect settings.service.url settings.service.token i.network.decoded = .ok c

section
variable {i : Invocation} {a : Arguments} {settings : Settings} {c : Client}

theorem Reaches.run_eq (h : Reaches i a settings c) : run i = withSettings i a settings := by
  simp [run, withArguments, h.read, h.sound, h.reports, h.load]

theorem Reaches.work_result (h : Reaches i a settings c) :
    (work i a settings).result = (report c i.clock i.mapOrder a settings.display).result.bind (deliver i.files a) := by
  simp [work, h.connect]

theorem exists_reaches (hr : Arguments.read i.environment i.arguments = .ok a) (hi : a.initConfig = false)
    (he : (run i).exitCode = 0) : ∃ settings c, Reaches i a settings c := by
  simp only [run, hr, withArguments] at he
  split at he
  · cases he
  next hs =>
  simp only [hi, Bool.false_eq_true, if_false] at he
  split at he
  · cases he
  next settings hl =>
  cases hc : Client.connect settings.service.url settings.service.token i.network.decoded with
  | error e => simp [withSettings, work, hc] at he
  | ok c => exact ⟨settings, c, hr, hs, hi, hl, hc⟩

/-- The run ends well exactly when its report is complete and can be delivered. -/
theorem Reaches.exit_zero_iff (h : Reaches i a settings c) :
    (run i).exitCode = 0 ↔ ∃ text, (report c i.clock i.mapOrder a settings.display).result = .ok text ∧
      ∃ out, deliver i.files a text = .ok out := by
  rw [h.run_eq, withSettings, h.work_result]
  cases (report c i.clock i.mapOrder a settings.display).result with
  | error e => simp [Except.bind]
  | ok text =>
    cases hd : deliver i.files a text with
    | error e => simp [Except.bind, hd]
    | ok out => exact ⟨fun _ => ⟨text, rfl, out, hd⟩, fun _ => by simp [Except.bind, hd]⟩

/-- The text stands in one place: it is the whole standard output, or the whole content of the one file that was
asked for. -/
def Delivers (i : Invocation) (a : Arguments) (text : String) : Prop :=
  match a.output with
  | none => (run i).output = text ∧ (run i).writes = []
  | some path =>
    (run i).output = (if a.quiet then "" else "✅ Report saved to: " ++ path ++ "\n") ∧
      (run i).writes = [(path, text)]

theorem exists_deliver_iff {files : Files} {text : String} :
    (∃ out, deliver files a text = .ok out) ↔ ∀ path, a.output = some path → (files path).writeFault? = none := by
  unfold deliver
  cases a.output with
  | none => simp
  | some path => cases hw : (files path).writeFault? <;> simp [hw]

theorem Reaches.delivers (h : Reaches i a settings c) {text : String}
    (ht : (report c i.clock i.mapOrder a settings.display).result = .ok text) (he : (run i).exitCode = 0) :
    Delivers i a text := by
  obtain ⟨text', ht', out, hd⟩ := h.exit_zero_iff.mp he
  obtain rfl : text = text' := Except.ok.inj (ht.symm.trans ht')
  have hrun : (run i).output = out.1 ∧ (run i).writes = out.2 := by
    rw [h.run_eq, withSettings, h.work_result, ht]
    simp [Except.bind, hd]
  unfold Delivers
  unfold deliver at hd
  cases ho : a.output with
  | none =>
    simp only [ho] at hd
    cases hd
    exact hrun
  | some path =>
    simp only [ho] at hd
    split at hd
    · cases hd
    · cases hd
      exact hrun

/-- A complete report is delivered wherever the file that was asked for can be written. -/
theorem Reaches.delivers_of (h : Reaches i a settings c) {text : String}
    (ht : (report c i.clock i.mapOrder a settings.display).result = .ok text)
    (hw : ∀ path, a.output = some path → (i.files path).writeFault? = none) :
    (run i).exitCode = 0 ∧ Delivers i a text := by
  have he : (run i).exitCode = 0 := h.exit_zero_iff.mpr ⟨text, ht, exists_deliver_iff.mpr hw⟩
  exact ⟨he, h.delivers ht he⟩

end

end VaultUsage.Run
