import VaultUsage.Proofs.CommandLine
import VaultUsage.Proofs.Run

/-!
# Delivery of reports

A run is all or nothing. One that fails leaves nothing on the standard output and writes no file; one that
reports and ends well has its whole report in exactly one place, and that report does not depend on the place.
-/

namespace VaultUsage.Run

theorem run_initSettings_there {i : Invocation} {a : Arguments}
    (hr : Arguments.read i.environment i.arguments = .ok a) (hi : a.initConfig = true)
    (ht : (i.files Settings.fileName).isThere = true) : (run i).exitCode = 1 := by
  have hs : a.fault? = none := by simp [Arguments.fault?, hi]
  simp [run, hr, withArguments, hs, hi, initSettings, ht]

theorem exists_read_without_output {env : Arguments.Environment} {args : List String} {a : Arguments}
    (hr : Arguments.read env args = .ok a) : ∃ plain, Arguments.read env plain = .ok { a with output := none } := by
  have hc := Arguments.read_consistent hr
  exact Arguments.exists_read_of_read hr ⟨⟨hc.config, nofun⟩, hc.vault⟩ rfl rfl

theorem Reaches.without_output {i : Invocation} {a : Arguments} {settings : Settings} {c : Client}
    (h : Reaches i a settings c) {plain : List String}
    (hr : Arguments.read i.environment plain = .ok { a with output := none }) :
    Reaches { i with arguments := plain } { a with output := none } settings c :=
  ⟨hr, h.sound, h.reports, h.load, h.connect⟩

/-- A failed run leaves nothing, a settings file that is there stays as it is, and a run that reports and ends
well has its report on the standard output and nowhere else, or in the one file that was asked for, as the same
run without that file prints it. -/
theorem run_all_or_nothing (i : Invocation) :
    ((run i).exitCode ≠ 0 → (run i).output = "" ∧ (run i).writes = []) ∧
    ∀ a, Arguments.read i.environment i.arguments = .ok a →
      (a.initConfig = true → (i.files Settings.fileName).isThere = true →
        (run i).exitCode ≠ 0 ∧ (run i).writes = []) ∧
      (a.initConfig = false → (run i).exitCode = 0 →
        ∃ settings c text, Reaches i a settings c ∧
          (report c i.clock i.mapOrder a settings.display).result = .ok text ∧
          Delivers i a text ∧
          (∃ plain, Arguments.read i.environment plain = .ok { a with output := none }) ∧
          ∀ plain, Arguments.read i.environment plain = .ok { a with output := none } →
            (run { i with arguments := plain }).exitCode = 0 ∧
            (run { i with arguments := plain }).output = text ∧
            (run { i with arguments := plain }).writes = []) := by
  refine ⟨atomic_run i, fun a hr => ⟨fun hi ht => ?_, fun hi he => ?_⟩⟩
  · have hne : (run i).exitCode ≠ 0 := by rw [run_initSettings_there hr hi ht]; decide
    exact ⟨hne, (atomic_run i hne).2⟩
  · obtain ⟨settings, c, h⟩ := exists_reaches hr hi he
    obtain ⟨text, ht, -⟩ := h.exit_zero_iff.mp he
    refine ⟨settings, c, text, h, ht, h.delivers ht he, exists_read_without_output hr, fun plain hp => ?_⟩
    exact (h.without_output hp).delivers_of ht nofun

end VaultUsage.Run
