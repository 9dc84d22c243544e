import VaultUsage.Proofs.Given
import VaultUsage.Proofs.Overview

/-!
# Which settings a run uses

A value on the command line stands before one in the environment, that before one in the settings file, and that
before the default. A switch on the command line or its setting in the file is enough (`Effective`). Limits are checked
once all this is put together, so a bad value in the file does not matter if the command line replaces it.
-/

namespace VaultUsage

namespace Settings

/-- What the options alone, the environment and the file come to. -/
structure Effective (flags : Arguments) (env : Arguments.Environment) (g : Given) (s : Settings) : Prop where
  url : s.service.url = (flags.url <|> env.url <|> g.url).getD "http://localhost:9000/"
  token : s.service.token = (flags.token <|> env.token <|> g.token)
  timeout : s.service.timeout = (flags.timeout <|> g.timeout).getD 30
  useProxy : s.service.useProxy = g.useProxy.getD true
  siUnits : s.display.siUnits = true ↔ flags.si = true ∨ g.siUnits = some true
  decimals : s.display.decimals = (flags.decimals <|> g.decimals).getD 1
  newestFirst : s.display.newestFirst = false ↔ flags.catalogOrder = true ∨ g.newestFirst = some false
  verbose : s.verbose = true ↔ flags.verbose = true ∨ g.verbose = some true

structure InRange (s : Settings) : Prop where
  timeout : 1 ≤ s.service.timeout.toNat
  decimals : s.display.decimals.toNat ≤ 6

theorem fault?_eq_none {s : Settings} : s.fault? = none ↔ s.InRange := by
  have ht : s.service.timeout = 0 ↔ ¬1 ≤ s.service.timeout.toNat := by
    rw [← UInt64.toNat_inj, UInt64.toNat_zero]
    omega
  have hd : SizeFormat.maxDecimals < s.display.decimals.toNat ↔ ¬s.display.decimals.toNat ≤ 6 := by
    rw [SizeFormat.maxDecimals, Nat.not_le]
  unfold fault?
  simp only [ht, hd]
  constructor
  · intro h
    split at h
    · cases h
    next ht =>
    split at h
    · cases h
    next hd => exact ⟨not_not.mp ht, not_not.mp hd⟩
  · rintro ⟨ht, hd⟩
    rw [if_neg (not_not.mpr ht), if_neg (not_not.mpr hd)]

theorem load_of_stored {files : Files} {a : Arguments} {s : Settings} (h : stored files a.config = .ok s) :
    load files a =
      match (s.withArguments a).fault? with
      | some fault => .error (.invalid fault)
      | none => .ok (s.withArguments a) := by
  rw [load, h]
  rfl

theorem getD_or_eq_true (x : Option Bool) (b : Bool) : (x.getD false || b) = true ↔ b = true ∨ x = some true := by
  rcases x with - | x
  · simp
  · cases x <;> simp

theorem getD_and_eq_false (x : Option Bool) (b : Bool) :
    (x.getD true && !b) = false ↔ b = true ∨ x = some false := by
  rcases x with - | x
  · simp
  · cases x <;> simp

theorem Given.effective (g : Given) (flags : Arguments) (env : Arguments.Environment) :
    Effective flags env g
      (g.settings.withArguments { flags with url := flags.url <|> env.url, token := flags.token <|> env.token }) where
  url := by
    simp only [withArguments, ServiceSettings.withArguments, Given.settings, Option.orElse_eq_orElse,
      Option.orElse_eq_or, Option.getD_or]
  token := by
    simp only [withArguments, ServiceSettings.withArguments, Given.settings, Option.orElse_eq_orElse,
      Option.orElse_eq_or, Option.or_assoc]
  timeout := by
    simp only [withArguments, ServiceSettings.withArguments, Given.settings, Option.orElse_eq_orElse,
      Option.orElse_eq_or, Option.getD_or]
  useProxy := rfl
  siUnits := getD_or_eq_true g.siUnits flags.si
  decimals := by
    simp only [withArguments, DisplaySettings.withArguments, Given.settings, Option.orElse_eq_orElse,
      Option.orElse_eq_or, Option.getD_or]
  newestFirst := getD_and_eq_false g.newestFirst flags.catalogOrder
  verbose := getD_or_eq_true g.verbose flags.verbose

end Settings

namespace Run

section
variable {i : Invocation} {a : Arguments} (hr : Arguments.read i.environment i.arguments = .ok a)
  (hf : a.fault? = none) (hi : a.initConfig = false)
include hr hf hi

theorem run_of_load {s : Settings} (h : Settings.load i.files a = .ok s) : run i = withSettings i a s := by
  simp only [run, hr, withArguments, hf, hi, h, Bool.false_eq_true, if_false]

theorem run_of_refused {e : Settings.LoadError} (h : Settings.load i.files a = .error e) :
    run i = refused e.message := by
  simp only [run, hr, withArguments, hf, hi, h, Bool.false_eq_true, if_false]

end

/-- A run whose arguments are good, with a file that gives some settings or none, uses what the command line, the
environment, the file and the defaults come to, in this order. It is refused just if that is out of range. -/
theorem run_effective {i : Invocation} {a : Arguments} {g : Settings.Given}
    (hr : Arguments.read i.environment i.arguments = .ok a) (hf : a.fault? = none) (hi : a.initConfig = false)
    (hg : g.StoredIn i.files a.config) :
    ∃ flags s, Arguments.read {} i.arguments = .ok flags ∧ Settings.Effective flags i.environment g s ∧
      (s.InRange → Settings.load i.files a = .ok s ∧ run i = withSettings i a s) ∧
      (¬s.InRange → ∃ fault, Settings.load i.files a = .error (.invalid fault) ∧ run i = refused fault.message) := by
  obtain ⟨flags, hflags, rfl⟩ := map_eq_ok.mp ((Arguments.read_eq_map _ _).symm.trans hr)
  have hload := Settings.load_of_stored (Settings.stored_eq hg)
  refine ⟨flags, _, hflags, g.effective flags i.environment, fun hs => ?_, fun hs => ?_⟩
  · rw [Settings.fault?_eq_none.mpr hs] at hload
    exact ⟨hload, run_of_load hr hf hi hload⟩
  · cases hfault : Settings.fault? (g.settings.withArguments _) with
    | none => exact absurd (Settings.fault?_eq_none.mp hfault) hs
    | some fault =>
      rw [hfault] at hload
      exact ⟨fault, hload, run_of_refused hr hf hi hload⟩

/-- A file with a timeout that is not allowed. -/
def noTimeout : Settings.Given := { url := some "http://other", timeout := some 0, siUnits := some true }

theorem noTimeout_fits : noTimeout.Fits := by simp [Settings.Given.Fits, noTimeout]

def withNoTimeout (arguments : List String) : Invocation :=
  { onTwoVaults arguments with files := fun _ => .file noTimeout.text }

/-- The timeout in the file matters unless the command line has another one. -/
theorem run_effective_withNoTimeout :
    (∃ a s, run (withNoTimeout ["-p", "p", "--timeout", "5"]) =
      withSettings (withNoTimeout ["-p", "p", "--timeout", "5"]) a s ∧
        s.service = ⟨"http://host", none, 5, true⟩ ∧ s.display.siUnits = true) ∧
    ∃ fault : Settings.Fault, run (withNoTimeout ["-p", "p"]) = refused fault.message := by
  have hg : noTimeout.StoredIn (withNoTimeout []).files none := Settings.Given.inFile_text noTimeout_fits
  constructor
  · obtain ⟨flags, s, hflags, hs, hok, -⟩ := run_effective (i := withNoTimeout ["-p", "p", "--timeout", "5"])
      (a := { project := some "p", url := some "http://host", timeout := some 5 }) rfl rfl rfl hg
    cases hflags
    obtain ⟨-, hrun⟩ := hok ⟨by rw [hs.timeout]; decide, by rw [hs.decimals]; decide⟩
    refine ⟨_, s, hrun, ?_, hs.siUnits.mpr (.inr rfl)⟩
    rw [ServiceSettings.mk.injEq]
    exact ⟨hs.url, hs.token, hs.timeout, hs.useProxy⟩
  · obtain ⟨flags, s, hflags, hs, -, hfault⟩ := run_effective (i := withNoTimeout ["-p", "p"])
      (a := { project := some "p", url := some "http://host" }) rfl rfl rfl hg
    cases hflags
    obtain ⟨fault, -, hrun⟩ := hfault fun h => absurd h.timeout (by rw [hs.timeout]; decide)
    exact ⟨fault, hrun⟩

end Run

end VaultUsage
