import VaultUsage.Proofs.Precedence

/-!
# The same value on the command line and in the file

The address, the timeout and the number of decimals can be given as an option or in the settings file, and are checked
in both cases (`Shared`). For the numbers the two checks agree. An address on the command line must also begin with one
of the two schemes as they are spelled, while in the file capitals and white space before it do no harm.
-/

namespace VaultUsage

theorem Arguments.fault?_eq_none {a : Arguments} (hi : a.initConfig = false) :
    a.fault? = none ↔ a.projectFault? = none ∧ (a.url.any fun u => !startsWithScheme u) = false ∧
      a.vault.any Text.isBlankText = false ∧ (a.decimals.any fun n => decide (SizeFormat.maxDecimals < n.toNat)) = false ∧
      a.timeout ≠ some 0 ∧ (a.verbose && a.quiet) = false := by
  have hor {x y : Option Fault} : (x <|> y) = none ↔ x = none ∧ y = none := by
    cases x <;> simp
  have hif {p : Prop} [Decidable p] {f : Fault} : (if p then some f else none) = none ↔ ¬p := by
    split <;> simp [*]
  simp only [fault?, hi, Bool.false_eq_true, if_false, hor, hif, Bool.not_eq_true]

namespace Settings

/-- A value that can be given on the command line and in the file. -/
inductive Shared where
  | url (text : String)
  | timeout (seconds : UInt64)
  | decimals (places : UInt64)

namespace Shared

def onCommandLine (v : Shared) (a : Arguments) : Arguments :=
  match v with
  | url text => { a with url := some text }
  | timeout seconds => { a with timeout := some seconds }
  | decimals places => { a with decimals := some places }

def inFile (v : Shared) (g : Given) : Given :=
  match v with
  | url text => { g with url := some text }
  | timeout seconds => { g with timeout := some seconds }
  | decimals places => { g with decimals := some places }

/-- Neither the command line nor the environment gives it. -/
def IsUnset (v : Shared) (a : Arguments) : Prop :=
  match v with
  | url _ => a.url = none
  | timeout _ => a.timeout = none
  | decimals _ => a.decimals = none

/-- What the command line asks of the value. -/
def IsGood : Shared → Prop
  | url text => Arguments.startsWithScheme text = true
  | timeout seconds => 1 ≤ seconds.toNat
  | decimals places => places.toNat ≤ SizeFormat.maxDecimals

/-- An address begins with a scheme as it is spelled. -/
def HasScheme : Shared → Prop
  | url text => Arguments.startsWithScheme text = true
  | _ => True

def Fits : Shared → Prop
  | url _ => True
  | timeout seconds => seconds.toNat < 2 ^ 63
  | decimals places => places.toNat < 2 ^ 63

/-- The run `j` is the run `i` with the value in its file instead of on its command line. -/
structure Moved (v : Shared) (a : Arguments) (g : Given) (i j : Invocation) : Prop where
  read : Arguments.read j.environment j.arguments = .ok a
  stored : (v.inFile g).StoredIn j.files a.config
  others (path : String) (h : path ≠ a.config.getD usualPath) : j.files path = i.files path
  clock : j.clock = i.clock
  network : j.network = i.network

section
variable (v : Shared) (a : Arguments) (g : Given)

@[simp] theorem initConfig_onCommandLine : (v.onCommandLine a).initConfig = a.initConfig := by cases v <;> rfl

@[simp] theorem config_onCommandLine : (v.onCommandLine a).config = a.config := by cases v <;> rfl

theorem withArguments_onCommandLine (h : v.IsUnset a) :
    g.settings.withArguments (v.onCommandLine a) = (v.inFile g).settings.withArguments a := by
  cases v <;>
  · simp only [IsUnset] at h
    simp [withArguments, ServiceSettings.withArguments, DisplaySettings.withArguments, Given.settings, onCommandLine,
      inFile, h]

theorem fault?_onCommandLine (hi : a.initConfig = false) (h : v.IsUnset a) :
    (v.onCommandLine a).fault? = none ↔ v.IsGood ∧ a.fault? = none := by
  have hp : (v.onCommandLine a).projectFault? = a.projectFault? := by cases v <;> rfl
  rw [Arguments.fault?_eq_none ((v.initConfig_onCommandLine a).trans hi), Arguments.fault?_eq_none hi, hp]
  cases v <;>
  · simp only [IsUnset] at h
    simp [onCommandLine, IsGood, h, and_left_comm, ← UInt64.toNat_inj, Nat.one_le_iff_ne_zero]

theorem isGood_iff (h : v.IsUnset a) (hr : ((v.inFile g).settings.withArguments a).InRange) :
    v.IsGood ↔ v.HasScheme := by
  cases v with
  | url text => exact Iff.rfl
  | timeout seconds =>
    have ht := hr.timeout
    simp only [IsUnset] at h
    simp only [withArguments, ServiceSettings.withArguments, h, inFile, Given.settings, Option.getD_none,
      Option.getD_some] at ht
    exact iff_of_true ht trivial
  | decimals places =>
    have hd := hr.decimals
    simp only [IsUnset] at h
    simp only [withArguments, DisplaySettings.withArguments, h, inFile, Given.settings, Option.getD_none,
      Option.getD_some] at hd
    exact iff_of_true hd trivial

end

end Shared

end Settings

namespace Run

/-- The arguments and the settings pass all checks, and the address is one of a service. -/
def Accepted (i : Invocation) : Prop :=
  ∃ a s base, Arguments.read i.environment i.arguments = .ok a ∧ a.fault? = none ∧ a.initConfig = false ∧
    Settings.load i.files a = .ok s ∧ BaseUrl.read s.service.url = .ok base

theorem accepted_iff_checks {i : Invocation} {a : Arguments} {g : Settings.Given}
    (hr : Arguments.read i.environment i.arguments = .ok a) (hg : g.StoredIn i.files a.config) :
    Accepted i ↔ a.initConfig = false ∧ a.fault? = none ∧ (g.settings.withArguments a).InRange ∧
      ∃ base, BaseUrl.read (g.settings.withArguments a).service.url = .ok base := by
  have hload {s : Settings} : Settings.load i.files a = .ok s ↔
      g.settings.withArguments a = s ∧ (g.settings.withArguments a).InRange := by
    rw [Settings.load_ok, Settings.stored_eq hg, ← Settings.fault?_eq_none]
    constructor
    · rintro ⟨given, hgiven, rfl, hf⟩
      cases hgiven
      exact ⟨rfl, hf⟩
    · rintro ⟨rfl, hf⟩
      exact ⟨_, rfl, rfl, hf⟩
  constructor
  · rintro ⟨a', s, base, hr', hf, hi, hl, hb⟩
    obtain rfl : a = a' := Except.ok.inj (hr.symm.trans hr')
    obtain ⟨rfl, hs⟩ := hload.mp hl
    exact ⟨hi, hf, hs, base, hb⟩
  · rintro ⟨hi, hf, hs, base, hb⟩
    exact ⟨a, _, base, hr, hf, hi, hload.mpr ⟨rfl, hs⟩, hb⟩

/-- Whatever fits into a file can be given there. -/
theorem exists_moved {v : Settings.Shared} {i : Invocation} {a : Arguments} {g : Settings.Given}
    (hr : Arguments.read i.environment i.arguments = .ok (v.onCommandLine a)) (h : v.IsUnset a) (hv : v.Fits)
    (hg : g.Fits) : ∃ j, v.Moved a g i j := by
  obtain ⟨hc, hu, ht⟩ := Arguments.exists_read_iff.mp ⟨_, hr⟩
  -- an address is given by the environment neither, for the arguments hold what it has
  have hread : ∃ env args, Arguments.read env args = .ok a := by
    cases v with
    | url text =>
      exact ⟨⟨none, i.environment.token⟩,
        Arguments.exists_read_iff.mpr ⟨⟨⟨hc.config, hc.output⟩, hc.vault⟩, fun _ => rfl, ht⟩⟩
    | timeout seconds =>
      exact ⟨i.environment, Arguments.exists_read_iff.mpr ⟨⟨⟨hc.config, hc.output⟩, hc.vault⟩, hu, ht⟩⟩
    | decimals places =>
      exact ⟨i.environment, Arguments.exists_read_iff.mpr ⟨⟨⟨hc.config, hc.output⟩, hc.vault⟩, hu, ht⟩⟩
  obtain ⟨env, args, hread⟩ := hread
  have hfits : (v.inFile g).Fits := by
    cases v with
    | url text => exact hg
    | timeout seconds => exact ⟨fun n hn => Option.some.inj hn ▸ hv, hg.2⟩
    | decimals places => exact ⟨hg.1, fun n hn => Option.some.inj hn ▸ hv⟩
  have hfile := Settings.Given.inFile_text hfits
  refine ⟨{ i with
    arguments := args
    environment := env
    files := Function.update i.files (a.config.getD Settings.usualPath) (.file (v.inFile g).text) },
    hread, ?_, fun path hp => Function.update_of_ne hp _ _, rfl, rfl⟩
  cases hconfig : a.config with
  | some path => simpa [Settings.Given.StoredIn] using hfile
  | none => simpa [Settings.Given.StoredIn, Entry.isThere] using hfile

/-- A run with its address in capitals, on the command line and in the file. -/
def capitalsOnCommandLine : Invocation :=
  { onTwoVaults ["-p", "p", "--vaultdoor-url", "HTTPS://host/"] with environment := {} }

def capitalsInFile : Invocation :=
  { onTwoVaults ["-p", "p"] with
    environment := {}
    files := Function.update (fun _ => .vacant) Settings.usualPath
      (.file ((Settings.Shared.url "HTTPS://host/").inFile {}).text) }

theorem moved_capitals :
    (Settings.Shared.url "HTTPS://host/").Moved { project := some "p" } {} capitalsOnCommandLine capitalsInFile where
  read := rfl
  stored := by
    have h : ((Settings.Shared.url "HTTPS://host/").inFile {}).Fits := ⟨nofun, nofun⟩
    simpa [Settings.Given.StoredIn, capitalsInFile, Entry.isThere] using Settings.Given.inFile_text h
  others path hp := by
    have hp : path ≠ Settings.usualPath := hp
    simp only [capitalsInFile, Function.update_of_ne hp]
    rfl
  clock := rfl
  network := rfl

/-- In the file the address is good, on the command line it is not. -/
theorem accepted_capitals :
    (Settings.Shared.url "HTTPS://host/").Moved { project := some "p" } {} capitalsOnCommandLine capitalsInFile ∧
      Accepted capitalsInFile ∧ ¬Accepted capitalsOnCommandLine := by
  refine ⟨moved_capitals, ?_, ?_⟩
  · exact (accepted_iff_checks moved_capitals.read moved_capitals.stored).mpr
      ⟨rfl, rfl, ⟨by decide, by decide⟩, ⟨⟨.https, {}, .domain "host", none, [""]⟩, rfl⟩, rfl⟩
  · rintro ⟨a, s, base, hr, hf, -⟩
    cases hr
    exact absurd hf (by decide)

/-- A value passes on the command line just if it does in the file; an address must also begin with a scheme as it is
spelled. Each value that fits can be given in both ways. -/
theorem accepted_iff_moved {v : Settings.Shared} {i : Invocation} {a : Arguments} {g : Settings.Given}
    (hr : Arguments.read i.environment i.arguments = .ok (v.onCommandLine a)) (h : v.IsUnset a)
    (hg : g.StoredIn i.files a.config) :
    (∀ j, v.Moved a g i j → (Accepted i ↔ v.HasScheme ∧ Accepted j)) ∧
      (v.Fits → g.Fits → ∃ j, v.Moved a g i j) := by
  refine ⟨fun j hj => ?_, exists_moved hr h⟩
  rw [← v.config_onCommandLine a] at hg
  rw [accepted_iff_checks hr hg, accepted_iff_checks hj.read hj.stored, v.withArguments_onCommandLine a g h,
    v.initConfig_onCommandLine]
  constructor
  · rintro ⟨hi, hf, hs, hb⟩
    obtain ⟨hv, hf⟩ := (v.fault?_onCommandLine a hi h).mp hf
    exact ⟨(v.isGood_iff a g h hs).mp hv, hi, hf, hs, hb⟩
  · rintro ⟨hv, hi, hf, hs, hb⟩
    exact ⟨hi, (v.fault?_onCommandLine a hi h).mpr ⟨(v.isGood_iff a g h hs).mpr hv, hf⟩, hs, hb⟩

/-- As many decimals as there can be pass both ways. -/
theorem accepted_iff_moved_decimals :
    let i := onTwoVaults ["-p", "p", "--decimals", "6"]
    ∃ j, (Settings.Shared.decimals 6).Moved { project := some "p", url := some "http://host" } {} i j ∧
      Accepted i ∧ Accepted j := by
  intro i
  have hr : Arguments.read i.environment i.arguments =
      .ok ((Settings.Shared.decimals 6).onCommandLine { project := some "p", url := some "http://host" }) := rfl
  obtain ⟨hiff, hexists⟩ := accepted_iff_moved (g := {}) hr rfl rfl
  obtain ⟨j, hj⟩ := hexists (by show 6 < 2 ^ 63; decide) ⟨nofun, nofun⟩
  have hi : Accepted i := (accepted_iff_checks (g := {}) hr rfl).mpr
    ⟨rfl, rfl, ⟨by decide, by decide⟩, ⟨⟨.http, {}, .domain "host", none, [""]⟩, rfl⟩, rfl⟩
  exact ⟨j, hj, hi, ((hiff j hj).mp hi).2⟩

end Run

end VaultUsage
