import VaultUsage.Proofs.Toml.Documents
import VaultUsage.Settings.Load

/-!
# What a settings file gives

A settings file gives some of the settings (`Given`), in sections that can be left out. What it does not give has its
default, whether the whole section is left out or only the setting (`ofMembers_eq`). Whatever is to be given, there is
a file that gives it (`inFile_text`).
-/

namespace VaultUsage.Settings

/-- What a file says of each setting, if anything. -/
structure Given where
  verbose : Option Bool := none
  url : Option String := none
  token : Option String := none
  timeout : Option UInt64 := none
  useProxy : Option Bool := none
  siUnits : Option Bool := none
  decimals : Option UInt64 := none
  newestFirst : Option Bool := none
  deriving DecidableEq, Repr

/-- The section is a table, if it is there. -/
def IsSection (members : Toml.Members) (name : String) : Prop :=
  ∀ v, members.lookup name = some v → ∃ origin settings, v = .table origin settings

def valueIn (members : Toml.Members) (name key : String) : Option Toml.Value :=
  match members.lookup name with
  | some (.table _ settings) => settings.lookup key
  | _ => none

namespace Given

/-- The members of a document give just this, each setting with a value of its type. -/
structure StandsIn (g : Given) (members : Toml.Members) : Prop where
  general : IsSection members "general"
  vaultdoor : IsSection members "vaultdoor"
  display : IsSection members "display"
  verbose : valueIn members "general" "verbose" = g.verbose.map .boolean
  url : valueIn members "vaultdoor" "url" = g.url.map .text
  token : valueIn members "vaultdoor" "token" = g.token.map .text
  timeout : valueIn members "vaultdoor" "timeout_seconds" = g.timeout.map fun n => .integer n.toNat
  useProxy : valueIn members "vaultdoor" "use_system_proxy" = g.useProxy.map .boolean
  siUnits : valueIn members "display" "si_units" = g.siUnits.map .boolean
  decimals : valueIn members "display" "decimal_places" = g.decimals.map fun n => .integer n.toNat
  newestFirst : valueIn members "display" "newest_first" = g.newestFirst.map .boolean

/-- The settings that are given, and the defaults of the others. -/
def settings (g : Given) : Settings where
  verbose := g.verbose.getD false
  service := ⟨g.url.getD "http://localhost:9000/", g.token, g.timeout.getD 30, g.useProxy.getD true⟩
  display := ⟨g.siUnits.getD false, g.decimals.getD 1, g.newestFirst.getD true⟩

end Given

/-! ## Reading -/

section
variable {s : Section} {place : Nat} {name : String}

theorem flag_eq {b : Option Bool} (h : s place name = b.map .boolean) (default : Bool) :
    s.flag place name default = .ok (b.getD default) := by
  rw [Section.flag, h]
  cases b <;> rfl

theorem number_eq {n : Option UInt64} (h : s place name = n.map fun n => .integer n.toNat) (default : UInt64) :
    s.number place name default = .ok (n.getD default) := by
  rw [Section.number, h]
  cases n with
  | none => rfl
  | some n => simp

theorem text?_eq {t : Option String} (h : s place name = t.map .text) : s.text? place name = .ok t := by
  rw [Section.text?, h]
  cases t <;> rfl

end

/-- A section is read from its values. That it may be left out matters only if nothing is given in it. -/
theorem sectionOr_eq {α : Type} {members : Toml.Members} {name : String} (h : IsSection members name)
    {default value : α} {read : Section → Except FileFault α}
    (hnone : (∀ key, valueIn members name key = none) → default = value)
    (hsome : read (fun _ key => valueIn members name key) = .ok value) :
    sectionOr members name default read = .ok value := by
  unfold sectionOr readSection
  cases hl : members.lookup name with
  | none => exact congrArg _ (hnone fun key => by rw [valueIn, hl])
  | some v =>
    obtain ⟨origin, settings, rfl⟩ := h v hl
    simp only [valueIn, hl] at hsome
    exact hsome

theorem ofMembers_eq {g : Given} {members : Toml.Members} (h : g.StandsIn members) :
    ofMembers members = .ok g.settings := by
  have hnone {α : Type} {f : α → Toml.Value} {x : Option α} (h : none = x.map f) : x = none := by
    simpa using h.symm
  have hgeneral : sectionOr members "general" false readGeneral = .ok g.settings.verbose :=
    sectionOr_eq h.general (fun hn => by rw [Given.settings, hnone ((hn _).symm.trans h.verbose)]; rfl)
      (flag_eq h.verbose _)
  have hservice : sectionOr members "vaultdoor" {} readService = .ok g.settings.service := by
    refine sectionOr_eq h.vaultdoor (fun hn => ?_) ?_
    · rw [Given.settings, hnone ((hn _).symm.trans h.url), hnone ((hn _).symm.trans h.token),
        hnone ((hn _).symm.trans h.timeout), hnone ((hn _).symm.trans h.useProxy)]
      rfl
    · rw [readService, text?_eq h.url, text?_eq h.token, number_eq h.timeout, flag_eq h.useProxy]
      rfl
  have hdisplay : sectionOr members "display" {} readDisplay = .ok g.settings.display := by
    refine sectionOr_eq h.display (fun hn => ?_) ?_
    · rw [Given.settings, hnone ((hn _).symm.trans h.siUnits), hnone ((hn _).symm.trans h.decimals),
        hnone ((hn _).symm.trans h.newestFirst)]
      rfl
    · rw [readDisplay, flag_eq h.siUnits, number_eq h.decimals, flag_eq h.newestFirst]
      rfl
  rw [ofMembers, hgeneral, hservice, hdisplay]
  rfl

/-! ## Files -/

namespace Given

/-- The file is there and gives just this. -/
def InFile (g : Given) (e : Entry) : Prop :=
  ∃ text members, e = .file text ∧ Toml.read text = .ok members ∧ g.StandsIn members

/-- The file that a run reads gives just this; if none is named and none has the usual name, nothing is given. -/
def StoredIn (g : Given) (files : Files) (config : Option String) : Prop :=
  match config with
  | some path => g.InFile (files path)
  | none => if (files usualPath).isThere then g.InFile (files usualPath) else g = {}

end Given

theorem loadFile_eq {g : Given} {files : Files} {path : String} (h : g.InFile (files path)) :
    loadFile files path = .ok g.settings := by
  obtain ⟨text, members, he, hr, hs⟩ := h
  simp only [loadFile, he, Entry.read, read, hr, ofMembers_eq hs]
  rfl

theorem stored_eq {g : Given} {files : Files} {config : Option String} (h : g.StoredIn files config) :
    stored files config = .ok g.settings := by
  cases config with
  | some path => exact loadFile_eq h
  | none =>
    simp only [Given.StoredIn] at h
    simp only [stored]
    split
    · next ht => exact loadFile_eq (by simpa [ht] using h)
    · next ht =>
      rw [if_neg ht] at h
      rw [h]
      rfl

/-! ## Writing -/

namespace Given

/-- Numbers in a file have 63 bits and a sign. -/
def Fits (g : Given) : Prop := (∀ n ∈ g.timeout, n.toNat < 2 ^ 63) ∧ ∀ n ∈ g.decimals, n.toNat < 2 ^ 63

/-- One more setting, if it is given. -/
def add {α : Type} (key : String) (f : α → Toml.Scalar) (x : Option α) (rest : List (String × Toml.Scalar)) :
    List (String × Toml.Scalar) :=
  match x with
  | none => rest
  | some a => (key, f a) :: rest

def general (g : Given) : List (String × Toml.Scalar) := add "verbose" .boolean g.verbose []

def vaultdoor (g : Given) : List (String × Toml.Scalar) :=
  add "url" .text g.url (add "token" .text g.token (add "timeout_seconds" (.integer ·.toNat) g.timeout
    (add "use_system_proxy" .boolean g.useProxy [])))

def display (g : Given) : List (String × Toml.Scalar) :=
  add "si_units" .boolean g.siUnits (add "decimal_places" (.integer ·.toNat) g.decimals
    (add "newest_first" .boolean g.newestFirst []))

def sections (g : Given) : List Toml.Section :=
  [("general", g.general), ("vaultdoor", g.vaultdoor), ("display", g.display)]

section
variable {α : Type} {key : String} {f : α → Toml.Scalar} {x : Option α} {rest : List (String × Toml.Scalar)}

theorem lookup_add (name : String) : (Toml.settingsOf (add key f x rest)).lookup name =
    if name = key then (x.map fun a => (f a).toValue) <|> (Toml.settingsOf rest).lookup name
    else (Toml.settingsOf rest).lookup name := by
  cases x with
  | none => simp [add]
  | some a =>
    by_cases h : name = key
    · simp [add, Toml.settingsOf, h]
    · have hb : (name == key) = false := beq_eq_false_iff_ne.mpr h
      simp [add, Toml.settingsOf, h, List.lookup_cons, hb]

theorem sublist_add {names : List String} (h : (rest.map Prod.fst).Sublist names) :
    ((add key f x rest).map Prod.fst).Sublist (key :: names) := by
  cases x with
  | none => exact h.cons key
  | some a => exact h.cons_cons key

theorem inRange_add (hx : ∀ a ∈ x, (f a).InRange) (h : ∀ e ∈ rest, e.2.InRange) :
    ∀ e ∈ add key f x rest, e.2.InRange := by
  cases x with
  | none => exact h
  | some a => exact List.forall_mem_cons.mpr ⟨hx a rfl, h⟩

end

theorem standsIn_sections (g : Given) : g.StandsIn (Toml.membersOf g.sections) := by
  have hsection (name : String) (settings : Toml.Members)
      (h : (Toml.membersOf g.sections).lookup name = some (.table .header settings)) :
      IsSection (Toml.membersOf g.sections) name ∧
        ∀ key, valueIn (Toml.membersOf g.sections) name key = settings.lookup key :=
    ⟨fun v hv => ⟨_, _, Option.some.inj (hv.symm.trans h)⟩, fun key => by rw [valueIn, h]⟩
  have hnil (name : String) : (Toml.settingsOf []).lookup name = none := rfl
  obtain ⟨hgeneral, general⟩ := hsection "general" _ rfl
  obtain ⟨hvaultdoor, vaultdoor⟩ := hsection "vaultdoor" _ rfl
  obtain ⟨hdisplay, display⟩ := hsection "display" _ rfl
  constructor
  case general => exact hgeneral
  case vaultdoor => exact hvaultdoor
  case display => exact hdisplay
  all_goals
    simp [general, vaultdoor, display, Given.general, Given.vaultdoor, Given.display, lookup_add, hnil,
      Toml.Scalar.toValue]

theorem arePlain_of_sublist {settings : List (String × Toml.Scalar)} {names : List String}
    (hs : (settings.map Prod.fst).Sublist names) (hn : names.Nodup) (hb : ∀ name ∈ names, Toml.IsBare name)
    (hr : ∀ e ∈ settings, e.2.InRange) : Toml.ArePlain settings :=
  ⟨hs.nodup hn, fun e he => hb e.1 (hs.subset (List.mem_map_of_mem he)), hr⟩

theorem isPlainDocument_sections {g : Given} (h : g.Fits) : Toml.IsPlainDocument g.sections where
  distinct := by
    show ["general", "vaultdoor", "display"].Nodup
    decide
  bare := by
    simp only [sections, List.forall_mem_cons]
    decide
  settings := by
    have htext {x : Option String} : ∀ a ∈ x, (Toml.Scalar.text a).InRange := fun _ _ => trivial
    have hboolean {x : Option Bool} : ∀ a ∈ x, (Toml.Scalar.boolean a).InRange := fun _ _ => trivial
    simp only [sections, List.forall_mem_cons]
    refine ⟨?_, ?_, ?_, nofun⟩
    · exact arePlain_of_sublist (sublist_add .slnil) (by decide) (by decide) (inRange_add hboolean nofun)
    · exact arePlain_of_sublist (sublist_add (sublist_add (sublist_add (sublist_add .slnil)))) (by decide) (by decide)
        (inRange_add htext (inRange_add htext (inRange_add h.1 (inRange_add hboolean nofun))))
    · exact arePlain_of_sublist (sublist_add (sublist_add (sublist_add .slnil))) (by decide) (by decide)
        (inRange_add hboolean (inRange_add h.2 (inRange_add hboolean nofun)))

/-- A file that gives just this. -/
def text (g : Given) : String := String.ofList (Toml.write g.sections)

theorem inFile_text {g : Given} (h : g.Fits) : g.InFile (.file g.text) :=
  ⟨_, _, rfl, Toml.read_write (isPlainDocument_sections h), standsIn_sections g⟩

end Given

end VaultUsage.Settings
