import VaultUsage.Arguments.Reader
import VaultUsage.Proofs.Numerals
import VaultUsage.Proofs.Results

/-!
# Command lines

What every option preserves, reading preserves. The other way round, consistent arguments can be spelled out,
each option in one argument with its value, and are read again from that. So the arguments that some command
line gives are the consistent ones, as far as the environment lets them be (`exists_read_iff`).
-/

namespace VaultUsage.Arguments

/-! ## What reading preserves -/

section
variable {P : Arguments → Prop} (ha : ∀ {a s text a'}, P a → assign a s text = .ok a' → P a')
  (hr : ∀ {a s a'}, P a → raise a s = .ok a' → P a')

namespace Progress
include ha

theorem settle_preserves {p : Progress} {a : Arguments} (hp : P p.given) (h : p.settle = .ok a) : P a := by
  unfold settle at h
  split at h
  · cases h; exact hp
  · cases h
  · exact ha hp h

theorem meetWith_preserves {p p' : Progress} {n : Name} {text : String} (hp : P p.given)
    (h : p.meetWith n text = .ok p') : P p'.given := by
  unfold meetWith at h
  split at h
  · obtain ⟨a, hs, h⟩ := bind_eq_ok.mp h
    obtain ⟨a', ht, rfl⟩ := map_eq_ok.mp h
    exact ha (settle_preserves ha hp hs) ht
  · cases h

include hr

theorem meet_preserves {p p' : Progress} {n : Name} (hp : P p.given) (h : p.meet n = .ok p') : P p'.given := by
  obtain ⟨a, hs, h⟩ := bind_eq_ok.mp h
  have hpa := settle_preserves ha hp hs
  cases n with
  | help => cases h
  | version => cases h
  | switch s =>
    obtain ⟨a', ht, rfl⟩ := map_eq_ok.mp h
    exact hr hpa ht
  | setting s =>
    cases h
    exact hpa

theorem readLong_preserves {p p' : Progress} {text : List Char} (hp : P p.given) (h : p.readLong text = .ok p') :
    P p'.given := by
  simp only [readLong] at h
  split at h
  · cases h
  · exact meet_preserves ha hr hp h
  · exact meetWith_preserves ha hp h

theorem readShort_preserves {text : List Char} : ∀ {p p' : Progress}, P p.given → p.readShort text = .ok p' →
    P p'.given := by
  induction text with
  | nil =>
    intro p p' hp h
    cases h
    exact hp
  | cons c rest ih =>
    intro p p' hp h
    unfold readShort at h
    split at h
    · cases h
    · exact meetWith_preserves ha hp h
    · exact meetWith_preserves ha hp h
    · obtain ⟨q, hm, h⟩ := bind_eq_ok.mp h
      exact ih (meet_preserves ha hr hp hm) h

theorem readArgument_preserves {p p' : Progress} {text : String} (hp : P p.given) (h : p.readArgument text = .ok p') :
    P p'.given := by
  unfold readArgument at h
  split at h
  · exact readLong_preserves ha hr hp h
  · exact readShort_preserves ha hr hp h
  · unfold readPlain at h
    split at h
    · cases h; exact hp
    · cases h

theorem readAll_preserves {args : List String} : ∀ {p : Progress} {a : Arguments}, P p.given → p.readAll args = .ok a →
    P a := by
  induction args with
  | nil =>
    intro p a hp h
    exact settle_preserves ha hp h
  | cons text rest ih =>
    intro p a hp h
    unfold readAll at h
    split at h
    · split at h
      · exact settle_preserves ha hp h
      · cases h
    · obtain ⟨q, hq, h⟩ := bind_eq_ok.mp h
      exact ih (readArgument_preserves ha hr hp hq) h

end Progress

end

theorem read_ok {env : Environment} {args : List String} {a : Arguments} :
    read env args = .ok a ↔ ∃ b, ({} : Progress).readAll args = .ok b ∧ (b.listVaults && b.vault.isSome) = false ∧
      { b with url := b.url <|> env.url, token := b.token <|> env.token } = a := by
  unfold read
  rw [bind_eq_ok]
  refine exists_congr fun b => and_congr_right fun _ => ?_
  cases b.listVaults && b.vault.isSome with
  | true => exact ⟨nofun, fun h => nomatch h.1⟩
  | false => exact ⟨fun h => ⟨rfl, Except.ok.inj h⟩, fun h => congrArg _ h.2⟩

/-- The environment stands behind the command line. -/
theorem read_eq_map (env : Environment) (args : List String) :
    read env args = (read {} args).map fun flags =>
      { flags with url := flags.url <|> env.url, token := flags.token <|> env.token } := by
  have hnone (x : Option String) : (x <|> none) = x := by cases x <;> rfl
  unfold read
  cases ({} : Progress).readAll args with
  | error stop => rfl
  | ok a =>
    simp only [bind, Except.bind, hnone]
    split <;> rfl

structure NamesFiles (a : Arguments) : Prop where
  config : a.config ≠ some ""
  output : a.output ≠ some ""

/-- Paths are not empty, and the catalog is not asked for together with a vault. -/
structure Consistent (a : Arguments) : Prop extends NamesFiles a where
  vault : (a.listVaults && a.vault.isSome) = false

theorem readPath_ok {text path : String} (h : readPath text = .ok path) : path ≠ "" := by
  unfold readPath at h
  split at h
  · cases h
  · next ht => cases h; exact ht

theorem give_ok {α : Type} {old : Option α} {read : Except Stop α} {v : Option α} :
    give old read = .ok v ↔ old = none ∧ ∃ x, read = .ok x ∧ some x = v := by
  cases old with
  | none => simp [give, map_eq_ok]
  | some x => simp [give]

theorem NamesFiles.assign {a a' : Arguments} {s : Setting} {text : String} (hn : NamesFiles a)
    (h : assign a s text = .ok a') : NamesFiles a' := by
  cases s with
  | config =>
    obtain ⟨v, hv, rfl⟩ := map_eq_ok.mp h
    obtain ⟨-, x, hx, rfl⟩ := give_ok.mp hv
    exact ⟨fun h => readPath_ok hx (Option.some.inj h), hn.output⟩
  | output =>
    obtain ⟨v, hv, rfl⟩ := map_eq_ok.mp h
    obtain ⟨-, x, hx, rfl⟩ := give_ok.mp hv
    exact ⟨hn.config, fun h => readPath_ok hx (Option.some.inj h)⟩
  | _ =>
    obtain ⟨v, -, rfl⟩ := map_eq_ok.mp h
    exact ⟨hn.config, hn.output⟩

theorem NamesFiles.raise {a a' : Arguments} {s : Switch} (hn : NamesFiles a) (h : raise a s = .ok a') :
    NamesFiles a' := by
  cases s <;>
  · obtain ⟨v, -, rfl⟩ := map_eq_ok.mp h
    exact ⟨hn.config, hn.output⟩

theorem read_consistent {env : Environment} {args : List String} {a : Arguments} (h : read env args = .ok a) :
    Consistent a := by
  obtain ⟨b, hb, hv, rfl⟩ := read_ok.mp h
  have hn := Progress.readAll_preserves NamesFiles.assign NamesFiles.raise ⟨by decide, by decide⟩ hb
  exact ⟨⟨hn.config, hn.output⟩, hv⟩

/-! ## Spelling out -/

def Setting.name : Setting → String
  | .project => "project"
  | .url => "vaultdoor-url"
  | .token => "token"
  | .vault => "vault"
  | .format => "format"
  | .output => "output"
  | .decimals => "decimals"
  | .timeout => "timeout"
  | .config => "config"

def Switch.name : Switch → String
  | .listVaults => "list-vaults"
  | .si => "si"
  | .catalogOrder => "catalog-order"
  | .verbose => "verbose"
  | .quiet => "quiet"
  | .initConfig => "init-config"

theorem ofLong?_setting (s : Setting) : ofLong? s.name = some (.setting s) := by cases s <;> rfl

theorem ofLong?_switch (s : Switch) : ofLong? s.name = some (.switch s) := by cases s <;> rfl

theorem takeWhile_setting (s : Setting) (rest : List Char) :
    (s.name.toList ++ rest).takeWhile (· != '=') = s.name.toList ++ rest.takeWhile (· != '=') := by
  cases s <;> rfl

theorem takeWhile_switch (s : Switch) (rest : List Char) :
    (s.name.toList ++ rest).takeWhile (· != '=') = s.name.toList ++ rest.takeWhile (· != '=') := by
  cases s <;> rfl

/-- An option in one argument with its value. -/
def Setting.spell (s : Setting) (text : String) : String := "--" ++ s.name ++ "=" ++ text

def Switch.spell (s : Switch) : String := "--" ++ s.name

theorem Setting.toList_spell (s : Setting) (text : String) :
    (s.spell text).toList = '-' :: '-' :: (s.name.toList ++ '=' :: text.toList) := by
  simp [spell]

theorem Switch.toList_spell (s : Switch) : s.spell.toList = '-' :: '-' :: (s.name.toList ++ []) := by
  simp [spell]

namespace Progress

theorem readAll_setting {a b : Arguments} {s : Setting} {text : String} (h : assign a s text = .ok b)
    (rest : List String) : readAll ⟨a, none⟩ (s.spell text :: rest) = readAll ⟨b, none⟩ rest := by
  have hne : s.spell text ≠ "--" := by
    intro he
    have := congrArg String.toList he
    rw [s.toList_spell] at this
    simp at this
  have hr : readArgument ⟨a, none⟩ (s.spell text) = .ok ⟨b, none⟩ := by
    simp only [readArgument, s.toList_spell, readLong, takeWhile_setting]
    simp [ofLong?_setting, meetWith, settle, h, bind, Except.bind, Except.map]
  rw [readAll, if_neg hne, hr]
  rfl

theorem readAll_switch {a b : Arguments} {s : Switch} (h : raise a s = .ok b) (rest : List String) :
    readAll ⟨a, none⟩ (s.spell :: rest) = readAll ⟨b, none⟩ rest := by
  have hne : s.spell ≠ "--" := by cases s <;> decide
  have hr : readArgument ⟨a, none⟩ s.spell = .ok ⟨b, none⟩ := by
    simp only [readArgument, s.toList_spell, readLong, takeWhile_switch]
    simp [ofLong?_switch, meet, settle, h, bind, Except.bind, Except.map]
  rw [readAll, if_neg hne, hr]
  rfl

end Progress

/-! ## Every field -/

theorem readNumber_toString (n : UInt64) : readNumber (toString n.toNat) = .ok n := by
  have hd : (toString n.toNat).toList = Nat.toDigits 10 n.toNat := Nat.toList_repr
  have hall : ∀ c ∈ Nat.toDigits 10 n.toNat, Text.isDigit c = true := fun c => Text.isDigit_of_mem_toDigits
  have hplus : ∀ rest, Nat.toDigits 10 n.toNat ≠ '+' :: rest := by
    intro rest h
    have := hall '+' (by rw [h]; exact List.mem_cons_self)
    revert this; decide
  unfold readNumber
  rw [hd]
  split
  · next rest h => exact absurd h (hplus rest)
  · have hn : Text.ofDigits 10 (Nat.toDigits 10 n.toNat) = n.toNat := Text.ofDigits_toDigits (by decide) (by decide) _
    simp only [hn, List.isEmpty_eq_false_iff.mpr Nat.toDigits_ne_nil, List.all_eq_true.mpr hall,
      decide_eq_false (Nat.not_le.mpr n.toNat_lt_size), Bool.not_true, Bool.or_self, Bool.false_eq_true, if_false,
      UInt64.ofNat_toNat]

namespace Setting

/-- The text that gives a field its value, if it has one. -/
def text? (a : Arguments) : Setting → Option String
  | project => a.project
  | url => a.url
  | token => a.token
  | vault => a.vault
  | format => a.format.map fun | .markdown => "markdown" | .json => "json"
  | output => a.output
  | decimals => a.decimals.map fun n => toString n.toNat
  | timeout => a.timeout.map fun n => toString n.toNat
  | config => a.config

/-- The arguments `b` with one field of `a`. -/
def copy (a b : Arguments) : Setting → Arguments
  | project => { b with project := a.project }
  | url => { b with url := a.url }
  | token => { b with token := a.token }
  | vault => { b with vault := a.vault }
  | format => { b with format := a.format }
  | output => { b with output := a.output }
  | decimals => { b with decimals := a.decimals }
  | timeout => { b with timeout := a.timeout }
  | config => { b with config := a.config }

def all : List Setting := [project, url, token, vault, format, output, decimals, timeout, config]

theorem text?_copy {a b : Arguments} {s t : Setting} (h : s ≠ t) : t.text? (s.copy a b) = t.text? b := by
  cases s <;> cases t <;> first | rfl | exact absurd rfl h

theorem copy_of_none {a b : Arguments} {s : Setting} (ha : s.text? a = none) (hb : s.text? b = none) :
    s.copy a b = b := by
  cases s <;>
  · simp only [text?, Option.map_eq_none_iff] at ha hb
    rw [copy, ha, ← hb]

theorem assign_copy {a b : Arguments} {s : Setting} {text : String}
    (hn : NamesFiles a) (ha : s.text? a = some text) (hb : s.text? b = none) :
    assign b s text = .ok (s.copy a b) := by
  have hnumber {given old : Option UInt64} (h : (given.map fun n => toString n.toNat) = some text)
      (ho : old = none) : give old (readNumber text) = .ok given := by
    obtain ⟨n, rfl, rfl⟩ := Option.map_eq_some_iff.mp h
    exact give_ok.mpr ⟨ho, n, readNumber_toString n, rfl⟩
  have hpath {given old : Option String} (h : given = some text) (hne : given ≠ some "") (ho : old = none) :
      give old (readPath text) = .ok given := by
    subst h
    exact give_ok.mpr ⟨ho, text, if_neg fun h => hne (congrArg _ h), rfl⟩
  cases s with
  | format =>
    obtain ⟨f, hf, rfl⟩ := Option.map_eq_some_iff.mp ha
    refine map_eq_ok.mpr ⟨some f, give_ok.mpr ⟨Option.map_eq_none_iff.mp hb, f, ?_, rfl⟩, by rw [copy, hf]⟩
    cases f <;> rfl
  | decimals => exact map_eq_ok.mpr ⟨_, hnumber ha (Option.map_eq_none_iff.mp hb), rfl⟩
  | timeout => exact map_eq_ok.mpr ⟨_, hnumber ha (Option.map_eq_none_iff.mp hb), rfl⟩
  | output => exact map_eq_ok.mpr ⟨_, hpath ha hn.output hb, rfl⟩
  | config => exact map_eq_ok.mpr ⟨_, hpath ha hn.config hb, rfl⟩
  | _ => exact map_eq_ok.mpr ⟨_, give_ok.mpr ⟨hb, text, rfl, ha.symm⟩, rfl⟩

end Setting

namespace Switch

def isOn (a : Arguments) : Switch → Bool
  | listVaults => a.listVaults
  | si => a.si
  | catalogOrder => a.catalogOrder
  | verbose => a.verbose
  | quiet => a.quiet
  | initConfig => a.initConfig

def copy (a b : Arguments) : Switch → Arguments
  | listVaults => { b with listVaults := a.listVaults }
  | si => { b with si := a.si }
  | catalogOrder => { b with catalogOrder := a.catalogOrder }
  | verbose => { b with verbose := a.verbose }
  | quiet => { b with quiet := a.quiet }
  | initConfig => { b with initConfig := a.initConfig }

def all : List Switch := [listVaults, si, catalogOrder, verbose, quiet, initConfig]

theorem isOn_copy {a b : Arguments} {s t : Switch} (h : s ≠ t) : t.isOn (s.copy a b) = t.isOn b := by
  cases s <;> cases t <;> first | rfl | exact absurd rfl h

theorem copy_of_off {a b : Arguments} {s : Switch} (ha : s.isOn a = false) (hb : s.isOn b = false) :
    s.copy a b = b := by
  cases s <;>
  · simp only [isOn] at ha hb
    rw [copy, ha, ← hb]

theorem raise_copy {a b : Arguments} {s : Switch} (ha : s.isOn a = true) (hb : s.isOn b = false) :
    raise b s = .ok (s.copy a b) := by
  have hturn {given old : Bool} (h : given = true) (ho : old = false) : turnOn old = .ok given := by
    rw [h, ho]
    rfl
  cases s <;> exact map_eq_ok.mpr ⟨_, hturn ha hb, rfl⟩

end Switch

/-- The options that give every field its value. -/
def spelled (a : Arguments) : List String :=
  Setting.all.flatMap (fun s => ((s.text? a).map s.spell).toList) ++
    Switch.all.flatMap fun s => if s.isOn a then [s.spell] else []

theorem copy_all (a : Arguments) :
    Switch.all.foldl (fun b s => s.copy a b) (Setting.all.foldl (fun b s => s.copy a b) {}) = a := by
  simp only [Setting.all, Switch.all, List.foldl_cons, List.foldl_nil, Setting.copy, Switch.copy]

theorem readAll_settings {a : Arguments} (ha : NamesFiles a) (rest : List String) :
    ∀ {settings : List Setting} {b : Arguments}, settings.Nodup → (∀ s ∈ settings, s.text? b = none) →
      Progress.readAll ⟨b, none⟩ (settings.flatMap (fun s => ((s.text? a).map s.spell).toList) ++ rest) =
        Progress.readAll ⟨settings.foldl (fun b s => s.copy a b) b, none⟩ rest
  | [], b, _, _ => rfl
  | s :: settings, b, hn, hb => by
    obtain ⟨hs, hn⟩ := List.nodup_cons.mp hn
    have hcopy : ∀ t ∈ settings, t.text? (s.copy a b) = none := by
      intro t ht
      have hst : s ≠ t := fun h => hs (h ▸ ht)
      rw [Setting.text?_copy hst, hb t (List.mem_cons_of_mem _ ht)]
    -- `b` has no value yet for the settings still to come, so none of them is given twice
    have ih := readAll_settings ha rest hn hcopy
    have hbs := hb s List.mem_cons_self
    rw [List.flatMap_cons, List.append_assoc, List.foldl_cons, ← ih]
    cases hs : s.text? a with
    | none =>
      rw [Setting.copy_of_none hs hbs]
      rfl
    | some text => exact Progress.readAll_setting (Setting.assign_copy ha hs hbs) _

theorem readAll_switches (a : Arguments) : ∀ {switches : List Switch} {b : Arguments}, switches.Nodup →
    (∀ s ∈ switches, s.isOn b = false) →
      Progress.readAll ⟨b, none⟩ (switches.flatMap fun s => if s.isOn a then [s.spell] else []) =
        .ok (switches.foldl (fun b s => s.copy a b) b)
  | [], b, _, _ => rfl
  | s :: switches, b, hn, hb => by
    obtain ⟨hs, hn⟩ := List.nodup_cons.mp hn
    have hcopy : ∀ t ∈ switches, t.isOn (s.copy a b) = false := by
      intro t ht
      have hst : s ≠ t := fun h => hs (h ▸ ht)
      rw [Switch.isOn_copy hst, hb t (List.mem_cons_of_mem _ ht)]
    have ih := readAll_switches a hn hcopy
    have hbs := hb s List.mem_cons_self
    rw [List.flatMap_cons, List.foldl_cons, ← ih]
    cases ha : s.isOn a with
    | false =>
      rw [Switch.copy_of_off ha hbs]
      rfl
    | true => exact Progress.readAll_switch (Switch.raise_copy ha hbs) _

theorem readAll_spelled {a : Arguments} (ha : NamesFiles a) :
    Progress.readAll {} (spelled a) = .ok a := by
  have hoff : ∀ s ∈ Switch.all, s.isOn (Setting.all.foldl (fun b s => s.copy a b) {}) = false := by
    simp [Setting.all, Switch.all, Setting.copy, Switch.isOn]
  rw [spelled, readAll_settings ha _ (by decide) (by decide), readAll_switches a (by decide) hoff, copy_all]

/-- The arguments that can be given in an environment: consistent ones that hold what the environment has. -/
theorem exists_read_iff {env : Environment} {a : Arguments} :
    (∃ args, read env args = .ok a) ↔
      Consistent a ∧ (a.url = none → env.url = none) ∧ (a.token = none → env.token = none) := by
  constructor
  · rintro ⟨args, h⟩
    refine ⟨read_consistent h, ?_⟩
    obtain ⟨b, -, -, rfl⟩ := read_ok.mp h
    have hor {x y : Option String} (h : (x <|> y) = none) : y = none := by
      cases x with
      | none => exact h
      | some v => cases h
    exact ⟨hor, hor⟩
  · rintro ⟨h, hu, ht⟩
    refine ⟨spelled a, read_ok.mpr ⟨a, readAll_spelled h.toNamesFiles, h.vault, ?_⟩⟩
    have hor {x y : Option String} (h : x = none → y = none) : (x <|> y) = x := by
      cases x with
      | none => exact h rfl
      | some v => rfl
    rw [hor hu, hor ht]

theorem exists_read_of_read {env : Environment} {args : List String} {a b : Arguments} (h : read env args = .ok a)
    (hb : Consistent b) (hu : b.url = a.url) (ht : b.token = a.token) : ∃ args', read env args' = .ok b := by
  obtain ⟨-, hau, hat⟩ := exists_read_iff.mp ⟨args, h⟩
  exact exists_read_iff.mpr ⟨hb, hu ▸ hau, ht ▸ hat⟩

end VaultUsage.Arguments
