import VaultUsage.Proofs.Results
import VaultUsage.Proofs.Toml.Scalars

/-!
# Documents of plain sections

A document that has one header for each section and one line for each setting is read as just these (`read_write`).
-/

namespace VaultUsage.Toml

/-! ## Keys -/

/-- A name that can stand as a key without quotes. -/
def IsBare (name : String) : Prop := name ≠ "" ∧ ∀ c ∈ name.toList, isBareKey c = true

instance (name : String) : Decidable (IsBare name) :=
  decidable_of_iff (name ≠ "" ∧ name.toList.all isBareKey = true) (and_congr_right fun _ => List.all_eq_true)

theorem IsBare.exists_cons {name : String} (hn : IsBare name) :
    ∃ c more, name.toList = c :: more ∧ isBareKey c = true := by
  obtain ⟨hne, hbare⟩ := hn
  obtain ⟨c, more, hname⟩ := List.exists_cons_of_ne_nil fun h => hne (String.toList_eq_nil_iff.mp h)
  exact ⟨c, more, hname, hbare c (hname ▸ List.mem_cons_self)⟩

theorem isBlank_of_isBareKey {c : Char} (hc : isBareKey c = true) : isBlank c = false := by
  simp [isBlank, Text.ne_of_holds hc (d := ' ') rfl, Text.ne_of_holds hc (d := '\t') rfl]

theorem readKeyPart_append {name : String} (hn : IsBare name) {c : Char} (hc : isBareKey c = false) (rest : List Char) :
    readKeyPart (name.toList ++ c :: rest) = .ok (name, c :: rest) := by
  have hspan : (name.toList ++ c :: rest).span isBareKey = (name.toList, c :: rest) := by
    refine Text.span_append_of_head hn.2 ?_
    rintro d ⟨⟩
    exact hc
  obtain ⟨first, more, hname, hfirst⟩ := hn.exists_cons
  unfold readKeyPart
  split
  · next h =>
    rw [hname] at h
    exact absurd (List.cons.inj h).1 (Text.ne_of_holds hfirst rfl)
  · next h =>
    rw [hname] at h
    exact absurd (List.cons.inj h).1 (Text.ne_of_holds hfirst rfl)
  · simp only [hspan]
    rw [if_neg (by simp [hname]), String.ofList_toList]

theorem readKey_append {name : String} (hn : IsBare name) {c d : Char} {rest rest' : List Char}
    (hc : isBareKey c = false) (hs : skipBlank (c :: rest) = d :: rest') (hd : d ≠ '.') :
    readKey (name.toList ++ c :: rest) = .ok (name, [], d :: rest') := by
  have hskip : skipBlank (name.toList ++ c :: rest) = name.toList ++ c :: rest := by
    obtain ⟨first, more, hname, hfirst⟩ := hn.exists_cons
    rw [hname, List.cons_append, skipBlank_cons (isBlank_of_isBareKey hfirst)]
  have hparts : readKeyParts maxDepth (c :: rest) = .ok ([], d :: rest') := by
    rw [maxDepth, readKeyParts]
    split
    · next h => rw [hs] at h; exact absurd (List.cons.inj h).1 hd
    · rw [hs]
  simp only [readKey, hskip, readKeyPart_append hn hc, bind, Except.bind, hparts]
  rfl

/-! ## Lines -/

theorem endLine_newline (rest : List Char) : endLine ('\n' :: rest) = .ok rest := rfl

theorem readLines_header {name : String} (hn : IsBare name) (fuel : Nat) (path : List String) (root : Members)
    (rest : List Char) :
    readLines (fuel + 1) path root ('[' :: (name.toList ++ ']' :: '\n' :: rest)) =
      (root.define name).bind fun root => readLines fuel [name] root rest := by
  obtain ⟨first, more, hname, hfirst⟩ := hn.exists_cons
  have hkey : readKey (name.toList ++ ']' :: '\n' :: rest) = .ok (name, [], ']' :: '\n' :: rest) :=
    readKey_append hn rfl rfl (by decide)
  rw [readLines, skipBlank_cons rfl]
  split
  · next h => cases h
  · next h => cases h
  · next h => cases h
  · next h =>
    rw [hname] at h
    have := (List.cons.inj (List.cons.inj h).2).1
    exact absurd this (Text.ne_of_holds hfirst rfl)
  · next h =>
    cases h
    rw [hkey]
    rfl
  · next h => exact absurd rfl (h _)

def writeSetting (e : String × Scalar) : List Char := e.1.toList ++ ' ' :: '=' :: ' ' :: (e.2.write ++ ['\n'])

theorem readLines_setting {e : String × Scalar} (hn : IsBare e.1) (hv : e.2.InRange) (fuel : Nat) (path : List String)
    (root : Members) (rest : List Char) :
    readLines (fuel + 1) path root (writeSetting e ++ rest) =
      (root.inTable path (Members.assign e.1 [] e.2.toValue)).bind fun root => readLines fuel path root rest := by
  obtain ⟨name, v⟩ := e
  have htext : writeSetting (name, v) ++ rest = name.toList ++ ' ' :: '=' :: ' ' :: (v.write ++ '\n' :: rest) := by
    simp [writeSetting]
  have hkey : readKey (name.toList ++ ' ' :: '=' :: ' ' :: (v.write ++ '\n' :: rest)) =
      .ok (name, [], '=' :: ' ' :: (v.write ++ '\n' :: rest)) := readKey_append hn rfl rfl (by decide)
  have hblank : skipBlank (' ' :: (v.write ++ '\n' :: rest)) = v.write ++ '\n' :: rest := skipBlank_write v _
  obtain ⟨first, more, hname, hfirst⟩ := hn.exists_cons
  rw [htext, readLines]
  rw [hname, List.cons_append] at hkey ⊢
  rw [skipBlank_cons (isBlank_of_isBareKey hfirst)]
  have hne {c : Char} {l : List Char} (hc : isBareKey c = false)
      (h : first :: (more ++ ' ' :: '=' :: ' ' :: (v.write ++ '\n' :: rest)) = c :: l) : False :=
    Text.ne_of_holds hfirst hc (List.cons.inj h).1
  split
  · next h => cases h
  · next h => exact (hne rfl h).elim
  · next h => exact (hne rfl h).elim
  · next h => exact (hne rfl h).elim
  · next h => exact (hne rfl h).elim
  · simp only [hkey, bind, Except.bind, expect, if_true, List.length_cons, hblank, readValue_write hv, endLine_newline]

/-! ## Tables -/

namespace Members

variable {key : String} {members : Members} (hk : key ∉ members.map Prod.fst)
include hk

theorem lookup_absent : members.lookup key = none := by
  rw [List.lookup_eq_none_iff]
  intro p hp
  have : key ≠ p.1 := fun h => hk (h ▸ List.mem_map_of_mem hp)
  simpa using this

theorem lookup_last (v : Value) : (members ++ [(key, v)]).lookup key = some v := by
  rw [List.lookup_append, lookup_absent hk]
  simp

theorem put_absent (v : Value) : members.put key v = members ++ [(key, v)] := by
  induction members with
  | nil => rfl
  | cons m rest ih =>
    rw [List.map_cons, List.mem_cons, not_or] at hk
    rw [put, if_neg (Ne.symm hk.1), ih hk.2, List.cons_append]

theorem put_last (v w : Value) : put key w (members ++ [(key, v)]) = members ++ [(key, w)] := by
  induction members with
  | nil => simp [put]
  | cons m rest ih =>
    rw [List.map_cons, List.mem_cons, not_or] at hk
    rw [List.cons_append, put, if_neg (Ne.symm hk.1), ih hk.2, List.cons_append]

end Members

/-! ## Sections -/

abbrev Section := String × List (String × Scalar)

def writeSection (s : Section) : List Char := '[' :: (s.1.toList ++ ']' :: '\n' :: s.2.flatMap writeSetting)

def write (sections : List Section) : List Char := sections.flatMap writeSection

def settingsOf (settings : List (String × Scalar)) : Members := settings.map fun e => (e.1, e.2.toValue)

def membersOf (sections : List Section) : Members := sections.map fun s => (s.1, .table .header (settingsOf s.2))

/-- Settings of different names, which need no quotes, and with values that can be read. -/
structure ArePlain (settings : List (String × Scalar)) : Prop where
  distinct : (settings.map Prod.fst).Nodup
  bare : ∀ e ∈ settings, IsBare e.1
  inRange : ∀ e ∈ settings, e.2.InRange

structure IsPlainDocument (sections : List Section) : Prop where
  distinct : (sections.map Prod.fst).Nodup
  bare : ∀ s ∈ sections, IsBare s.1
  settings : ∀ s ∈ sections, ArePlain s.2

theorem names_settingsOf (settings : List (String × Scalar)) :
    (settingsOf settings).map Prod.fst = settings.map Prod.fst := by
  rw [settingsOf, List.map_map]
  rfl

theorem names_membersOf (sections : List Section) : (membersOf sections).map Prod.fst = sections.map Prod.fst := by
  rw [membersOf, List.map_map]
  rfl

theorem inTable_last {name key : String} {done t : Members} {v : Value} (hname : name ∉ done.map Prod.fst)
    (hkey : key ∉ t.map Prod.fst) :
    Members.inTable [name] (Members.assign key [] v) (done ++ [(name, .table .header t)]) =
      .ok (done ++ [(name, .table .header (t ++ [(key, v)]))]) := by
  simp only [Members.inTable, Members.within, Members.lookup_last hname, Members.assign, Members.lookup_absent hkey,
    Option.isSome_none, Bool.false_eq_true, if_false, Except.map, Members.put_absent hkey, Members.put_last hname]

theorem notMem_of_nodup {α β : Type} {f : α → β} {before after : List α} {a : α}
    (h : ((before ++ a :: after).map f).Nodup) : f a ∉ before.map f := by
  rw [List.map_append, List.nodup_append] at h
  exact fun hmem => h.2.2 _ hmem _ List.mem_cons_self rfl

/-- Each setting costs one line of fuel. -/
theorem readLines_settings {name : String} {done : Members} (hname : name ∉ done.map Prod.fst) (rest : List Char)
    (fuel : Nat) : ∀ settings before : List (String × Scalar), ArePlain (before ++ settings) →
      readLines (fuel + settings.length) [name] (done ++ [(name, .table .header (settingsOf before))])
          (settings.flatMap writeSetting ++ rest) =
        readLines fuel [name] (done ++ [(name, .table .header (settingsOf (before ++ settings)))]) rest
  | [], before, _ => by simp
  | e :: settings, before, h => by
    have hkey : e.1 ∉ (settingsOf before).map Prod.fst := by
      rw [names_settingsOf]
      exact notMem_of_nodup h.distinct
    have hmem : e ∈ before ++ e :: settings := List.mem_append_right _ List.mem_cons_self
    have hnext : before ++ e :: settings = before ++ [e] ++ settings := by simp
    rw [List.flatMap_cons, List.append_assoc, List.length_cons, ← Nat.add_assoc,
      readLines_setting (h.bare e hmem) (h.inRange e hmem), inTable_last hname hkey, hnext]
    rw [hnext] at h
    rw [← readLines_settings hname rest fuel settings _ h]
    simp [Except.bind, settingsOf]

/-- A line for each section and one for each of its settings. -/
def lines : List Section → Nat
  | [] => 0
  | s :: sections => s.2.length + 1 + lines sections

theorem readLines_write (fuel : Nat) : ∀ (sections before : List Section) (path : List String),
    IsPlainDocument (before ++ sections) →
      readLines (fuel + 1 + lines sections) path (membersOf before) (write sections) =
        .ok (membersOf (before ++ sections))
  | [], before, path, _ => by
    rw [lines, write, List.append_nil]
    rfl
  | s :: sections, before, path, h => by
    have hname : s.1 ∉ (membersOf before).map Prod.fst := by
      rw [names_membersOf]
      exact notMem_of_nodup h.distinct
    have hmem : s ∈ before ++ s :: sections := List.mem_append_right _ List.mem_cons_self
    have hnext : before ++ s :: sections = before ++ [s] ++ sections := by simp
    have htext : write (s :: sections) =
        '[' :: (s.1.toList ++ ']' :: '\n' :: (s.2.flatMap writeSetting ++ write sections)) := by
      simp [write, writeSection]
    have hfuel : fuel + 1 + lines (s :: sections) = fuel + 1 + lines sections + s.2.length + 1 := by
      rw [lines]
      omega
    have hdefine : (membersOf before).define s.1 = .ok (membersOf before ++ [(s.1, .table .header (settingsOf []))]) := by
      rw [Members.define, Members.lookup_absent hname, Members.put_absent hname]
      rfl
    rw [htext, hfuel, readLines_header (h.bare s hmem), hdefine, Except.bind,
      readLines_settings hname _ _ s.2 [] (h.settings s hmem), hnext]
    rw [hnext] at h
    rw [← readLines_write fuel sections _ [s.1] h]
    simp [membersOf]

theorem length_le_flatMap {α β : Type} {f : α → List β} (hf : ∀ a, 1 ≤ (f a).length) (l : List α) :
    l.length ≤ (l.flatMap f).length := by
  induction l with
  | nil => exact Nat.zero_le _
  | cons a l ih =>
    have := hf a
    rw [List.flatMap_cons, List.length_append, List.length_cons]
    omega

theorem lines_le_length (sections : List Section) : lines sections ≤ (write sections).length := by
  induction sections with
  | nil => exact Nat.zero_le _
  | cons s sections ih =>
    have hsettings : s.2.length ≤ (s.2.flatMap writeSetting).length :=
      length_le_flatMap (fun e => by simp [writeSetting]; omega) s.2
    simp only [lines, write, List.flatMap_cons, List.length_append, writeSection, List.length_cons] at ih ⊢
    omega

theorem unifyLineBreaks_eq {text : List Char} (h : '\r' ∉ text) : unifyLineBreaks text = text := by
  induction text with
  | nil => rfl
  | cons c rest ih =>
    rw [List.mem_cons, not_or] at h
    rw [unifyLineBreaks, ih h.2]
    exact fun _ hc _ => h.1 hc.symm

theorem return_notMem_bare {name : String} (hn : IsBare name) : '\r' ∉ name.toList :=
  fun h => absurd (hn.2 _ h) (by decide)

theorem return_notMem_write {sections : List Section} (h : IsPlainDocument sections) : '\r' ∉ write sections := by
  have hsetting {e : String × Scalar} (hn : IsBare e.1) : '\r' ∉ writeSetting e := by
    simp [writeSetting, return_notMem_bare hn, return_notMem_scalar]
  intro hmem
  obtain ⟨s, hs, hmem⟩ := List.mem_flatMap.mp hmem
  simp only [writeSection, List.mem_cons, List.mem_append, List.mem_flatMap] at hmem
  rcases hmem with h' | h' | h' | h' | ⟨e, he, h'⟩
  · exact absurd h' (by decide)
  · exact return_notMem_bare (h.bare s hs) h'
  · exact absurd h' (by decide)
  · exact absurd h' (by decide)
  · exact hsetting ((h.settings s hs).bare e he) h'

/-- A plain document is read as its sections. -/
theorem read_write {sections : List Section} (h : IsPlainDocument sections) :
    read (String.ofList (write sections)) = .ok (membersOf sections) := by
  have hmark : dropMark (write sections) = write sections := by
    cases sections <;> rfl
  obtain ⟨fuel, hfuel⟩ : ∃ fuel, (write sections).length + 1 = fuel + 1 + lines sections :=
    ⟨(write sections).length - lines sections, by have := lines_le_length sections; omega⟩
  simp only [read, String.toList_ofList, hmark, unifyLineBreaks_eq (return_notMem_write h), hfuel]
  exact readLines_write fuel sections [] [] h

end VaultUsage.Toml
