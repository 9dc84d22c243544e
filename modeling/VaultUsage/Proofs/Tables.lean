import VaultUsage.Proofs.Layout
import VaultUsage.Proofs.SizeOrder

/-!
# Tables are read back

The cells of a row end at vertical bars, but not at one right behind a backslash (`cutFrom`). Names are written with a
backslash in front of each bar, so that a table of usage is read back whatever the names are (`tables_read_back`).
Identifiers are written as they are: a list of the catalog is read back exactly if none of them holds a bar
(`catalog_reads_back_iff`).
-/

namespace VaultUsage.Markdown

/-! ## Cutting at bars -/

/-- The pieces of a text between its vertical bars. A bar right behind a backslash does not count; `escaped` tells
whether the text itself begins behind one. -/
def cutFrom : Bool → List Char → List (List Char)
  | _, [] => [[]]
  | escaped, c :: text =>
    if c = '|' ∧ escaped = false then [] :: cutFrom false text
    else (cutFrom (c == '\\') text).modifyHead (c :: ·)

def cut (text : String) : List (List Char) := cutFrom false text.toList

/-- The number of bars that count. -/
def bars : Bool → List Char → Nat
  | _, [] => 0
  | escaped, c :: text => (if c = '|' ∧ escaped = false then 1 else 0) + bars (c == '\\') text

/-- Whether what follows a text stands right behind a backslash. -/
def endsEscaped (escaped : Bool) (text : List Char) : Bool := text.foldl (fun _ c => c == '\\') escaped

theorem length_cutFrom (text : List Char) : ∀ escaped, (cutFrom escaped text).length = bars escaped text + 1 := by
  induction text with
  | nil =>
    intro escaped
    rfl
  | cons c text ih =>
    intro escaped
    unfold cutFrom bars
    by_cases hc : c = '|' ∧ escaped = false
    · obtain ⟨rfl, rfl⟩ := hc
      simp [ih]
      omega
    · simp [hc, ih]

theorem bars_append (text rest : List Char) : ∀ escaped,
    bars escaped (text ++ rest) = bars escaped text + bars (endsEscaped escaped text) rest := by
  induction text with
  | nil =>
    intro escaped
    simp [bars, endsEscaped]
  | cons c text ih =>
    intro escaped
    rw [List.cons_append, bars, bars, ih, Nat.add_assoc]
    rfl

theorem cutFrom_piece {piece : List Char} (rest : List Char) : ∀ {escaped}, bars escaped piece = 0 →
    endsEscaped escaped piece = false → cutFrom escaped (piece ++ '|' :: rest) = piece :: cutFrom false rest := by
  induction piece with
  | nil =>
    intro escaped _ hend
    obtain rfl : escaped = false := hend
    simp [cutFrom]
  | cons c piece ih =>
    intro escaped hbars hend
    have hc : ¬(c = '|' ∧ escaped = false) := by
      intro hc
      rw [bars, if_pos hc] at hbars
      omega
    rw [bars, if_neg hc, Nat.zero_add] at hbars
    rw [List.cons_append, cutFrom, if_neg hc, ih hbars hend]
    rfl

/-! ## Escaped names -/

def escape (name : List Char) : List Char := name.flatMap fun c => if c = '|' then ['\\', '|'] else [c]

/-- A backslash in front of a bar is taken away. -/
def unescape : List Char → List Char
  | '\\' :: '|' :: text => '|' :: unescape text
  | c :: text => c :: unescape text
  | [] => []

@[simp] theorem toList_escapeCell (name : String) : (escapeCell name).toList = escape name.toList := by
  simp [escapeCell, escape]

theorem bars_escape (name : List Char) : ∀ escaped, bars escaped (escape name) = 0 := by
  induction name with
  | nil =>
    intro escaped
    rfl
  | cons c name ih =>
    intro escaped
    unfold escape at *
    by_cases hc : c = '|'
    · subst hc
      simp [bars, ih]
    · simp [bars, hc, ih]

theorem unescape_cons {c : Char} {text : List Char} (h : ¬(c = '\\' ∧ text.head? = some '|')) :
    unescape (c :: text) = c :: unescape text := by
  cases text with
  | nil => simp [unescape]
  | cons d text =>
    rw [unescape]
    intro rest hc heq
    exact h ⟨hc, by rw [heq]; rfl⟩

theorem unescape_escape (name : List Char) : unescape (escape name) = name := by
  induction name with
  | nil => rfl
  | cons c name ih =>
    by_cases hc : c = '|'
    · subst hc
      have hcons : escape ('|' :: name) = '\\' :: '|' :: escape name := by simp [escape]
      rw [hcons, unescape, ih]
    · have hcons : escape (c :: name) = c :: escape name := by simp [escape, hc]
      rw [hcons, unescape_cons, ih]
      rintro ⟨-, hhead⟩
      -- no escaped text begins with a bar
      cases name with
      | nil => simp [escape] at hhead
      | cons d name =>
        by_cases hd : d = '|' <;> simp [escape, hd] at hhead

/-! ## Cells -/

def cell (text : List Char) : List Char := ' ' :: (text ++ [' '])

/-- A text without the character on each side of it. -/
def inside? (c : Char) : List Char → Option (List Char)
  | [] => none
  | d :: text => if d = c ∧ text.getLast? = some c then some text.dropLast else none

@[simp] theorem inside?_cell (text : List Char) : inside? ' ' (cell text) = some text := by
  simp [inside?, cell]

@[simp] theorem bars_cell (text : List Char) : bars false (cell text) = bars false text := by
  simp [cell, bars, bars_append]

@[simp] theorem endsEscaped_cell (escaped : Bool) (text : List Char) : endsEscaped escaped (cell text) = false := by
  simp [endsEscaped, cell]

theorem bars_of_notMem {text : List Char} (h : '|' ∉ text) : ∀ escaped, bars escaped text = 0 := by
  induction text with
  | nil =>
    intro escaped
    rfl
  | cons c text ih =>
    intro escaped
    simp only [List.mem_cons, not_or] at h
    simp [bars, Ne.symm h.1, ih h.2]

theorem bars_bar (text : List Char) : bars false ('|' :: text) = bars false text + 1 := by
  simp [bars, Nat.add_comm]

theorem cutFrom_cell {text : List Char} (h : bars false text = 0) (rest : List Char) :
    cutFrom false (cell text ++ '|' :: rest) = cell text :: cutFrom false rest := by
  apply cutFrom_piece
  · rw [bars_cell, h]
  · exact endsEscaped_cell false text

/-! ## Usage tables -/

/-- Names, numbers of files and sizes from the pieces of a table with three columns: after each piece between two rows
come the cells of a row. -/
def readUsage? : List (List Char) → Option (List (String × String × String))
  | [_] => some []
  | _ :: name :: files :: size :: rest => do
    let name ← inside? ' ' name
    let files ← inside? ' ' files
    let size ← inside? ' ' size
    let rows ← readUsage? rest
    return (.ofList (unescape name), .ofList files, .ofList size) :: rows
  | _ => none

theorem readUsage?_modifyHead (f : List Char → List Char) (pieces : List (List Char)) :
    readUsage? (pieces.modifyHead f) = readUsage? pieces := by
  rcases pieces with _ | ⟨gap, _ | ⟨name, _ | ⟨files, _ | ⟨size, rest⟩⟩⟩⟩ <;> rfl

theorem bar_notMem_toString (n : Nat) : '|' ∉ (toString n).toList := by
  intro h
  rw [Nat.toString_eq_ofList_toDigits, String.toList_ofList] at h
  exact absurd (Text.isDigit_of_mem_toDigits h) (by decide)

theorem bar_notMem_render (sizes : SizeFormat) (bytes : UInt64) : '|' ∉ (sizes.render bytes).toList := by
  obtain ⟨_, -, n, k, ⟨symbol, hsymbol, htext⟩, -⟩ := sizes.exists_shows bytes
  have hsymbols : ∀ u : UnitSystem, ∀ symbol ∈ u.symbols, '|' ∉ symbol.toList := by
    intro u
    cases u <;> decide
  intro h
  rw [htext, String.toList_append, String.toList_append, List.append_assoc, List.mem_append] at h
  rcases h with h | h
  · rcases Numeral.mem_text h with h | h <;> exact absurd h (by decide)
  · rcases List.mem_cons.mp h with h | h
    · exact absurd h (by decide)
    · exact hsymbols _ _ (List.mem_of_getElem? hsymbol) h

theorem cut_usageRow (sizes : SizeFormat) (name : String) (u : Usage) (body : String) :
    cut (usageRow sizes name u ++ body) =
      [] :: cell (escape name.toList) :: cell (toString u.count.toNat).toList ::
        cell (sizes.render u.size).toList :: (cut body).modifyHead ('\n' :: ·) := by
  have hrow : (usageRow sizes name u ++ body).toList =
      '|' :: (cell (escape name.toList) ++ '|' :: (cell (toString u.count.toNat).toList ++
        '|' :: (cell (sizes.render u.size).toList ++ '|' :: '\n' :: body.toList))) := by
    simp [usageRow, cell]
  rw [cut, hrow, cutFrom, if_pos ⟨rfl, rfl⟩, cutFrom_cell (bars_escape _ _),
    cutFrom_cell (bars_of_notMem (bar_notMem_toString _) _), cutFrom_cell (bars_of_notMem (bar_notMem_render _ _) _)]
  rfl

/-- The text behind the rule of a table has four bars for each entry, and shows the entries in their order. -/
structure Lists (sizes : SizeFormat) (body : String) (entries : List (String × Usage)) : Prop where
  cuts : (cut body).length = 4 * entries.length + 1
  cells : readUsage? (cut body) = some (entries.map fun e => (e.1, toString e.2.count.toNat, sizes.render e.2.size))

theorem Lists.cons {sizes : SizeFormat} {body : String} {entries : List (String × Usage)}
    (h : Lists sizes body entries) (e : String × Usage) :
    Lists sizes (usageRow sizes e.1 e.2 ++ body) (e :: entries) where
  cuts := by
    have hcuts := h.cuts
    rw [cut_usageRow]
    simp only [List.length_cons, List.length_modifyHead]
    omega
  cells := by
    rw [cut_usageRow, readUsage?, readUsage?_modifyHead, h.cells]
    simp only [inside?_cell, Option.bind_eq_bind, Option.bind_some, unescape_escape, String.ofList_toList]
    rfl

theorem lists_rows (sizes : SizeFormat) (entries : List (String × Usage)) :
    Lists sizes (String.join (entries.map fun e => usageRow sizes e.1 e.2) ++ "\n") entries := by
  induction entries with
  | nil =>
    have hcut : cut "\n" = [['\n']] := by decide
    rw [List.map_nil, String.join_nil, String.empty_append]
    exact ⟨by rw [hcut]; rfl, by rw [hcut]; rfl⟩
  | cons e entries ih =>
    rw [List.map_cons, String.join_cons, String.append_assoc]
    exact ih.cons e

theorem escapeCell_injective : Function.Injective escapeCell := by
  intro name name' h
  have hlists := congrArg (fun text => unescape text.toList) h
  simp only [toList_escapeCell, unescape_escape] at hlists
  exact String.toList_injective hlists

/-! ### Both tables -/

theorem breakdownTable_eq (sizes : SizeFormat) (c : Category) {entries : List (String × Usage)} (h : entries ≠ []) :
    breakdownTable sizes c entries = "## By " ++ c.label ++ "\n\n" ++
      "| " ++ c.label ++ " | Files | Size |\n|:---|---:|---:|\n" ++
      (String.join ((Breakdown.sort entries).map fun e => usageRow sizes e.1 e.2) ++ "\n") := by
  simp only [breakdownTable, List.isEmpty_iff, h, if_false, usageTable, usageHeader, String.append_assoc]

/-- Behind its rule, a table of usage is read back as the names, numbers of files and sizes that it shows, whatever the
names are. -/
theorem tables_read_back (sizes : SizeFormat) :
    (∀ rows : List Row, rows ≠ [] → ∃ body,
      vaultTable sizes rows = "| Vault | Files | Size |\n|:---|---:|---:|\n" ++ body ∧
        Lists sizes body (rows.map fun r => (r.vaultName, r.usage))) ∧
    (∀ (c : Category) (entries : List (String × Usage)), entries ≠ [] → ∃ body,
      breakdownTable sizes c entries = "## By " ++ c.label ++ "\n\n" ++
        "| " ++ c.label ++ " | Files | Size |\n|:---|---:|---:|\n" ++ body ∧
        Lists sizes body (Breakdown.sort entries) ∧ (Breakdown.sort entries).Perm entries) ∧
    Function.Injective escapeCell := by
  refine ⟨fun rows hrows => ?_, fun c entries hentries => ?_, escapeCell_injective⟩
  · have hlists := lists_rows sizes (rows.map fun r => (r.vaultName, r.usage))
    rw [List.map_map] at hlists
    exact ⟨_, vaultTable_eq sizes hrows, hlists⟩
  · exact ⟨_, breakdownTable_eq sizes c hentries, lists_rows sizes _, List.mergeSort_perm _ _⟩

/-- Names of bars and backslashes, and one without a character. -/
theorem tables_read_back_backslashes :
    let rows : List Row := [⟨"a\\|", 1, 2⟩, ⟨"", 0, 0⟩, ⟨"|\\", 3, 2048⟩]
    (∃ body, vaultTable {} rows = "| Vault | Files | Size |\n|:---|---:|---:|\n" ++ body ∧ (cut body).length = 13 ∧
      readUsage? (cut body) = some [("a\\|", "1", "2 B"), ("", "0", "0 B"), ("|\\", "3", "2.0 KiB")]) ∧
    ∃ body, breakdownTable {} .fileType [("\\||\\", ⟨1, 2⟩)] =
        "## By File Type\n\n| File Type | Files | Size |\n|:---|---:|---:|\n" ++ body ∧ (cut body).length = 5 ∧
      readUsage? (cut body) = some [("\\||\\", "1", "2 B")] := by
  intro rows
  constructor
  · obtain ⟨body, htext, hlists⟩ := (tables_read_back {}).1 rows (by simp [rows])
    exact ⟨body, htext, hlists.cuts, hlists.cells.trans (by decide +kernel)⟩
  · obtain ⟨body, htext, hlists, -⟩ := (tables_read_back {}).2.1 .fileType [("\\||\\", ⟨1, 2⟩)] (by simp)
    rw [Breakdown.sort, List.mergeSort_singleton] at hlists
    exact ⟨body, htext, hlists.cuts, hlists.cells.trans (by decide +kernel)⟩

/-! ## The catalog -/

def backquote : Char := '\x60'

/-- The vaults from the pieces of a table with two columns. -/
def readCatalog? : List (List Char) → Option (List Vault)
  | [_] => some []
  | _ :: name :: id :: rest => do
    let name ← inside? ' ' name
    let id ← (inside? ' ' id).bind (inside? backquote)
    let vaults ← readCatalog? rest
    return { id := .ofList (unescape id), name := .ofList (unescape name) } :: vaults
  | _ => none

theorem readCatalog?_modifyHead (f : List Char → List Char) (pieces : List (List Char)) :
    readCatalog? (pieces.modifyHead f) = readCatalog? pieces := by
  rcases pieces with _ | ⟨gap, _ | ⟨name, _ | ⟨id, rest⟩⟩⟩ <;> rfl

def quoted (id : List Char) : List Char := backquote :: (id ++ [backquote])

@[simp] theorem inside?_quoted (id : List Char) : inside? backquote (quoted id) = some id := by
  simp [inside?, quoted]

@[simp] theorem bars_quoted (id : List Char) : bars false (quoted id) = bars false id := by
  simp [quoted, bars, bars_append, backquote]

theorem toList_catalogRow (v : Vault) (body : String) :
    (catalogRow v ++ body).toList =
      '|' :: (cell (escape v.name.toList) ++ '|' :: (cell (quoted v.id.toList) ++ '|' :: '\n' :: body.toList)) := by
  simp [catalogRow, cell, quoted, backquote]

theorem length_cut_catalogRow (v : Vault) (body : String) :
    (cut (catalogRow v ++ body)).length = bars false v.id.toList + 3 + (cut body).length := by
  have hend : bars false ('\n' :: body.toList) = bars false body.toList := by simp [bars]
  simp only [cut, length_cutFrom, toList_catalogRow, bars_bar, bars_append, endsEscaped_cell, bars_cell, bars_escape,
    bars_quoted, hend]
  omega

theorem cut_catalogRow {v : Vault} (h : bars false v.id.toList = 0) (body : String) :
    cut (catalogRow v ++ body) =
      [] :: cell (escape v.name.toList) :: cell (quoted v.id.toList) :: (cut body).modifyHead ('\n' :: ·) := by
  rw [cut, toList_catalogRow, cutFrom, if_pos ⟨rfl, rfl⟩, cutFrom_cell (bars_escape _ _),
    cutFrom_cell ((bars_quoted _).trans h)]
  rfl

theorem length_cut_catalog (vaults : List Vault) :
    (cut (String.join (vaults.map catalogRow))).length =
      3 * vaults.length + (vaults.map fun v => bars false v.id.toList).sum + 1 := by
  induction vaults with
  | nil => rfl
  | cons v vaults ih =>
    rw [List.map_cons, String.join_cons, length_cut_catalogRow, ih]
    simp only [List.length_cons, List.map_cons, List.sum_cons]
    omega

theorem readCatalog?_catalog {vaults : List Vault} (h : ∀ v ∈ vaults, bars false v.id.toList = 0) :
    readCatalog? (cut (String.join (vaults.map catalogRow))) =
      some (vaults.map fun v => { v with id := .ofList (unescape v.id.toList) }) := by
  induction vaults with
  | nil => rfl
  | cons v vaults ih =>
    rw [List.map_cons, String.join_cons, cut_catalogRow (h v List.mem_cons_self), readCatalog?,
      readCatalog?_modifyHead, ih fun w hw => h w (List.mem_cons_of_mem v hw)]
    simp only [inside?_cell, inside?_quoted, Option.bind_eq_bind, Option.bind_some, unescape_escape,
      String.ofList_toList]
    rfl

/-! ### Identifiers with bars -/

theorem unescape_of_notMem {text : List Char} (h : '|' ∉ text) : unescape text = text := by
  induction text with
  | nil => rfl
  | cons c text ih =>
    simp only [List.mem_cons, not_or] at h
    rw [unescape_cons, ih h.2]
    rintro ⟨-, hhead⟩
    exact h.2 (List.mem_of_mem_head? hhead)

theorem bars_of_head {text : List Char} (h : text.head? ≠ some '|') (escaped : Bool) :
    bars escaped text = bars false text := by
  cases text with
  | nil => rfl
  | cons c text =>
    have hc : c ≠ '|' := fun hc => h (by rw [hc]; rfl)
    simp [bars, hc]

/-- A text that is read as itself has no bar behind a backslash, and so none at all if no bar counts. -/
theorem bar_notMem_of_unescape {text : List Char} (h : unescape text = text) (hbars : bars false text = 0) :
    '|' ∉ text := by
  fun_induction unescape text with
  | case1 text ih => simp at h
  | case2 c text hnot ih =>
    have hc : c ≠ '|' := by
      rintro rfl
      simp [bars] at hbars
    have hrest : bars (c == '\\') text = 0 := by simpa [bars, hc] using hbars
    have hplain : bars false text = 0 := by
      by_cases hslash : c = '\\'
      · have hhead : text.head? ≠ some '|' := by
          intro hhead
          obtain ⟨rest, rfl⟩ := List.head?_eq_some_iff.mp hhead
          exact hnot rest hslash rfl
        rwa [bars_of_head hhead] at hrest
      · rwa [beq_false_of_ne hslash] at hrest
    simp only [List.mem_cons, not_or]
    exact ⟨Ne.symm hc, ih (List.cons.inj h).2 hplain⟩
  | case3 => simp

/-- A list of the catalog has three bars for each vault and is read back as these vaults exactly if no identifier holds
a bar: unlike names, identifiers are not escaped. -/
theorem catalog_reads_back_iff (vaults : List Vault) (h : vaults ≠ []) :
    ∃ body, catalog vaults = "# Vaults\n\n| Name | Vault ID |\n|:---|:---|\n" ++ body ∧
      (cut body).length = 3 * vaults.length + (vaults.map fun v => bars false v.id.toList).sum + 1 ∧
      ((cut body).length = 3 * vaults.length + 1 ∧ readCatalog? (cut body) = some vaults ↔
        ∀ v ∈ vaults, '|' ∉ v.id.toList) := by
  refine ⟨String.join (vaults.map catalogRow), ?_, length_cut_catalog vaults, ?_⟩
  · simp only [catalog, List.isEmpty_iff, h, if_false, ← String.append_assoc]
    rfl
  constructor
  · rintro ⟨hlength, hread⟩ v hv
    have hbars : ∀ v ∈ vaults, bars false v.id.toList = 0 := by
      rw [length_cut_catalog] at hlength
      have hsum : (vaults.map fun v => bars false v.id.toList).sum = 0 := by omega
      intro v hv
      exact List.sum_eq_zero_iff.mp hsum _ (List.mem_map_of_mem hv)
    rw [readCatalog?_catalog hbars] at hread
    have hsame := List.map_inj_left.mp ((Option.some.inj hread).trans (List.map_id vaults).symm) v hv
    apply bar_notMem_of_unescape _ (hbars v hv)
    have hid := congrArg (fun v : Vault => v.id.toList) hsame
    simpa using hid
  · intro hplain
    have hbars : ∀ v ∈ vaults, bars false v.id.toList = 0 := fun v hv => bars_of_notMem (hplain v hv) false
    constructor
    · have hsum : (vaults.map fun v => bars false v.id.toList).sum = 0 :=
        List.sum_eq_zero_iff.mpr (List.forall_mem_map.mpr hbars)
      rw [length_cut_catalog, hsum]
    · rw [readCatalog?_catalog hbars]
      refine congrArg some ((List.map_inj_left.mpr fun v hv => ?_).trans (List.map_id vaults))
      rw [unescape_of_notMem (hplain v hv), String.ofList_toList]
      rfl

theorem catalog_reads_back_iff_escaped :
    let vaults : List Vault := [⟨"a", "n|"⟩, ⟨"", "\\"⟩]
    ∃ body, catalog vaults = "# Vaults\n\n| Name | Vault ID |\n|:---|:---|\n" ++ body ∧ (cut body).length = 7 ∧
      readCatalog? (cut body) = some vaults := by
  intro vaults
  obtain ⟨body, htext, -, hiff⟩ := catalog_reads_back_iff vaults (by simp [vaults])
  exact ⟨body, htext, hiff.mpr (by decide)⟩

/-- One bar in an identifier is a fourth bar in the row. Behind a backslash it adds none, but the backslash is lost. -/
theorem catalog_bar_in_identifier :
    (∃ body, catalog [⟨"a|b", "n"⟩] = "# Vaults\n\n| Name | Vault ID |\n|:---|:---|\n" ++ body ∧
      (cut body).length = 5) ∧
    ∃ body, catalog [⟨"a\\|b", "n"⟩] = "# Vaults\n\n| Name | Vault ID |\n|:---|:---|\n" ++ body ∧
      readCatalog? (cut body) = some [⟨"a|b", "n"⟩] :=
  ⟨⟨"| n | `a|b` |\n", by decide, by decide⟩, "| n | `a\\|b` |\n", by decide, by decide⟩

end VaultUsage.Markdown
