import VaultUsage.Json.Reader
import VaultUsage.Proofs.Json.Scanning

/-!
# Texts of the grammar are read

What is read of a well-formed text shows its tree (`Document.read_shows`), and of a text that stands for a value it
holds this value, member by member and in the order of the text (`Document.read_holds`). The proof goes along the
grammar; the fuel of a reader is three times what is left of the text, and two more where items or members are to come.
-/

namespace VaultUsage.Json

/-! ## What a tree holds -/

mutual

inductive Source.Holds : Source → Json → Prop where
  | null {p : Position} : Source.Holds (.null p) .null
  | boolean {b : Bool} {p : Position} : Source.Holds (.boolean b p) (.boolean b)
  | number {n : Number} {p : Position} : Source.Holds (.number (.ok n) p) (.number n)
  | string {s : String} {p : Position} : Source.Holds (.string (.ok s) p) (.string s)
  | array {p : Position} {items : Items} {values : List Json} :
    items.Hold values → Source.Holds (.array p items) (.array values)
  | object {p : Position} {members : Members} {values : List (String × Json)} :
    members.Hold values → Source.Holds (.object p members) (.object values)

inductive Items.Hold : Items → List Json → Prop where
  | closed {p : Position} : Items.Hold (.closed p) []
  | item {p : Position} {s : Source} {rest : Items} {v : Json} {values : List Json} :
    s.Holds v → rest.Hold values → Items.Hold (.item p s rest) (v :: values)

inductive Members.Hold : Members → List (String × Json) → Prop where
  | closed {p : Position} : Members.Hold (.closed p) []
  | member {name : String} {p : Position} {s : Source} {rest : Members} {v : Json} {values : List (String × Json)} :
    s.Holds v → rest.Hold values → Members.Hold (.member (.ok name) p s rest) ((name, v) :: values)

end

mutual

/-- The syntax is good, and the places apart it is as in the tree. -/
inductive Source.Shows : Source → Tree → Prop where
  | null {p : Position} : Source.Shows (.null p) .null
  | boolean {b : Bool} {p : Position} : Source.Shows (.boolean b p) (.boolean b)
  | number {n : Except Error Number} {m : Option Number} {p : Position} :
    n.toOption = m → Source.Shows (.number n p) (.number m)
  | string {s : Except Error String} {t : Option String} {p : Position} :
    s.toOption = t → Source.Shows (.string s p) (.string t)
  | array {p : Position} {items : Items} {trees : List Tree} :
    items.Show trees → Source.Shows (.array p items) (.array trees)
  | object {p : Position} {members : Members} {trees : List (Option String × Tree)} :
    members.Show trees → Source.Shows (.object p members) (.object trees)

inductive Items.Show : Items → List Tree → Prop where
  | closed {p : Position} : Items.Show (.closed p) []
  | item {p : Position} {s : Source} {rest : Items} {t : Tree} {trees : List Tree} :
    s.Shows t → rest.Show trees → Items.Show (.item p s rest) (t :: trees)

inductive Members.Show : Members → List (Option String × Tree) → Prop where
  | closed {p : Position} : Members.Show (.closed p) []
  | member {name : Except Error String} {n : Option String} {p : Position} {s : Source} {rest : Members} {t : Tree}
    {trees : List (Option String × Tree)} :
    name.toOption = n → s.Shows t → rest.Show trees → Members.Show (.member name p s rest) ((n, t) :: trees)

end

mutual

theorem Source.Shows.holds {s : Source} {v : Json} (h : s.Shows v.tree) : s.Holds v := by
  cases v with
  | null =>
    cases h
    exact .null
  | boolean =>
    cases h
    exact .boolean
  | number =>
    cases h with
    | number h =>
      rw [toOption_eq_some] at h
      subst h
      exact .number
  | string =>
    cases h with
    | string h =>
      rw [toOption_eq_some] at h
      subst h
      exact .string
  | array items =>
    cases h with
    | array h => exact .array h.hold
  | object members =>
    cases h with
    | object h => exact .object h.hold

theorem Items.Show.hold {items : Items} {values : List Json} (h : items.Show (itemTrees values)) :
    items.Hold values := by
  cases values with
  | nil =>
    cases h
    exact .closed
  | cons v values =>
    cases h with
    | item hs hrest => exact .item hs.holds hrest.hold

theorem Members.Show.hold {members : Members} {values : List (String × Json)}
    (h : members.Show (memberTrees values)) : members.Hold values := by
  cases values with
  | nil =>
    cases h
    exact .closed
  | cons m values =>
    cases h with
    | member hn hs hrest =>
      rw [toOption_eq_some] at hn
      subst hn
      exact .member hs.holds hrest.hold

end

mutual

theorem Source.Holds.shows {s : Source} {v : Json} (h : s.Holds v) : s.Shows v.tree := by
  cases h with
  | null => exact .null
  | boolean => exact .boolean
  | number => exact .number rfl
  | string => exact .string rfl
  | array h => exact .array h.shows
  | object h => exact .object h.shows

theorem Items.Hold.shows {items : Items} {values : List Json} (h : items.Hold values) :
    items.Show (itemTrees values) := by
  cases h with
  | closed => exact .closed
  | item hs hrest => exact .item hs.shows hrest.shows

theorem Members.Hold.shows {members : Members} {values : List (String × Json)} (h : members.Hold values) :
    members.Show (memberTrees values) := by
  cases h with
  | closed => exact .closed
  | member hs hrest => exact .member rfl hs.shows hrest.shows

end

mutual

theorem Source.Shows.unique {s : Source} {t t' : Tree} (h : s.Shows t) (h' : s.Shows t') : t = t' := by
  cases h with
  | null =>
    cases h'
    rfl
  | boolean =>
    cases h'
    rfl
  | number h =>
    cases h' with
    | number h' => exact congrArg Tree.number (h.symm.trans h')
  | string h =>
    cases h' with
    | string h' => exact congrArg Tree.string (h.symm.trans h')
  | array h =>
    cases h' with
    | array h' => exact congrArg Tree.array (h.unique h')
  | object h =>
    cases h' with
    | object h' => exact congrArg Tree.object (h.unique h')

theorem Items.Show.unique {items : Items} {trees trees' : List Tree} (h : items.Show trees) (h' : items.Show trees') :
    trees = trees' := by
  cases h with
  | closed =>
    cases h'
    rfl
  | item hs hrest =>
    cases h' with
    | item hs' hrest' => rw [hs.unique hs', hrest.unique hrest']

theorem Members.Show.unique {members : Members} {trees trees' : List (Option String × Tree)}
    (h : members.Show trees) (h' : members.Show trees') : trees = trees' := by
  cases h with
  | closed =>
    cases h'
    rfl
  | member hn hs hrest =>
    cases h' with
    | member hn' hs' hrest' => rw [← hn, ← hn', hs.unique hs', hrest.unique hrest']

end

mutual

theorem Source.Shows.skip {s : Source} {t : Tree} (h : s.Shows t) : s.skip = .ok () := by
  cases h with
  | array h => exact h.skip
  | object h => exact h.skip
  | _ => rfl

theorem Items.Show.skip {items : Items} {trees : List Tree} (h : items.Show trees) : items.skip = .ok () := by
  cases h with
  | closed => rfl
  | item hs hrest => rw [Items.skip, hs.skip, hrest.skip]

theorem Members.Show.skip {members : Members} {trees : List (Option String × Tree)} (h : members.Show trees) :
    members.skip = .ok () := by
  cases h with
  | closed => rfl
  | member _ hs hrest => rw [Members.skip, hs.skip, hrest.skip]

end

/-! ## Lengths -/

theorem IsDigits.length_lt {text digits rest : List Char} (h : IsDigits text digits rest) :
    rest.length < text.length := by
  have := List.length_pos_iff.mpr h.nonempty
  rw [h.text_eq, List.length_append]
  omega

theorem IsFraction.length_le {text rest : List Char} {fraction : Option (List Char)}
    (h : IsFraction text fraction rest) : rest.length ≤ text.length := by
  cases h with
  | none => exact Nat.le_refl _
  | some h => exact Nat.le_of_lt (Nat.lt_succ_of_lt h.length_lt)

theorem IsSign.length_le {text rest : List Char} {negative : Bool} (h : IsSign text negative rest) :
    rest.length ≤ text.length := by
  cases h <;> simp

theorem IsExponent.length_le {text rest : List Char} {exponent : Option (Bool × List Char)}
    (h : IsExponent text exponent rest) : rest.length ≤ text.length := by
  cases h with
  | none => exact Nat.le_refl _
  | some _ hs hd =>
    have := hs.length_le
    have := hd.length_lt
    rw [List.length_cons]
    omega

theorem IsUnsigned.length_lt {text rest : List Char} {l : Numeral} (h : IsUnsigned text l rest) :
    rest.length < text.length := by
  cases h with
  | mk hw _ hf he =>
    have := hw.length_lt
    have := hf.length_le
    have := he.length_le
    omega

theorem HasPieces.length_lt {text rest : List Char} {pieces : List Piece} (h : HasPieces text pieces rest) :
    rest.length < text.length := by
  induction h with
  | closed => exact Nat.lt_succ_self _
  | plain _ _ _ _ ih => exact Nat.lt_succ_of_lt ih
  | short _ _ ih => exact Nat.lt_succ_of_lt (Nat.lt_succ_of_lt ih)
  | unit _ _ ih => simp only [List.length_cons]; omega

theorem HasString.length_lt {text rest : List Char} {s : Option String} (h : HasString text s rest) :
    rest.length < text.length := by
  obtain ⟨pieces, hp, -⟩ := h
  exact hp.length_lt

theorem IsLead.length_le {first : Bool} {text rest : List Char} (h : IsLead first text rest) :
    rest.length ≤ text.length := by
  cases h with
  | first h => exact h.length_le
  | next h h' =>
    have := h.length_le
    have := h'.length_le
    rw [List.length_cons] at *
    omega

mutual

theorem HasTree.length_lt {text rest : List Char} {t : Tree} (h : HasTree text t rest) :
    rest.length < text.length := by
  cases h with
  | null => simp only [List.length_cons]; omega
  | trueWord => simp only [List.length_cons]; omega
  | falseWord => simp only [List.length_cons]; omega
  | number h _ =>
    cases h with
    | positive _ h => exact h.length_lt
    | negative _ h => exact Nat.lt_succ_of_lt h.length_lt
  | string h => exact Nat.lt_succ_of_lt h.length_lt
  | array h => exact Nat.lt_succ_of_lt h.length_lt
  | object h => exact Nat.lt_succ_of_lt h.length_lt

theorem HasItems.length_lt {first : Bool} {text rest : List Char} {items : List Tree}
    (h : HasItems first text items rest) : rest.length < text.length := by
  cases h with
  | closed h => exact h.length_le
  | item hl hv hr =>
    have := hl.length_le
    have := hv.length_lt
    have := hr.length_lt
    omega

theorem HasMembers.length_lt {first : Bool} {text rest : List Char} {members : List (Option String × Tree)}
    (h : HasMembers first text members rest) : rest.length < text.length := by
  cases h with
  | closed h => exact h.length_le
  | member hl hs hc hg hv hr =>
    have := hl.length_le
    have := hs.length_lt
    have := hc.length_le
    have := hg.length_le
    have := hv.length_lt
    have := hr.length_lt
    simp only [List.length_cons] at *
    omega

end

/-! ## Where values start -/

theorem not_isSpace_of_isDigit {c : Char} (h : Text.isDigit c = true) : Cursor.isSpace c = false := by
  cases hs : Cursor.isSpace c with
  | false => rfl
  | true =>
    simp only [Cursor.isSpace, Bool.or_eq_true, beq_iff_eq] at hs
    rcases hs with ((rfl | rfl) | rfl) | rfl
    all_goals exact absurd h (by decide)

theorem IsUnsigned.head {text rest : List Char} {l : Numeral} (h : IsUnsigned text l rest) :
    ∃ c t, text = c :: t ∧ Text.isDigit c = true := by
  cases h with
  | mk hd =>
    obtain ⟨rfl, hne, hall, -⟩ := hd
    obtain ⟨d, digits, rfl⟩ := List.exists_cons_of_ne_nil hne
    exact ⟨d, _, rfl, hall d List.mem_cons_self⟩

/-- A value starts with neither white space nor the end of an array. -/
theorem HasTree.head {text rest : List Char} {t : Tree} (h : HasTree text t rest) :
    ∃ c t, text = c :: t ∧ Cursor.isSpace c = false ∧ c ≠ ']' := by
  cases h with
  | number h _ =>
    cases h with
    | negative => exact ⟨_, _, rfl, rfl, by decide⟩
    | positive _ h =>
      obtain ⟨d, t, rfl, hd⟩ := h.head
      refine ⟨d, t, rfl, not_isSpace_of_isDigit hd, ?_⟩
      rintro rfl
      exact absurd hd (by decide)
  | _ => exact ⟨_, _, rfl, rfl, by decide⟩

/-! ## Readers -/

section
variable (fuel : Nat) (p : Position)

theorem readItems_closed {first : Bool} {text rest : List Char} (h : IsGap text (']' :: rest)) :
    ∃ q q', readItems (fuel + 1) first ⟨text, p⟩ = (.closed q, some ⟨rest, q'⟩) := by
  obtain ⟨q, hq⟩ := skipSpace_eq h (by simp [Cursor.isSpace]) p
  rw [readItems, hq]
  exact ⟨_, _, rfl⟩

theorem readItems_lead {first : Bool} {text rest : List Char} (h : IsLead first text rest)
    (hr : ∃ c t, rest = c :: t ∧ Cursor.isSpace c = false ∧ c ≠ ']') :
    ∃ q, readItems (fuel + 1) first ⟨text, p⟩ = readItem fuel ⟨rest, q⟩ := by
  obtain ⟨c, t, rfl, hspace, hend⟩ := hr
  have hhead : ∀ d ∈ (c :: t).head?, Cursor.isSpace d = false := by simpa using hspace
  cases h with
  | first h =>
    obtain ⟨q, hq⟩ := skipSpace_eq h hhead p
    refine ⟨q, ?_⟩
    rw [readItems, hq]
    dsimp only
    split
    · next he => cases he
    · next he => exact absurd (List.cons.inj he).1 hend
    · rfl
  | next h h' =>
    obtain ⟨q, hq⟩ := skipSpace_eq h (by simp [Cursor.isSpace]) p
    obtain ⟨q', hq'⟩ := skipSpace_eq h' hhead { q with column := q.column + 1 }
    refine ⟨q', ?_⟩
    rw [readItems, hq]
    simp [advance_cons, hq', hend]

theorem readMembers_closed {first : Bool} {text rest : List Char} (h : IsGap text ('\x7d' :: rest)) :
    ∃ q q', readMembers (fuel + 1) first ⟨text, p⟩ = (.closed q, some ⟨rest, q'⟩) := by
  obtain ⟨q, hq⟩ := skipSpace_eq h (by simp [Cursor.isSpace]) p
  rw [readMembers, hq]
  exact ⟨_, _, rfl⟩

theorem readMembers_lead {first : Bool} {text rest : List Char} (h : IsLead first text ('"' :: rest)) :
    ∃ q, readMembers (fuel + 1) first ⟨text, p⟩ = readMember fuel ⟨'"' :: rest, q⟩ := by
  have hhead : ∀ d ∈ ('"' :: rest).head?, Cursor.isSpace d = false := by simp [Cursor.isSpace]
  cases h with
  | first h =>
    obtain ⟨q, hq⟩ := skipSpace_eq h hhead p
    refine ⟨q, ?_⟩
    rw [readMembers, hq]
    rfl
  | next h h' =>
    obtain ⟨q, hq⟩ := skipSpace_eq h (by simp [Cursor.isSpace]) p
    obtain ⟨q', hq'⟩ := skipSpace_eq h' hhead { q with column := q.column + 1 }
    refine ⟨q', ?_⟩
    rw [readMembers, hq]
    simp [advance_cons, hq']

theorem readValue_quote (text : List Char) :
    readValue (fuel + 1) ⟨'"' :: text, p⟩ = .ofString (scanString (p.after '"') none (.ok []) text) :=
  rfl

theorem readValue_digit {c : Char} (rest : List Char) (hc : Text.isDigit c = true) :
    readValue (fuel + 1) ⟨c :: rest, p⟩ = .ofNumeral (scanNumeral false ⟨c :: rest, p⟩) := by
  have hne (d : Char) (hd : Text.isDigit d = false) : c ≠ d := by
    rintro rfl
    rw [hc] at hd
    cases hd
  rw [readValue]
  dsimp only
  split
  · next he => cases he
  · next he => exact absurd (List.cons.inj he).1 (hne _ (by decide))
  · next he => exact absurd (List.cons.inj he).1 (hne _ (by decide))
  · next he => exact absurd (List.cons.inj he).1 (hne _ (by decide))
  · next he => exact absurd (List.cons.inj he).1 (hne _ (by decide))
  · next he => exact absurd (List.cons.inj he).1 (hne _ (by decide))
  · next he => exact absurd (List.cons.inj he).1 (hne _ (by decide))
  · next he => exact absurd (List.cons.inj he).1 (hne _ (by decide))
  · next he =>
    rw [← (List.cons.inj he).1, if_pos hc]

end

theorem numberAt_toOption (l : Numeral) (stop : Position) : (numberAt l stop).toOption = l.value.toOption := by
  unfold numberAt
  split
  · next h => rw [h]; rfl
  · next h => rw [h]; rfl

theorem scanString_shows {text rest : List Char} {s : Option String} (h : HasString text s rest) (p : Position) :
    ∃ value q, scanString p none (.ok []) text = .closed value ⟨rest, q⟩ ∧
      (value.map String.ofList).toOption = s := by
  obtain ⟨pieces, hp, hd⟩ := h
  obtain ⟨value, q, hq, hv⟩ := scanString_eq hp p none (.ok [])
  refine ⟨value, q, hq, ?_⟩
  rw [toOption_map, hv, ← hd]
  simp [readPieces, Except.toOption]

mutual

theorem readValue_shows {text rest : List Char} {t : Tree} (h : HasTree text t rest) (fuel : Nat) (p : Position)
    (hf : 3 * text.length ≤ fuel) :
    ∃ s q, readValue fuel ⟨text, p⟩ = ⟨s, some ⟨rest, q⟩⟩ ∧ s.Shows t := by
  have hlt := h.length_lt
  obtain ⟨fuel, rfl⟩ : ∃ f, fuel = f + 1 := ⟨fuel - 1, by omega⟩
  cases h with
  | null => exact ⟨_, _, rfl, .null⟩
  | trueWord => exact ⟨_, _, rfl, .boolean⟩
  | falseWord => exact ⟨_, _, rfl, .boolean⟩
  | number h hn =>
    cases h with
    | positive hsign h =>
      obtain ⟨q, hq⟩ := scanNumeral_eq h p
      obtain ⟨c, t, rfl, hc⟩ := h.head
      rw [hsign] at hq
      rw [readValue_digit fuel p t hc, hq]
      exact ⟨_, _, rfl, .number ((numberAt_toOption _ q).trans hn)⟩
    | negative hsign h =>
      obtain ⟨q, hq⟩ := scanNumeral_eq h { p with column := p.column + 1 }
      rw [hsign] at hq
      rw [readValue, advance_cons, hq]
      exact ⟨_, _, rfl, .number ((numberAt_toOption _ q).trans hn)⟩
  | string h =>
    obtain ⟨value, q, hq, rfl⟩ := scanString_shows h (p.after '"')
    rw [readValue_quote, hq]
    exact ⟨_, _, rfl, .string rfl⟩
  | array h =>
    obtain ⟨items, q, hq, hh⟩ := readItems_show h fuel { p with column := p.column + 1 } (by
      rw [List.length_cons] at hf; omega)
    refine ⟨.array p items, q, ?_, .array hh⟩
    rw [readValue, advance_cons, hq]
    rfl
  | object h =>
    obtain ⟨members, q, hq, hh⟩ := readMembers_show h fuel { p with column := p.column + 1 } (by
      rw [List.length_cons] at hf; omega)
    refine ⟨.object p members, q, ?_, .object hh⟩
    rw [readValue, advance_cons, hq]
    rfl

theorem readItems_show {first : Bool} {text rest : List Char} {trees : List Tree}
    (h : HasItems first text trees rest) (fuel : Nat) (p : Position) (hf : 3 * text.length + 2 ≤ fuel) :
    ∃ items q, readItems fuel first ⟨text, p⟩ = (items, some ⟨rest, q⟩) ∧ items.Show trees := by
  obtain ⟨fuel, rfl⟩ : ∃ f, fuel = f + 2 := ⟨fuel - 2, by omega⟩
  cases h with
  | closed h =>
    obtain ⟨q, q', hq⟩ := readItems_closed (fuel + 1) p h
    exact ⟨_, _, hq, .closed⟩
  | item hl hv hr =>
    have hle := hl.length_le
    have hlt := hv.length_lt
    obtain ⟨p₁, h₁⟩ := readItems_lead (fuel + 1) p hl hv.head
    obtain ⟨s, p₂, h₂, hs⟩ := readValue_shows hv fuel p₁ (by omega)
    obtain ⟨items, q, hq, hh⟩ := readItems_show hr fuel p₂ (by omega)
    refine ⟨.item p₁ s items, q, ?_, .item hs hh⟩
    rw [h₁, readItem, h₂]
    dsimp only
    rw [hq]

theorem readMembers_show {first : Bool} {text rest : List Char} {trees : List (Option String × Tree)}
    (h : HasMembers first text trees rest) (fuel : Nat) (p : Position) (hf : 3 * text.length + 2 ≤ fuel) :
    ∃ members q, readMembers fuel first ⟨text, p⟩ = (members, some ⟨rest, q⟩) ∧ members.Show trees := by
  obtain ⟨fuel, rfl⟩ : ∃ f, fuel = f + 2 := ⟨fuel - 2, by omega⟩
  cases h with
  | closed h =>
    obtain ⟨q, q', hq⟩ := readMembers_closed (fuel + 1) p h
    exact ⟨_, _, hq, .closed⟩
  | member hl hs hc hg hv hr =>
    have hle := hl.length_le
    have hslt := hs.length_lt
    have hcle := hc.length_le
    have hgle := hg.length_le
    have hlt := hv.length_lt
    rw [List.length_cons] at hle hcle
    obtain ⟨p₁, h₁⟩ := readMembers_lead (fuel + 1) p hl
    obtain ⟨name, p₂, h₂, rfl⟩ := scanString_shows hs (p₁.after '"')
    obtain ⟨p₃, h₃⟩ := skipSpace_eq hc (by simp [Cursor.isSpace]) p₂
    obtain ⟨c, t, rfl, hspace, -⟩ := hv.head
    obtain ⟨p₄, h₄⟩ := skipSpace_eq hg (by simpa using hspace) { p₃ with column := p₃.column + 1 }
    obtain ⟨s, p₅, h₅, hshows⟩ := readValue_shows hv fuel p₄ (by omega)
    obtain ⟨members, q, hq, hh⟩ := readMembers_show hr fuel p₅ (by omega)
    refine ⟨.member (name.map String.ofList) p₃ s members, q, ?_, .member rfl hshows hh⟩
    rw [h₁]
    simp [readMember, h₂, h₃, advance_cons, h₄, h₅, hq]

end

/-! ## Whole texts -/

/-- What is read of a well-formed text shows its tree, and nothing stands behind it. -/
theorem Document.read_shows {text : List Char} {t : Tree} (h : IsWellFormed text t) :
    ∃ s, Document.read text = ⟨s, none⟩ ∧ s.Shows t := by
  obtain ⟨start, stop, hstart, hv, hstop⟩ := h
  have hle := hstart.length_le
  obtain ⟨c, t, rfl, hspace, -⟩ := hv.head
  obtain ⟨p, hp⟩ := skipSpace_eq hstart (by simpa using hspace) .start
  obtain ⟨s, q, hq, hs⟩ := readValue_shows hv (3 * text.length + 1) p (by omega)
  obtain ⟨q', hq'⟩ := skipSpace_eq hstop nofun q
  refine ⟨s, ?_, hs⟩
  rw [Document.read, hp, hq]
  dsimp only
  rw [Option.bind_some, hq']
  rfl

theorem isWellFormed_unique {text : List Char} {t t' : Tree} (h : IsWellFormed text t) (h' : IsWellFormed text t') :
    t = t' := by
  obtain ⟨s, hs, hshows⟩ := Document.read_shows h
  obtain ⟨s', hs', hshows'⟩ := Document.read_shows h'
  cases hs.symm.trans hs'
  exact hshows.unique hshows'

/-- What is read of a text holds the value that the text stands for. -/
theorem Document.read_holds {text : List Char} {v : Json} (h : IsText text v) :
    ∃ s, Document.read text = ⟨s, none⟩ ∧ s.Holds v := by
  obtain ⟨s, hs, hshows⟩ := read_shows (isWellFormed_tree.mpr h)
  exact ⟨s, hs, hshows.holds⟩

end VaultUsage.Json
