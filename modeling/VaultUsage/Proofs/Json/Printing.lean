import VaultUsage.Json.Printer
import VaultUsage.Proofs.Json.Grammar
import VaultUsage.Proofs.Numerals

/-!
# What is written is a text of the grammar

The pretty form of a value is a text of the grammar, and stands for the same value (`isText_pretty`). Only numbers
can come back as others: integers below 2^64 come back as they are, and a real number as whatever its numeral is
read as, so the value that comes back is related to the one written (`Returns`).
-/

namespace VaultUsage.Json

/-! ## What comes back -/

/-- A text that ends a numeral in front of it. -/
def Stops (rest : List Char) : Prop := ∀ c ∈ rest.head?, Text.isDigit c = false ∧ c ≠ '.' ∧ c ≠ 'e' ∧ c ≠ 'E'

/-- The text of `n` is a numeral that is read as `m`. -/
def Number.Returns (n m : Number) : Prop :=
  ∀ rest, Stops rest → ∃ l, IsNumeral (n.render.toList ++ rest) l rest ∧ l.value = .ok m

mutual

/-- The first value is read as the second one when it is written; the members keep their order. -/
inductive Returns : Json → Json → Prop where
  | null : Returns .null .null
  | boolean {b : Bool} : Returns (.boolean b) (.boolean b)
  | number {n m : Number} : n.Returns m → Returns (.number n) (.number m)
  | string {s : String} : Returns (.string s) (.string s)
  | array {items items' : List Json} : ItemsReturn items items' → Returns (.array items) (.array items')
  | object {members members' : List (String × Json)} :
    MembersReturn members members' → Returns (.object members) (.object members')

inductive ItemsReturn : List Json → List Json → Prop where
  | nil : ItemsReturn [] []
  | cons {v w : Json} {rest rest' : List Json} :
    Returns v w → ItemsReturn rest rest' → ItemsReturn (v :: rest) (w :: rest')

inductive MembersReturn : List (String × Json) → List (String × Json) → Prop where
  | nil : MembersReturn [] []
  | cons {name : String} {v w : Json} {rest rest' : List (String × Json)} :
    Returns v w → MembersReturn rest rest' → MembersReturn ((name, v) :: rest) ((name, w) :: rest')

end

/-! ## Integers -/

theorem absorb_eq (digits : List Char) : ∀ {n : Nat}, Text.appendDigits n digits < UInt64.size →
    Numeral.absorb n digits = (Text.appendDigits n digits, digits.length, 0) := by
  induction digits with
  | nil => exact fun _ => rfl
  | cons c digits ih =>
    intro n h
    rw [Text.appendDigits_cons] at h ⊢
    rw [Numeral.absorb]
    simp only [if_pos (Nat.lt_of_le_of_lt (Text.le_appendDigits digits _) h), ih h, List.length_cons]

theorem isDigits_toDigits (n : Nat) {rest : List Char} (hr : ∀ c ∈ rest.head?, Text.isDigit c = false) :
    IsDigits (Nat.toDigits 10 n ++ rest) (Nat.toDigits 10 n) rest :=
  ⟨rfl, Nat.toDigits_ne_nil, fun _ => Text.isDigit_of_mem_toDigits, hr⟩

theorem Stops.isFraction {rest : List Char} (h : Stops rest) : IsFraction rest none rest :=
  .none fun hc => (h _ hc).2.1 rfl

theorem Stops.isExponent {rest : List Char} (h : Stops rest) : IsExponent rest none rest :=
  .none (fun hc => (h _ hc).2.2.1 rfl) fun hc => (h _ hc).2.2.2 rfl

theorem isNumeral_toDigits (n : Nat) {rest : List Char} (hr : Stops rest) :
    IsNumeral (Nat.toDigits 10 n ++ rest) ⟨false, Nat.toDigits 10 n, none, none⟩ rest :=
  .positive rfl (.mk (isDigits_toDigits n fun c hc => (hr c hc).1)
    (fun h => by rw [Text.eq_zero_of_head_toDigits h]; rfl) hr.isFraction hr.isExponent)

theorem Number.integer_returns {n : Nat} (h : n < UInt64.size) : Returns (.integer n) (.integer n) := by
  intro rest hr
  refine ⟨⟨false, Nat.toDigits 10 n, none, none⟩, ?_, ?_⟩
  · have htext : (Number.integer n).render.toList = Nat.toDigits 10 n := String.toList_ofList
    rw [htext]
    exact isNumeral_toDigits n hr
  · rw [Numeral.value]
    dsimp only
    rw [absorb_eq _ (by rw [Text.appendDigits_toDigits]; exact h), Text.appendDigits_toDigits]
    rfl

/-! ## Strings -/

theorem hexUnit?_hex : ∀ n < 32, ∃ a b c d, Text.hex 4 n = [a, b, c, d] ∧ hexUnit? a b c d = some n := by
  have hdigits : ∀ n < 32, Text.hex 4 n = ['0', '0', (n / 16).digitChar, (n % 16).digitChar] ∧
      hexUnit? '0' '0' (n / 16).digitChar (n % 16).digitChar = some n := by decide
  exact fun n hn => ⟨_, _, _, _, hdigits n hn⟩

theorem isString_escapeChar {c : Char} {text s rest : List Char} (h : IsString text s rest) :
    IsString (escapeChar c ++ text) (c :: s) rest := by
  unfold escapeChar
  split
  · next hc => subst hc; exact .short rfl h
  next hquote =>
  split
  · next hc => subst hc; exact .short rfl h
  next hback =>
  split
  · next hc => subst hc; exact .short rfl h
  split
  · next hc => subst hc; exact .short rfl h
  split
  · next hc => subst hc; exact .short rfl h
  split
  · next hc => subst hc; exact .short rfl h
  split
  · next hc => subst hc; exact .short rfl h
  split
  · next hlow =>
    have hn : c.toNat < 32 := hlow
    obtain ⟨a, b, d, e, hhex, hunit⟩ := hexUnit?_hex _ hn
    rw [hhex]
    have := IsString.unit hunit (by simp [isLeading]; omega) (by simp [isTrailing]; omega) h
    rwa [Char.ofNat_toNat] at this
  · next hlow => exact .plain hquote hback hlow h

theorem isString_flatMap_escapeChar (s rest : List Char) :
    IsString (s.flatMap escapeChar ++ '"' :: rest) s rest := by
  induction s with
  | nil => exact .closed
  | cons c s ih =>
    rw [List.flatMap_cons, List.append_assoc]
    exact isString_escapeChar ih

theorem quoted_append (s : String) (rest : List Char) :
    (quoted s).toList ++ rest = '"' :: (s.toList.flatMap escapeChar ++ '"' :: rest) := by
  simp [quoted]

theorem isMembers_quoted (name : String) {first : Bool} {text value text' rest : List Char} {v : Json}
    {members : List (String × Json)} (hlead : IsLead first text ((quoted name).toList ++ ':' :: ' ' :: value))
    (hv : IsValue value v text') (hrest : IsMembers false text' members rest) :
    IsMembers first text ((name, v) :: members) rest := by
  rw [quoted_append] at hlead
  have := IsMembers.member hlead (isString_flatMap_escapeChar name.toList _) .none (.space rfl .none) hv hrest
  rwa [String.ofList_toList] at this

/-! ## White space -/

theorem isGap_line (depth : Nat) (rest : List Char) : IsGap ((line depth).toList ++ rest) rest := by
  have hblanks (n : Nat) : IsGap (List.replicate n ' ' ++ rest) rest := by
    induction n with
    | zero => exact .none
    | succ n ih => exact .space rfl ih
  simp only [line, String.toList_append, String.toList_ofList, List.append_assoc]
  exact .space rfl (hblanks _)

theorem stops_line (depth : Nat) (rest : List Char) : Stops ((line depth).toList ++ rest) := by
  simp [Stops, line]
  decide

theorem stops_prettyItems (depth : Nat) (items : List Json) (rest : List Char) :
    Stops ((prettyItems depth items).toList ++ rest) := by
  cases items with
  | nil =>
    simp only [prettyItems, String.toList_append, List.append_assoc]
    exact stops_line depth _
  | cons v items =>
    simp [prettyItems, Stops]
    decide

theorem stops_prettyMembers (depth : Nat) (members : List (String × Json)) (rest : List Char) :
    Stops ((prettyMembers depth members).toList ++ rest) := by
  cases members with
  | nil =>
    simp only [prettyMembers, String.toList_append, List.append_assoc]
    exact stops_line depth _
  | cons m members =>
    simp [prettyMembers, Stops]
    decide

/-! ## Values -/

mutual

theorem isValue_pretty {v w : Json} (h : Returns v w) (depth : Nat) (rest : List Char) (hr : Stops rest) :
    IsValue ((pretty depth v).toList ++ rest) w rest := by
  cases h with
  | null => simpa [pretty, scalarText] using @IsValue.null rest
  | @boolean b =>
    cases b with
    | true => simpa [pretty, scalarText] using @IsValue.trueWord rest
    | false => simpa [pretty, scalarText] using @IsValue.falseWord rest
  | number h =>
    obtain ⟨l, hl, hv⟩ := h rest hr
    simpa [pretty, scalarText] using IsValue.number hl hv
  | @string s =>
    have := IsValue.string (isString_flatMap_escapeChar s.toList rest)
    rw [String.ofList_toList] at this
    simpa [pretty, scalarText, quoted_append] using this
  | array h =>
    cases h with
    | nil => simpa [pretty] using IsValue.array (.closed (@IsGap.none (']' :: rest)))
    | @cons v w items items' hv hrest =>
      -- a comma or a line break follows the item, so a numeral ends there
      have hitem := isValue_pretty hv (depth + 1) _ (stops_prettyItems depth items rest)
      have := IsItems.item (.first (isGap_line (depth + 1) _)) hitem (isItems_prettyItems hrest depth rest)
      simpa [pretty] using IsValue.array this
  | object h =>
    cases h with
    | nil => simpa [pretty] using IsValue.object (.closed (@IsGap.none ('\x7d' :: rest)))
    | @cons name v w members members' hv hrest =>
      have hvalue := isValue_pretty hv (depth + 1) _ (stops_prettyMembers depth members rest)
      have hmembers := isMembers_prettyMembers hrest depth rest
      have := isMembers_quoted name (.first (isGap_line (depth + 1) _)) hvalue hmembers
      simpa [pretty] using IsValue.object this

theorem isItems_prettyItems {items items' : List Json} (h : ItemsReturn items items') (depth : Nat)
    (rest : List Char) : IsItems false ((prettyItems depth items).toList ++ rest) items' rest := by
  cases h with
  | nil => simpa [prettyItems] using IsItems.closed (isGap_line depth (']' :: rest))
  | @cons v w items items' hv hrest =>
    have hitem := isValue_pretty hv (depth + 1) _ (stops_prettyItems depth items rest)
    have := IsItems.item (.next .none (isGap_line (depth + 1) _)) hitem (isItems_prettyItems hrest depth rest)
    simpa [prettyItems] using this

theorem isMembers_prettyMembers {members members' : List (String × Json)} (h : MembersReturn members members')
    (depth : Nat) (rest : List Char) :
    IsMembers false ((prettyMembers depth members).toList ++ rest) members' rest := by
  cases h with
  | nil => simpa [prettyMembers] using IsMembers.closed (isGap_line depth ('\x7d' :: rest))
  | @cons name v w members members' hv hrest =>
    have hvalue := isValue_pretty hv (depth + 1) _ (stops_prettyMembers depth members rest)
    have hmembers := isMembers_prettyMembers hrest depth rest
    have := isMembers_quoted name (.next .none (isGap_line (depth + 1) _)) hvalue hmembers
    simpa [prettyMembers] using this

end

theorem isText_pretty {v w : Json} (h : Returns v w) : IsText (pretty 0 v).toList w := by
  have := isValue_pretty h 0 [] nofun
  rw [List.append_nil] at this
  exact ⟨_, [], .none, this, .none⟩

end VaultUsage.Json
