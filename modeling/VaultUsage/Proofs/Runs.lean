import Mathlib.Data.List.TakeDrop
import VaultUsage.Text.Blank

/-!
# Characters with a property

All characters of a text can have a property (`Only`). A run of such characters ends at the first one without it.
-/

namespace VaultUsage

/-! ## Characters of a text -/

/-- All characters of a text satisfy `p`. -/
def Only (p : Char → Bool) (s : String) : Prop := ∀ c ∈ s.toList, p c = true

namespace Only

variable {p q : Char → Bool} {s t : String}

theorem of_all (h : s.toList.all p = true) : Only p s := List.all_eq_true.mp h

theorem mono (h : ∀ c, p c = true → q c = true) (hs : Only p s) : Only q s := fun c hc => h c (hs c hc)

theorem append (hs : Only p s) (ht : Only p t) : Only p (s ++ t) := by
  intro c hc
  rw [String.toList_append] at hc
  exact (List.mem_append.mp hc).elim (hs c) (ht c)

theorem intercalate {sep : String} {texts : List String} (hsep : Only p sep) (ht : ∀ t ∈ texts, Only p t) :
    Only p (sep.intercalate texts) := by
  induction texts with
  | nil => exact nofun
  | cons t texts ih =>
    have htail : Only p (sep.intercalate texts) := ih fun u hu => ht u (List.mem_cons_of_mem _ hu)
    cases texts with
    | nil => simpa using ht t
    | cons u texts =>
      rw [String.intercalate_cons_cons]
      exact ((ht t List.mem_cons_self).append hsep).append htail

end Only

/-! ## Runs -/

namespace Text

variable {p : Char → Bool}

theorem ne_of_holds {c d : Char} (hc : p c = true) (hd : p d = false) : c ≠ d := by
  rintro rfl
  rw [hc] at hd
  cases hd

theorem dropWhile_of_head {text : List Char} (h : ∀ c ∈ text.head?, p c = false) : text.dropWhile p = text := by
  cases text with
  | nil => rfl
  | cons c text => rw [List.dropWhile_cons, h c rfl]; rfl

section
variable {run rest : List Char} (hrun : ∀ c ∈ run, p c = true) (hrest : ∀ c ∈ rest.head?, p c = false)
include hrun hrest

theorem takeWhile_append_of_head : (run ++ rest).takeWhile p = run := by
  have hnil : rest.takeWhile p = [] := by
    cases rest with
    | nil => rfl
    | cons c rest => rw [List.takeWhile_cons, hrest c rfl]; rfl
  rw [List.takeWhile_append_of_pos hrun, hnil, List.append_nil]

theorem span_append_of_head : (run ++ rest).span p = (run, rest) := by
  rw [List.span_eq_takeWhile_dropWhile, takeWhile_append_of_head hrun hrest, List.dropWhile_append_of_pos hrun,
    dropWhile_of_head hrest]

end

/-- Nothing is taken away from a text without the characters around it. -/
theorem strip_of_forall {text : List Char} (h : ∀ c ∈ text, p c = false) :
    dropEnd p (text.dropWhile p) = text := by
  have hback : text.reverse.dropWhile p = text.reverse :=
    dropWhile_of_head fun c hc => h c (List.mem_reverse.mp (List.mem_of_mem_head? hc))
  rw [dropWhile_of_head fun c hc => h c (List.mem_of_mem_head? hc), dropEnd, hback, List.reverse_reverse]

end Text

end VaultUsage
