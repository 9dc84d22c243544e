import VaultUsage.Vault

/-!
# Summaries that differ in the order of their maps

Two summaries are the same when their breakdowns are, one by one. The order in which the maps of a summary are listed
makes no other summary of it.
-/

namespace VaultUsage.Summary

/-- The same totals, and for each category the same breakdown or none in both. -/
def Same (s t : Summary) : Prop :=
  s.total = t.total ∧ ∀ category, Option.Rel NameMap.Same (s.breakdown category) (t.breakdown category)

theorem arranged_same (s : Summary) (order : MapOrder) : s.Same (s.arranged order) := by
  have hmap (category : Category) (b : Option Breakdown) :
      Option.Rel NameMap.Same b (b.map (order.arrange category)) := by
    cases b with
    | none => exact .none
    | some m => exact .some (order.same category m)
  refine ⟨rfl, fun category => ?_⟩
  cases category <;> exact hmap _ _

theorem byName_same (s : Summary) : s.Same s.byName := s.arranged_same .byName

end VaultUsage.Summary
