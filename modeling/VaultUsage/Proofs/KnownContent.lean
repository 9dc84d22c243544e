import VaultUsage.Proofs.Breakdowns
import VaultUsage.Proofs.Json.FromText
import VaultUsage.Proofs.Json.Rearranging
import VaultUsage.Proofs.ReadBack

/-!
# What counts in the text of a summary

Only the fields that are known. White space, the order of members and members of other names can change without
notice: the same summary is read, up to the order of its maps, and reported in the same way. The names in a breakdown
are data, so there no member can come in.
-/

namespace VaultUsage

open Json (Shape IsWellFormed)

/-! ## Data that is the same -/

theorem Usage.ofFields_congr {v w : shape.Value} (h : shape.Same v w) : ofFields v = ofFields w := by
  obtain ⟨count, size, ⟨⟩⟩ := v
  obtain ⟨count', size', ⟨⟩⟩ := w
  obtain ⟨hcount, hsize, -⟩ := h
  exact congrArg₂ Usage.mk hcount hsize

theorem Breakdown.entries_congr {entries entries' : List (String × Usage.shape.Value)}
    (h : List.Forall₂ (fun a b => a.1 = b.1 ∧ Usage.shape.Same a.2 b.2) entries entries') :
    entries.map (fun e => (e.1, Usage.ofFields e.2)) = entries'.map fun e => (e.1, Usage.ofFields e.2) := by
  induction h with
  | nil => rfl
  | cons h _ ih => rw [List.map_cons, List.map_cons, h.1, Usage.ofFields_congr h.2, ih]

theorem Breakdown.same_ofFields {v w : shape.Value} (h : shape.Same v w) :
    Option.Rel NameMap.Same (ofFields v) (ofFields w) := by
  cases h with
  | none => exact .none
  | some h =>
    obtain ⟨entries, hperm, hentries⟩ := h
    exact .some ((hperm.map _).trans (.of_eq (entries_congr hentries)))

theorem Summary.same_ofFields {v w : shape.Value} (h : shape.Same v w) : (ofFields v).Same (ofFields w) := by
  obtain ⟨htotal, hgnmType, hfileType, hmediaType, hhiddenFile, hgnmProject, -⟩ := h
  refine ⟨Usage.ofFields_congr htotal, fun category => ?_⟩
  cases category with
  | gnmType => exact Breakdown.same_ofFields hgnmType
  | fileType => exact Breakdown.same_ofFields hfileType
  | mediaType => exact Breakdown.same_ofFields hmediaType
  | hiddenFile => exact Breakdown.same_ofFields hhiddenFile
  | gnmProject => exact Breakdown.same_ofFields hgnmProject

/-! ## Texts that are the same summary -/

namespace Summary

/-- A text that is read as a summary is well-formed. If its objects have no name twice, then each text whose tree comes
of its tree by changes that do not count is read as the same summary, and the report is the same too. -/
theorem read_of_rearranges {text : String} {s : Summary} (h : read text = .ok s) :
    (∃ t, IsWellFormed text.toList t) ∧
      ∀ t, IsWellFormed text.toList t → t.HasDistinctNames →
        ∀ t' (text' : String), shape.Rearranges t t' → IsWellFormed text'.toList t' →
          ∃ s', read text' = .ok s' ∧ s.Same s' ∧
            ∀ sizes project vault,
              Markdown.breakdown sizes project vault (some s) = Markdown.breakdown sizes project vault (some s') := by
  have hsound : shape.isSound = true := by decide
  obtain ⟨v, hv, rfl⟩ := map_eq_ok.mp h
  obtain ⟨t₀, ht₀, hreads⟩ := (shape.read_eq_ok hsound).mp hv
  refine ⟨⟨t₀, ht₀⟩, fun t ht hnames t' text' hrearranges ht' => ?_⟩
  cases Json.isWellFormed_unique ht₀ ht
  have hlists : shape.Reads Json.Lists t' v := hrearranges.reads hsound (shape.reads_lists hnames hreads)
  obtain ⟨w, hw, hsame⟩ := shape.exists_reads hlists
  have hread : read text' = .ok (ofFields w) := map_eq_ok.mpr ⟨w, (shape.read_of_isWellFormed hsound ht').mpr hw, rfl⟩
  have hsame' : (ofFields v).Same (ofFields w) := same_ofFields hsame
  exact ⟨ofFields w, hread, hsame', fun sizes project vault => Markdown.breakdown_same sizes project vault hsame'⟩

/-- Fields and entries in another order, a name with an escape, and a member whose value holds a number above all,
half of a surrogate pair and a name twice. -/
theorem read_of_rearranges_extended :
    let s : Summary := { total := ⟨3, 11⟩, fileType := some ⟨[("wav", ⟨1, 5⟩), ("mov", ⟨2, 6⟩)], by decide⟩ }
    let text := "\x7b\"total\":\x7b\"count\":3,\"size\":11\x7d,\"fileType\":\x7b\"wav\":[1,5],\"mov\":[2,6]\x7d\x7d"
    let text' := "\x7b\"fileType\": \x7b\"mov\":[2,6],\"wav\":[1,5]\x7d,\n" ++
      "\"Total\": [1e999, \x7b\"a\":\"\\ud800\",\"a\":[]\x7d],\n\"to\\u0074al\":\x7b\"size\":11,\"count\":3\x7d\x7d\n"
    read text = .ok s ∧ ∃ s', read text' = .ok s' ∧ s.Same s' := by
  intro s text text'
  let figure (n : Int) : Json.Tree := .number (some (.integer n))
  let total := [(some "count", figure 3), (some "size", figure 11)]
  let entries := [(some "wav", Json.Tree.array [figure 1, figure 5]), (some "mov", .array [figure 2, figure 6])]
  let unknown : Json.Tree := .array [.number none, .object [(some "a", .string none), (some "a", .array [])]]
  have hread : read text = .ok s := by decide +kernel
  have ht : IsWellFormed text.toList (.object [(some "total", .object total), (some "fileType", .object entries)]) := by
    decide +kernel
  have ht' : IsWellFormed text'.toList (.object [(some "fileType", .object entries.reverse), (some "Total", unknown),
      (some "total", .object total.reverse)]) := by
    decide +kernel
  have hpair {n m : String} {a b : Json.Tree} (hne : n ≠ m) (ha : a.HasDistinctNames) (hb : b.HasDistinctNames) :
      (Json.Tree.object [(some n, a), (some m, b)]).HasDistinctNames :=
    .object (by simpa using hne) (List.forall_mem_cons.mpr ⟨ha, List.forall_mem_singleton.mpr hb⟩)
  have hfigures (n m : Int) : (Json.Tree.array [figure n, figure m]).HasDistinctNames :=
    .array (List.forall_mem_cons.mpr ⟨.number, List.forall_mem_singleton.mpr .number⟩)
  have hnames :
      (Json.Tree.object [(some "total", .object total), (some "fileType", .object entries)]).HasDistinctNames :=
    hpair (by decide) (hpair (by decide) .number .number) (hpair (by decide) (hfigures 1 5) (hfigures 2 6))
  have hrearranges : shape.Rearranges (.object [(some "total", .object total), (some "fileType", .object entries)])
      (.object [(some "fileType", .object entries.reverse), (some "Total", unknown),
        (some "total", .object total.reverse)]) :=
    .head (.inl (@Json.Tree.Reorders.member [] _ _ _ _ (.here (.swap _ _ _)))) <|
    .head (.inl (@Json.Tree.Reorders.member [_] _ _ _ _ (.here (.swap _ _ _)))) <|
    .head (.inl (.here (.swap _ _ _))) <|
    .single (.inr (@Shape.Extends.here _ _ _ [_] [_] _ (by decide)))
  obtain ⟨s', hread', hsame, -⟩ := (read_of_rearranges hread).2 _ ht hnames _ text' hrearranges ht'
  exact ⟨hread, s', hread', hsame⟩

end Summary

end VaultUsage
