import VaultUsage.BaseUrl
import VaultUsage.Proofs.Percent

/-!
# Addresses of summaries

An identifier is a segment of the address of a summary, but not every identifier comes through: dots are steps
on the path, and tabs and line breaks are lost (`Step.of`). Two pairs of project and vault have one address
exactly if they take the same steps, or if a vault that adds nothing leaves the place of its segment to the
segments behind it (`Crossed`). Identifiers that are not dots and have no tab or line break in them come
through, so that each pair of them has an address of its own.
-/

namespace VaultUsage

namespace Url.Path

/-! ## Steps -/

/-- What adding a text does to a path. -/
inductive Step where
  | stay
  | climb
  | down (text : List Char)
  deriving DecidableEq, Repr

namespace Step

def of (text : String) : Step :=
  let kept := text.toList.filter fun c => !isDropped c
  if text = "." ∨ text = ".." then stay
  else if kept = ['.', '.'] then climb
  else if kept = ['.'] then down []
  else down kept

def take (path : Path) : Step → Path
  | stay => path
  | climb => Path.climb path ++ [""]
  | down text => path ++ [String.ofList (encode isSegmentChar text)]

end Step

theorem encode_inj {s t : List Char} : encode isSegmentChar s = encode isSegmentChar t ↔ s = t :=
  ⟨encode_injective fun _ => isSegmentChar_ascii, congrArg _⟩

theorem segment_inj {s t : List Char} :
    String.ofList (encode isSegmentChar s) = String.ofList (encode isSegmentChar t) ↔ s = t :=
  String.ofList_inj.trans encode_inj

theorem push_eq_take {path : Path} (hp : path ≠ root) (text : String) : push path text = (Step.of text).take path := by
  have hdots (l : List Char) : encode isSegmentChar l = ['.', '.'] ↔ l = ['.', '.'] :=
    encode_inj (t := ['.', '.'])
  have hdot (l : List Char) : encode isSegmentChar l = ['.'] ↔ l = ['.'] := encode_inj (t := ['.'])
  simp only [push, Step.of, hdots, hdot, if_neg hp]
  split
  · rfl
  split
  · rfl
  split
  · rfl
  · rfl

@[simp] theorem take_stay (path : Path) : Step.stay.take path = path := rfl

@[simp] theorem take_down (path : Path) (text : List Char) :
    (Step.down text).take path = path ++ [String.ofList (encode isSegmentChar text)] := rfl

theorem climb_concat (path : Path) (last : String) : climb (path ++ [last]) = path ++ climb [last] := by
  simp only [climb, List.getLast?_concat, List.getLast?_singleton]
  split
  · rfl
  · simp

theorem take_concat (path : Path) (last : String) (s : Step) : s.take (path ++ [last]) = path ++ s.take [last] := by
  cases s with
  | stay => rfl
  | climb => rw [Step.take, Step.take, climb_concat, List.append_assoc]
  | down text => rw [Step.take, Step.take, List.append_assoc]

theorem slash_notMem_take {word : String} (hw : '/' ∉ word.toList) (s : Step) :
    ∀ segment ∈ s.take [word], '/' ∉ segment.toList := by
  have hc : ∀ segment ∈ climb [word], '/' ∉ segment.toList := by
    simp only [climb, List.getLast?_singleton]
    split
    · simpa using hw
    · simp
  intro segment h
  cases s with
  | stay => rwa [List.mem_singleton.mp h]
  | climb =>
    rcases List.mem_append.mp h with h | h
    · exact hc _ h
    · rw [List.mem_singleton.mp h]; simp
  | down text =>
    rcases List.mem_append.mp h with h | h
    · rwa [List.mem_singleton.mp h]
    · rw [List.mem_singleton.mp h, String.toList_ofList]
      exact slash_notMem_encode text

/-! ## The path of a summary -/

/-- The segments that stay in front when more are added. -/
def stem (path : Path) : Path := if popEmpty path = root then [] else popEmpty path

/-- What stands behind the stem in the path of a summary. -/
def summaryTail (project vault : String) : Path :=
  "api" :: ((Step.of vault).take ["vault"] ++ (Step.of project).take ["projectSummary"])

theorem push_api (path : Path) : push (popEmpty path) "api" = stem path ++ ["api"] := by
  simp only [push, stem]
  rfl

theorem push_below (path below : Path) (text : String) :
    push (path ++ "api" :: below) text = (Step.of text).take (path ++ "api" :: below) := by
  refine push_eq_take (fun h => ?_) text
  have : "api" ∈ root := h ▸ List.mem_append_right path List.mem_cons_self
  exact absurd this (by decide)

theorem extend_summary (path : Path) (project vault : String) :
    path.extend ["api", "vault", vault, "projectSummary", project] = stem path ++ summaryTail project vault := by
  have hvault (p : Path) : push (p ++ ["api"]) "vault" = p ++ ["api", "vault"] := by
    rw [push_below, show Step.of "vault" = .down "vault".toList from rfl, Step.take, List.append_assoc]
    rfl
  have hsummary (p below : Path) :
      push (p ++ "api" :: below) "projectSummary" = p ++ "api" :: below ++ ["projectSummary"] := by
    rw [push_below]
    rfl
  have hlast (p below : Path) (last text : String) :
      push (p ++ "api" :: (below ++ [last])) text = p ++ "api" :: (below ++ (Step.of text).take [last]) := by
    rw [push_below, ← List.cons_append, ← List.append_assoc, take_concat, List.append_assoc, List.cons_append]
  simp only [extend, List.foldl_cons, List.foldl_nil, push_api, hvault]
  rw [show ["api", "vault"] = "api" :: ([] ++ ["vault"]) from rfl, hlast, hsummary, List.append_assoc,
    List.cons_append, hlast]
  rfl

theorem slash_notMem_summaryTail (project vault : String) :
    ∀ segment ∈ summaryTail project vault, '/' ∉ segment.toList := by
  intro segment h
  rcases List.mem_cons.mp h with rfl | h
  · decide
  · rcases List.mem_append.mp h with h | h
    · exact slash_notMem_take (by decide) _ _ h
    · exact slash_notMem_take (by decide) _ _ h

/-! ## Steps that meet -/

/-- The vault adds nothing, and what stands behind it comes to stand in its place. -/
def Crossed (vault project vault' project' : Step) : Prop :=
  vault = .stay ∧ vault' = .down "projectSummary".toList ∧
    (project = .down "projectSummary".toList ∧ project' = .stay ∨ project = .down [] ∧ project' = .climb)

section
variable {last : String} (hd : isDriveLetter last = false)
include hd

theorem take_climb : Step.climb.take [last] = [""] := by
  simp [Step.take, climb, hd]

theorem take_inj {s t : Step} (hl : last ≠ "") : s.take [last] = t.take [last] ↔ s = t := by
  cases s <;> cases t <;> simp [take_climb hd, hl, Ne.symm hl, segment_inj]

end

theorem take_eq_cons_take {s t : Step} {text : List Char} (word : List Char)
    (hd : isDriveLetter (String.ofList (encode isSegmentChar word)) = false) :
    s.take [String.ofList (encode isSegmentChar word)] =
        String.ofList (encode isSegmentChar text) :: t.take [String.ofList (encode isSegmentChar word)] ↔
      text = word ∧ (s = .down word ∧ t = .stay ∨ s = .down [] ∧ t = .climb) := by
  have hnil {text : List Char} : String.ofList (encode isSegmentChar text) = "" ↔ text = [] := segment_inj (t := [])
  cases s with
  | stay => cases t <;> simp [take_climb hd]
  | climb => cases t <;> simp [take_climb hd]
  | down text' => cases t <;> simp [take_climb hd, segment_inj, hnil, -String.ofList_eq_empty_iff, @eq_comm _ word]

theorem steps_eq_iff {v p v' p' : Step} :
    v.take ["vault"] ++ p.take ["projectSummary"] = v'.take ["vault"] ++ p'.take ["projectSummary"] ↔
      v = v' ∧ p = p' ∨ Crossed v p v' p' ∨ Crossed v' p' v p := by
  have hp : p.take ["projectSummary"] = p'.take ["projectSummary"] ↔ p = p' := take_inj (by decide) (by decide)
  have hv : Step.climb.take ["vault"] = [""] := take_climb (by decide)
  have hcross {p p' : Step} {text : List Char} :
      p.take ["projectSummary"] = String.ofList (encode isSegmentChar text) :: p'.take ["projectSummary"] ↔
        Crossed .stay p (.down text) p' := by
    rw [Crossed, Step.down.injEq, eq_self, true_and]
    exact take_eq_cons_take "projectSummary".toList (by decide)
  have hstay {p p' : Step} {text : List Char} : ¬Crossed (.down text) p .stay p' := fun h => nomatch h.1
  -- Vaults of different steps part the paths at once, except that one that stays is a segment short of one that
  -- goes down.
  cases v with
  | stay =>
    cases v' with
    | stay => simp [hp, Crossed]
    | climb => simp [hv, Crossed]
    | down text => simp [hcross, hstay]
  | climb =>
    cases v' with
    | stay => simp [hv, Crossed]
    | climb => simp [hp, Crossed]
    | down text => simp [hv, Crossed]
  | down text =>
    cases v' with
    | stay =>
      rw [eq_comm]
      simp [hcross, hstay]
    | climb => simp [hv, Crossed]
    | down text' => simp [hp, segment_inj, Crossed]

/-! ## Rendered paths -/

theorem render_append (path below : Path) : render (path ++ below) = render path ++ render below := by
  rw [render, List.map_append, String.join_append]
  rfl

/-- Segments without slashes are found again between the slashes. -/
theorem splitOn_append_render {first : List Char} {path : Path} (hf : '/' ∉ first)
    (hp : ∀ segment ∈ path, '/' ∉ segment.toList) :
    (first ++ (render path).toList).splitOn '/' = first :: path.map String.toList := by
  induction path generalizing first with
  | nil =>
    rw [show (render []).toList = [] from rfl, List.append_nil, List.splitOn_eq_singleton hf]
    rfl
  | cons segment path ih =>
    have hr : (render (segment :: path)).toList = '/' :: (segment.toList ++ (render path).toList) := by
      simp [render]
    rw [hr, List.splitOn_append_cons_self_of_not_mem hf, ih (hp _ List.mem_cons_self)
      fun s hs => hp s (List.mem_cons_of_mem _ hs)]
    rfl

theorem render_injective {path path' : Path} (hp : ∀ segment ∈ path, '/' ∉ segment.toList)
    (hp' : ∀ segment ∈ path', '/' ∉ segment.toList) (h : render path = render path') : path = path' := by
  have hs := splitOn_append_render (List.not_mem_nil (a := '/')) hp
  rw [h, splitOn_append_render (List.not_mem_nil (a := '/')) hp', List.cons.injEq] at hs
  exact (List.map_inj_right fun _ _ => String.toList_inj.mp).mp hs.2.symm

/-! ## Plain identifiers -/

/-- Not a dot segment, and without tabs and line breaks. -/
def IsPlain (text : String) : Prop := text ≠ "." ∧ text ≠ ".." ∧ ∀ c ∈ text.toList, isDropped c = false

theorem IsPlain.of_eq {text : String} (h : IsPlain text) : Step.of text = .down text.toList := by
  obtain ⟨hdot, hdots, hc⟩ := h
  have hkept : (text.toList.filter fun c => !isDropped c) = text.toList :=
    List.filter_eq_self.mpr fun c hm => by rw [hc c hm]; rfl
  have hdot' : text.toList ≠ ['.'] := fun h => hdot (String.toList_inj.mp h)
  have hdots' : text.toList ≠ ['.', '.'] := fun h => hdots (String.toList_inj.mp h)
  rw [Step.of, hkept, if_neg (not_or.mpr ⟨hdot, hdots⟩), if_neg hdots', if_neg hdot']

end Url.Path

namespace BaseUrl

open Url.Path

theorem summaryUrl_render_eq_iff_tail (b : BaseUrl) {project vault project' vault' : String} :
    (b.summaryUrl project vault).render = (b.summaryUrl project' vault').render ↔
      summaryTail project vault = summaryTail project' vault' := by
  rw [Url.render, Url.render]
  simp only [summaryUrl, endpoint, extend_summary, render_append]
  rw [String.append_right_inj, String.append_right_inj]
  constructor
  · exact render_injective (slash_notMem_summaryTail _ _) (slash_notMem_summaryTail _ _)
  · exact congrArg _

/-- Two pairs of project and vault have the same address exactly if they take the same steps, or steps that cross.
Plain identifiers are told from each other by the address. -/
theorem summaryUrl_render_eq_iff (b : BaseUrl) (project vault project' vault' : String) :
    ((b.summaryUrl project vault).render = (b.summaryUrl project' vault').render ↔
      Step.of vault = Step.of vault' ∧ Step.of project = Step.of project' ∨
        Crossed (Step.of vault) (Step.of project) (Step.of vault') (Step.of project') ∨
        Crossed (Step.of vault') (Step.of project') (Step.of vault) (Step.of project)) ∧
    (IsPlain project ∧ IsPlain vault ∧ IsPlain project' ∧ IsPlain vault' →
      (b.summaryUrl project vault).render = (b.summaryUrl project' vault').render →
        project = project' ∧ vault = vault') := by
  have hiff : (b.summaryUrl project vault).render = (b.summaryUrl project' vault').render ↔
      Step.of vault = Step.of vault' ∧ Step.of project = Step.of project' ∨
        Crossed (Step.of vault) (Step.of project) (Step.of vault') (Step.of project') ∨
        Crossed (Step.of vault') (Step.of project') (Step.of vault) (Step.of project) := by
    rw [summaryUrl_render_eq_iff_tail, summaryTail, summaryTail, List.cons_inj_right, steps_eq_iff]
  refine ⟨hiff, fun ⟨hp, hv, hp', hv'⟩ h => ?_⟩
  rw [hiff, hp.of_eq, hv.of_eq, hp'.of_eq, hv'.of_eq] at h
  rcases h with ⟨hv, hp⟩ | h | h
  · exact ⟨String.toList_inj.mp (Step.down.inj hp), String.toList_inj.mp (Step.down.inj hv)⟩
  · cases h.1
  · cases h.1

/-- The tab in a vault is lost, so that the address is that of another vault. -/
theorem summaryUrl_render_tab :
    ("p", "a\tb") ≠ ("p", "ab") ∧
      ((ofUrl ⟨.https, {}, .domain "host", none, Url.Path.root⟩).summaryUrl "p" "a\tb").render =
        ((ofUrl ⟨.https, {}, .domain "host", none, Url.Path.root⟩).summaryUrl "p" "ab").render := by
  decide +kernel

end BaseUrl

end VaultUsage
