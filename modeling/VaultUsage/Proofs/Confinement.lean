import VaultUsage.Proofs.Redirects
import VaultUsage.Proofs.Rows
import VaultUsage.Proofs.Spelling

/-!
# Requests stay with the service

No identifier leads a request away from the service. User information, host and port of a summary are those of the
base URL. Its path is that of the base URL, with `api/` and a rest of harmless characters behind it (`Confines`): steps
that climb reach no further up than that. None are left in the path that is asked for, in whatever spelling, so whoever
reads the URL gets to the same place.
-/

namespace VaultUsage

namespace Url

/-! ## Dot segments -/

theorem eq_of_toLower {c d : Char} (h : c.toLower = d) (hd : d.toNat < 97) : c = d := by
  rcases toLower_cases c with hc | ⟨hlow, -, hc⟩
  · rw [← h, hc]
  · rw [h] at hc
    omega

theorem hexValue?_of_toLower {c : Char} (h : c.toLower = 'e') : Text.hexValue? c = some 14 := by
  rcases toLower_cases c with hc | ⟨-, -, hc⟩
  · rw [← hc, h]
    decide
  · have hself : c = 'E' := by
      rw [h] at hc
      have he : 'e'.toNat = 101 := rfl
      exact Char.toNat_inj.mp (show c.toNat = 69 by omega)
    rw [hself]
    decide

namespace Path

/-- However a dot is spelled, it is decoded to a dot. -/
theorem decodeBytes_dot {text : List Char} (h : isSingleDot text = true) (rest : List Char) :
    decodeBytes (text ++ rest) = '.' :: decodeBytes rest := by
  simp only [isSingleDot, lower, List.contains_iff_mem, List.mem_cons, List.not_mem_nil, or_false] at h
  rcases h with h | h
  · have hl : text.map Char.toLower = ['.'] := String.ofList_inj.mp h
    obtain ⟨c, rfl, hc⟩ := List.map_eq_singleton_iff.mp hl
    rw [eq_of_toLower hc (by decide)]
    exact decodeBytes_cons (by decide) rest
  · have hl : text.map Char.toLower = ['%', '2', 'e'] := String.ofList_inj.mp h
    simp only [List.map_eq_cons_iff, List.map_eq_nil_iff] at hl
    obtain ⟨percent, _, rfl, hpercent, two, _, rfl, htwo, e, _, rfl, he, rfl⟩ := hl
    rw [eq_of_toLower hpercent (by decide), eq_of_toLower htwo (by decide)]
    have htwo : Text.hexValue? '2' = some 2 := by decide
    simp only [List.cons_append, List.nil_append, decodeBytes, htwo, hexValue?_of_toLower he]

theorem exists_of_isDoubleDot {text : List Char} (h : isDoubleDot text = true) :
    ∃ first second, text = first ++ second ∧ isSingleDot first = true ∧ isSingleDot second = true := by
  have hsplit (a b : List Char) (hl : text.map Char.toLower = a ++ b)
      (ha : [".", "%2e"].contains (String.ofList a) = true) (hb : [".", "%2e"].contains (String.ofList b) = true) :
      ∃ first second, text = first ++ second ∧ isSingleDot first = true ∧ isSingleDot second = true := by
    obtain ⟨first, second, rfl, rfl, rfl⟩ := List.map_eq_append_iff.mp hl
    exact ⟨first, second, rfl, ha, hb⟩
  simp only [isDoubleDot, lower, List.contains_iff_mem, List.mem_cons, List.not_mem_nil, or_false] at h
  rcases h with h | h | h | h
  · exact hsplit ['.'] ['.'] (String.ofList_inj.mp h) (by decide) (by decide)
  · exact hsplit ['.'] "%2e".toList (String.ofList_inj.mp h) (by decide) (by decide)
  · exact hsplit "%2e".toList ['.'] (String.ofList_inj.mp h) (by decide) (by decide)
  · exact hsplit "%2e".toList "%2e".toList (String.ofList_inj.mp h) (by decide) (by decide)

theorem isNormal_singleton {segment : String} (ho : Only isSegmentText segment)
    (hd : isDoubleDot segment.toList = false) (hs : isSingleDot segment.toList = false) : IsNormal [segment] := by
  intro s hm
  rw [List.mem_singleton.mp hm]
  exact ⟨ho, hd, hs⟩

/-- An encoded text is a dot segment only if the text is. -/
theorem isNormal_encode {text : List Char} (hdot : text ≠ ['.']) (hdots : text ≠ ['.', '.']) :
    IsNormal [String.ofList (encode isSegmentChar text)] := by
  have hdecode {dots : List Char} (hkeep : encode isSegmentChar dots = dots)
      (h : decodeBytes (encode isSegmentChar text) = decodeBytes dots) : text = dots :=
    eq_of_decodeBytes_encode (fun _ => isSegmentChar_ascii) (h.trans (congrArg decodeBytes hkeep.symm))
  refine isNormal_singleton (only_encode (by decide) (by decide) fun c _ hc => ?_) ?_ ?_
  · simp [isSegmentChar] at hc
    simp [isSegmentText, hc]
  · rw [String.toList_ofList]
    refine Bool.eq_false_iff.mpr fun h => hdots (hdecode rfl ?_)
    obtain ⟨first, second, he, hfirst, hsecond⟩ := exists_of_isDoubleDot h
    have hend := decodeBytes_dot hsecond []
    rw [List.append_nil] at hend
    rw [he, decodeBytes_dot hfirst, hend]
    rfl
  · rw [String.toList_ofList]
    refine Bool.eq_false_iff.mpr fun h => hdot (hdecode rfl ?_)
    have hend := decodeBytes_dot h []
    rw [List.append_nil] at hend
    rw [hend]
    rfl

/-! ## Paths -/

theorem IsNormal.append {path below : Path} (hp : IsNormal path) (hb : IsNormal below) : IsNormal (path ++ below) :=
  fun s hs => (List.mem_append.mp hs).elim (hp s) (hb s)

theorem isNormal_empty : IsNormal [""] := isNormal_singleton nofun (by decide) (by decide)

theorem IsNormal.take {path : Path} (h : path.IsNormal) (text : String) : ((Step.of text).take path).IsNormal := by
  unfold Step.of
  dsimp only
  split
  · exact h
  split
  · exact IsNormal.append (forall_mem_climb h) isNormal_empty
  next hdots =>
  split
  · exact h.append isNormal_empty
  next hdot => exact h.append (isNormal_encode hdot hdots)

theorem isNormal_summaryTail (project vault : String) : (summaryTail project vault).IsNormal := by
  have hapi : IsNormal ["api"] := isNormal_singleton (.of_all rfl) (by decide) (by decide)
  have hvault : IsNormal ["vault"] := isNormal_singleton (.of_all rfl) (by decide) (by decide)
  have hsummary : IsNormal ["projectSummary"] := isNormal_singleton (.of_all rfl) (by decide) (by decide)
  exact hapi.append ((hvault.take vault).append (hsummary.take project))

/-! ## Below the base path -/

/-- The stem is a folder but for its last slash, except that of two empty segments both are lost. -/
theorem stem_append_empty {path : Path} (h : path.getLast? = some "") :
    stem path ++ [""] = path ∨ path = ["", ""] ∧ stem path = [] := by
  obtain ⟨front, rfl⟩ := List.getLast?_eq_some_iff.mp h
  cases front with
  | nil => exact .inl rfl
  | cons first rest =>
    have hpop : popEmpty (first :: rest ++ [""]) = first :: rest := by
      rw [popEmpty, if_neg (by simp), if_pos h, List.dropLast_concat]
    unfold stem
    rw [hpop]
    split
    · next hr =>
      rw [hr]
      exact .inr ⟨rfl, rfl⟩
    · exact .inl rfl

theorem render_stem {path : Path} (h : path.getLast? = some "") :
    render (stem path) ++ "/" = render path ∨ render path = "//" ∧ render (stem path) ++ "/" = "/" := by
  rcases stem_append_empty h with hs | ⟨rfl, hs⟩
  · refine .inl ?_
    conv => rhs; rw [← hs, render_append]
    rfl
  · rw [hs]
    exact .inr ⟨rfl, rfl⟩

theorem IsNormal.stem {path : Path} (h : path.IsNormal) (hl : path.getLast? = some "") : (stem path).IsNormal := by
  rcases stem_append_empty hl with hs | ⟨-, hs⟩
  · rw [← hs] at h
    exact fun segment hm => h segment (List.mem_append_left _ hm)
  · rw [hs]
    exact nofun

theorem take_ne_nil (s : Step) (word : String) : s.take [word] ≠ [] := by
  cases s <;> simp [Step.take]

theorem exists_render_summaryTail (project vault : String) :
    ∃ rest, render (summaryTail project vault) = "/api/" ++ rest ∧ Only isHarmless rest := by
  have hne : (Step.of vault).take ["vault"] ++ (Step.of project).take ["projectSummary"] ≠ [] :=
    List.append_ne_nil_of_left_ne_nil (take_ne_nil _ _) _
  obtain ⟨first, more, hc⟩ := List.exists_cons_of_ne_nil hne
  have hharmless := (isNormal_summaryTail project vault).isHarmless
  rw [summaryTail, hc] at hharmless ⊢
  refine ⟨first ++ render more, ?_, ?_⟩
  · have hfold (t : String) : "/api" ++ ("/" ++ t) = "/api/" ++ t := by rw [← String.append_assoc]; rfl
    simp [render, String.append_assoc, hfold]
  · have hmore : IsHarmless more := fun s hs => hharmless s (by simp [hs])
    exact (hharmless first (by simp)).append hmore.render

end Path

end Url

namespace BaseUrl

open Url Url.Path

/-- The URL `u` leads to the service at `b`, below its path. As a text it has neither query nor fragment, what stands
before the path ends at the first slash behind it, and the text is read as the same URL: its segments have no slash or
backslash in them, and none is a dot segment. -/
structure Confines (b : BaseUrl) (u : Url) : Prop where
  scheme : u.scheme = b.url.scheme
  user : u.user = b.url.user
  host : u.host = b.url.host
  port : u.port = b.url.port
  text : u.render = b.url.scheme.name ++ "://" ++ b.url.authority ++ u.path.render
  baseText : b.render = b.url.scheme.name ++ "://" ++ b.url.authority ++ b.url.path.render
  authority : Only isAuthorityChar b.url.authority
  harmless : Only isHarmless u.render
  below : ∃ front rest, u.path.render = front ++ "api/" ++ rest ∧ Only isHarmless rest ∧
    (front = b.url.path.render ∨ b.url.path.render = "//" ∧ front = "/")
  segments : ∃ front below, u.path = front ++ "api" :: below ∧
    (front ++ [""] = b.url.path ∨ b.url.path = ["", ""] ∧ front = [])
  normal : u.path.IsNormal
  readBack : Url.read u.render.toList = .ok (some u)

theorem summaryUrl_path (b : BaseUrl) (project vault : String) :
    (b.summaryUrl project vault).path = stem b.url.path ++ summaryTail project vault := by
  rw [summaryUrl, endpoint, extend_summary]

theorem isNormal_summaryUrl {b : BaseUrl} (h : b.url.IsNormal) (project vault : String) :
    (b.summaryUrl project vault).IsNormal where
  user := h.user
  host := h.host
  port := h.port
  path := by
    rw [summaryUrl_path]
    exact (h.path.stem b.isDirectory).append (isNormal_summaryTail project vault)

theorem render_summaryUrl_path (b : BaseUrl) (project vault : String) :
    ∃ front rest, (b.summaryUrl project vault).path.render = front ++ "api/" ++ rest ∧ Only isHarmless rest ∧
      (front = b.url.path.render ∨ b.url.path.render = "//" ∧ front = "/") := by
  obtain ⟨rest, hrest, hharmless⟩ := exists_render_summaryTail project vault
  refine ⟨Path.render (stem b.url.path) ++ "/", rest, ?_, hharmless, render_stem b.isDirectory⟩
  calc (b.summaryUrl project vault).path.render
    _ = Path.render (stem b.url.path) ++ ("/api/" ++ rest) := by
      rw [summaryUrl, endpoint, extend_summary, render_append, hrest]
    _ = Path.render (stem b.url.path) ++ ("/" ++ "api/") ++ rest := String.append_assoc.symm
    _ = Path.render (stem b.url.path) ++ "/" ++ "api/" ++ rest := congrArg (· ++ rest) String.append_assoc.symm

theorem confines_summaryUrl {text : String} {b : BaseUrl} (h : BaseUrl.read text = .ok b) (project vault : String) :
    b.Confines (b.summaryUrl project vault) where
  scheme := rfl
  user := rfl
  host := rfl
  port := rfl
  text := render_eq (b.summaryUrl project vault)
  baseText := render_eq _
  authority := (isNormal_read h).only_authority
  harmless := (isNormal_summaryUrl (isNormal_read h) project vault).only_render
  below := render_summaryUrl_path b project vault
  segments := ⟨_, _, summaryUrl_path b project vault, stem_append_empty b.isDirectory⟩
  normal := (isNormal_summaryUrl (isNormal_read h) project vault).path
  readBack := by
    refine (isNormal_summaryUrl (isNormal_read h) project vault).read_render ?_
    rw [summaryUrl_path]
    exact List.append_ne_nil_of_right_ne_nil _ (List.cons_ne_nil _ _)

end BaseUrl

namespace Client

/-- All that is asked for is asked of the service. Wherever redirects lead from there, they take the authorization to
no other host or port. -/
structure Confined (c : Client) (before : Nat) (asked made : List Request) : Prop where
  sent : made = c.network.sent before asked
  inside : ∀ r ∈ asked, r.query = none ∧ c.base.Confines r.url
  authorized {servers : Servers} (h : c.network.hops = servers.network.hops) : ∀ q ∈ made, q.authorization ≠ none →
    q.url.host = c.base.url.host ∧ q.url.effectivePort = c.base.url.effectivePort

theorem confined_sent {c : Client} {before : Nat} {asked : List Request}
    (h : ∀ r ∈ asked, r.query = none ∧ c.base.Confines r.url) :
    c.Confined before asked (c.network.sent before asked) where
  sent := rfl
  inside := h
  authorized := by
    intro servers hs q hq hauthorized
    obtain ⟨r, hr, hleads⟩ := servers.exists_leadsTo hs hq
    have hbase := (h r hr).2
    obtain ⟨-, hhost, hport⟩ := hleads.authorization.resolve_left hauthorized
    refine ⟨hhost.trans hbase.host, hport.trans ?_⟩
    rw [Url.effectivePort, Url.effectivePort, hbase.port, hbase.scheme]

/-- Whatever the project and the vaults are called, all that is asked for is asked of the service, below its base
URL and its `api/`. -/
theorem summary_requests_confined {text : String} {c : Client} (h : BaseUrl.read text = .ok c.base) (before : Nat)
    (project : String) :
    (∀ vault, ∃ r, c.Confined before [r] (c.summary before project vault).requests) ∧
    ∀ vaults, ∃ asked, asked.length = vaults.length ∧
      c.Confined before asked (c.rows before project vaults).requests := by
  have hconfines (vault : String) :
      (c.summaryRequest project vault).query = none ∧ c.base.Confines (c.summaryRequest project vault).url :=
    ⟨rfl, BaseUrl.confines_summaryUrl h project vault⟩
  constructor
  · intro vault
    refine ⟨c.summaryRequest project vault, confined_sent fun r hr => ?_⟩
    rw [List.mem_singleton.mp hr]
    exact hconfines vault
  · intro vaults
    refine ⟨vaults.map fun v => c.summaryRequest project v.id, List.length_map _, ?_⟩
    rw [rows_requests]
    refine confined_sent fun r hr => ?_
    obtain ⟨v, -, rfl⟩ := List.mem_map.mp hr
    exact hconfines v.id

/-- Dots that show only when tabs are dropped climb, but no further than to `api/`. -/
theorem summary_requests_confined_climbing :
    let b : BaseUrl := ⟨⟨.https, ⟨"me", none⟩, .domain "host", some 8443, ["a", "", ""]⟩, rfl⟩
    let c : Client := ⟨b, none, .unreachable "offline"⟩
    BaseUrl.read " https://me@HOST:8443/x/../a//?q#f" = .ok b ∧
      (b.summaryUrl ".\t." ".\n.").render = "https://me@host:8443/a//api//" ∧
      ∃ r, (c.summary 0 ".\t." ".\n.").requests = [r] ∧ b.Confines r.url := by
  intro b c
  have h : BaseUrl.read " https://me@HOST:8443/x/../a//?q#f" = .ok b := rfl
  obtain ⟨r, hr⟩ := (summary_requests_confined (c := c) h 0 ".\t.").1 ".\n."
  exact ⟨h, by decide +kernel, r, hr.sent, (hr.inside r List.mem_cons_self).2⟩

end Client

end VaultUsage
