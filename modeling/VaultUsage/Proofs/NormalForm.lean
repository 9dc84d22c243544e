import VaultUsage.BaseUrl
import VaultUsage.Proofs.Hosts

/-!
# What reading a URL comes to

What reading a URL comes to is in a normal form (`Url.IsNormal`): its parts are written with the characters that they
keep, the host is in lower case or is an address, the port is not the default one and no segment is a dot segment. In
the text of such a URL, user information, host and port (`authority`) have no slash, question mark, number sign or
backslash in them, so they end where they seem to.
-/

namespace VaultUsage

namespace Url

/-! ## Characters -/

/-- Printable, and neither the start of a query or fragment nor what browsers take for a slash. -/
def isHarmless (c : Char) : Bool := '!' ≤ c && c ≤ '~' && !(['?', '#', '\\'].contains c)

/-- Harmless, and no slash. -/
def isAuthorityChar (c : Char) : Bool := isHarmless c && c != '/'

theorem isHarmless_of_isPathChar {c : Char} (h : isPathChar c = true) (hb : c ≠ '\\') : isHarmless c = true := by
  simp [isPathChar] at h
  simp [isHarmless, h, hb]

theorem isHarmless_of_isAuthorityChar {c : Char} (h : isAuthorityChar c = true) : isHarmless c = true :=
  (Bool.and_eq_true_iff.mp h).1

theorem isAuthorityChar_of_isUserChar {c : Char} (h : isUserChar c = true) : isAuthorityChar c = true := by
  simp [isUserChar] at h
  simp [isAuthorityChar, isHarmless_of_isPathChar h.1, h]

theorem isAuthorityChar_of_not_isForbidden {c : Char} (h : Host.isForbidden c = false) :
    isAuthorityChar c = true := by
  simp only [Host.isForbidden, Bool.or_eq_false_iff, decide_eq_false_iff_not, List.contains_eq_mem,
    List.mem_cons, List.not_mem_nil, or_false, not_or] at h
  obtain ⟨⟨hblank, hdelete⟩, -, hnumber, hslash, -, -, -, hquestion, -, -, hback, -⟩ := h
  have hlow : '!' ≤ c := by
    simp only [Char.le_def, UInt32.le_iff_toNat_le] at hblank ⊢
    exact Nat.lt_of_not_le hblank
  have hhigh : c ≤ '~' := by
    simp only [Char.le_def, UInt32.le_iff_toNat_le] at hdelete ⊢
    exact Nat.le_of_lt_succ (Nat.lt_of_not_le hdelete)
  simp [isAuthorityChar, isHarmless, hlow, hhigh, hnumber, hslash, hquestion, hback]

theorem isAuthorityChar_digitChar : ∀ n < 16, isAuthorityChar n.digitChar = true := by decide

theorem only_toString (n : Nat) : Only isAuthorityChar (toString n) := by
  intro c hc
  rw [Nat.toString_eq_repr, Nat.toList_repr] at hc
  obtain ⟨d, hd, rfl⟩ := Text.mem_toDigits (by decide) hc
  exact isAuthorityChar_digitChar d (by omega)

/-! ## User information -/

theorem encode_ne_nil {keep : Char → Bool} {text : List Char} (h : text ≠ []) : encode keep text ≠ [] := by
  cases text with
  | nil => exact absurd rfl h
  | cons c text =>
    have hone : (if keep c then [c] else escape c) ≠ [] := by
      split
      · exact List.cons_ne_nil _ _
      · cases hb : String.utf8EncodeChar c with
        | nil => exact absurd hb String.utf8EncodeChar_ne_nil
        | cons b bytes => simp [escape, hb, escapeByte]
    rw [encode, List.flatMap_cons]
    exact List.append_ne_nil_of_left_ne_nil hone _

namespace UserInfo

/-- What reading user information comes to. -/
structure IsNormal (u : UserInfo) : Prop where
  name : Only isUserChar u.name
  password : ∀ p ∈ u.password, p ≠ "" ∧ Only isUserChar p

theorem isNormal_read (text : List Char) : (read text).IsNormal := by
  have hencode (part : List Char) : Only isUserChar (String.ofList (encode isUserChar part)) :=
    only_encode (by decide) (by decide) fun _ _ => id
  unfold read
  dsimp only
  generalize text.drop _ = password
  cases password with
  | nil => exact ⟨hencode _, nofun⟩
  | cons c password =>
    refine ⟨hencode _, fun p hp => ?_⟩
    cases hp
    exact ⟨fun h => encode_ne_nil (List.cons_ne_nil c password) (String.ofList_eq_empty_iff.mp h), hencode _⟩

theorem IsNormal.only_render {u : UserInfo} (h : u.IsNormal) : Only isAuthorityChar u.render := by
  obtain ⟨name, password⟩ := u
  have hname : Only isAuthorityChar name := h.name.mono fun _ => isAuthorityChar_of_isUserChar
  have hat : Only isAuthorityChar "@" := .of_all rfl
  have hcolon : Only isAuthorityChar ":" := .of_all rfl
  cases password with
  | some password =>
    have hpassword : Only isAuthorityChar password :=
      (h.password password rfl).2.mono fun _ => isAuthorityChar_of_isUserChar
    exact ((hname.append hcolon).append hpassword).append hat
  | none =>
    unfold render
    dsimp only
    split
    · exact nofun
    · exact hname.append hat

end UserInfo

theorem Host.IsNormal.only_render {host : Host} (h : host.IsNormal) : Only isAuthorityChar host.render := by
  have hname {c : Char} (hc : Host.isNameChar c = true) : isAuthorityChar c = true := by
    simp only [Host.isNameChar, Bool.and_eq_true, Bool.not_eq_true'] at hc
    exact isAuthorityChar_of_not_isForbidden hc.1
  cases host with
  | domain name => exact h.1.mono fun _ => hname
  | ipv4 address => exact only_ipv4Text (by decide) (by decide) address
  | ipv6 groups =>
    have hgroups : Only isAuthorityChar (ipv6Text groups) := only_ipv6Text (by decide) (by decide) groups
    exact (Only.append (.of_all rfl) hgroups).append (.of_all rfl)

/-! ## Paths -/

namespace Path

theorem forall_mem_climb {p : String → Prop} {path : Path} (h : ∀ segment ∈ path, p segment) :
    ∀ segment ∈ climb path, p segment := by
  unfold climb
  split
  · exact nofun
  · split
    · exact h
    · exact fun s hs => h s (List.dropLast_subset path hs)

/-- What holds of the segments read already, of the empty one and of each text that is no dot segment holds of all. -/
theorem forall_mem_resolve {p : String → Prop} (hempty : p "") {texts : List (List Char)}
    (ht : ∀ text ∈ texts, isDoubleDot (encode isPathChar text) = false → isSingleDot (encode isPathChar text) = false →
      p (String.ofList (encode isPathChar text))) :
    ∀ {done : Path}, (∀ segment ∈ done, p segment) → ∀ segment ∈ resolve done texts, p segment := by
  have hone {segment : String} (h : p segment) : ∀ s ∈ [segment], p s := by simpa using h
  have happend {front back : Path} (hf : ∀ s ∈ front, p s) (hb : ∀ s ∈ back, p s) : ∀ s ∈ front ++ back, p s :=
    fun s hs => (List.mem_append.mp hs).elim (hf s) (hb s)
  induction texts with
  | nil =>
    intro done hd
    exact happend hd (hone hempty)
  | cons text rest ih =>
    intro done hd
    obtain ⟨hs, ht⟩ := List.forall_mem_cons.mp ht
    have ih {done : Path} (hd : ∀ s ∈ done, p s) : ∀ s ∈ resolve done rest, p s := ih ht hd
    -- the last text is the one that leaves an empty segment behind its dots
    cases rest with
    | nil =>
      simp only [resolve]
      split
      · exact happend (forall_mem_climb hd) (hone hempty)
      next hdouble =>
      split
      · exact happend hd (hone hempty)
      next hsingle => exact happend hd (hone (hs (by simpa using hdouble) (by simpa using hsingle)))
    | cons next rest =>
      simp only [resolve]
      split
      · exact ih (forall_mem_climb hd)
      next hdouble =>
      split
      · exact ih hd
      next hsingle => exact ih (happend hd (hone (hs (by simpa using hdouble) (by simpa using hsingle))))

theorem not_of_mem_splitAt {p : Char → Bool} (text : List Char) :
    ∀ part ∈ splitAt p text, ∀ c ∈ part, p c = false := by
  induction text with
  | nil => simp [splitAt]
  | cons c rest ih =>
    by_cases hc : p c = true
    · rw [splitAt, if_pos hc]
      exact List.forall_mem_cons.mpr ⟨List.forall_mem_nil _, ih⟩
    · have hp : p c = false := by simpa using hc
      rw [splitAt, if_neg hc]
      cases hs : splitAt p rest with
      | nil => simpa using hp
      | cons part parts =>
        rw [hs] at ih
        obtain ⟨hpart, hparts⟩ := List.forall_mem_cons.mp ih
        exact List.forall_mem_cons.mpr ⟨List.forall_mem_cons.mpr ⟨hp, hpart⟩, hparts⟩

/-- The texts between slashes and backslashes are what a path is read from. -/
theorem forall_mem_read {p : String → Prop} (hempty : p "")
    (ht : ∀ text, (∀ c ∈ text, (c == '/' || c == '\\') = false) → isDoubleDot (encode isPathChar text) = false →
      isSingleDot (encode isPathChar text) = false → p (String.ofList (encode isPathChar text)))
    (text : List Char) : ∀ segment ∈ read text, p segment := by
  unfold read
  dsimp only
  split
  · exact forall_mem_resolve hempty (fun part hpart => ht part (not_of_mem_splitAt _ part hpart)) nofun
  · simpa [root] using hempty

/-- A segment that is written as it is kept. -/
def isSegmentText (c : Char) : Bool := isPathChar c && !(c == '/' || c == '\\')

/-- Segments are encoded, and none is a dot segment. -/
def IsNormal (path : Path) : Prop :=
  ∀ segment ∈ path, Only isSegmentText segment ∧ isDoubleDot segment.toList = false ∧ isSingleDot segment.toList = false

theorem isNormal_read (text : List Char) : (read text).IsNormal := by
  refine forall_mem_read ⟨nofun, by decide, by decide⟩ (fun part hpart hdouble hsingle => ⟨?_, ?_, ?_⟩) text
  · refine only_encode (by decide) (by decide) fun c hc hkeep => ?_
    rw [isSegmentText, hkeep, hpart c hc]
    rfl
  · rwa [String.toList_ofList]
  · rwa [String.toList_ofList]

theorem IsNormal.toDirectory {path : Path} (h : path.IsNormal) : path.toDirectory.IsNormal := by
  unfold Path.toDirectory
  split
  · exact h
  · intro segment hs
    rcases List.mem_append.mp hs with hs | hs
    · exact h segment hs
    · rw [List.mem_singleton.mp hs]
      exact ⟨nofun, by decide, by decide⟩

/-- No segment has a character in it that is not harmless. -/
def IsHarmless (path : Path) : Prop := ∀ segment ∈ path, Only isHarmless segment

theorem IsHarmless.render {path : Path} (h : IsHarmless path) : Only isHarmless path.render := by
  intro c hc
  rw [Path.render, String.toList_join] at hc
  obtain ⟨t, ht, hc⟩ := List.mem_flatMap.mp hc
  obtain ⟨s, hs, rfl⟩ := List.mem_map.mp ht
  exact (Only.append (.of_all rfl) (h s hs)) c hc

theorem isHarmless_of_isSegmentText {c : Char} (h : isSegmentText c = true) : isHarmless c = true := by
  simp only [isSegmentText, Bool.and_eq_true, Bool.not_eq_true', Bool.or_eq_false_iff, beq_eq_false_iff_ne] at h
  exact isHarmless_of_isPathChar h.1 h.2.2

theorem IsNormal.isHarmless {path : Path} (h : path.IsNormal) : path.IsHarmless :=
  fun segment hs => (h segment hs).1.mono fun _ => isHarmless_of_isSegmentText

end Path

/-! ## URLs -/

/-- User information, host and port. -/
def authority (u : Url) : String :=
  u.user.render ++ u.host.render ++
    (match u.port with
      | some port => ":" ++ toString port
      | none => "")

theorem render_eq (u : Url) : u.render = u.scheme.name ++ "://" ++ u.authority ++ u.path.render := by
  obtain ⟨scheme, user, host, port, path⟩ := u
  cases port <;> simp only [render, authority, String.append_assoc]

theorem read_eq_some {text : List Char} {u : Url} (h : Url.read text = .ok (some u)) :
    ∃ scheme rest, readWeb scheme rest = .ok u := by
  obtain ⟨⟨scheme, rest⟩, -, h⟩ := bind_eq_ok.mp h
  dsimp only at h
  split at h
  all_goals
    obtain ⟨v, hv, he⟩ := map_eq_ok.mp h
    cases he
  · exact ⟨_, _, hv⟩
  · exact ⟨_, _, hv⟩

theorem readAuthority_user {backslash : Bool} {text : List Char} {a : Authority}
    (h : readAuthority backslash text = .ok a) : ∃ name, a.user = UserInfo.read name := by
  unfold readAuthority at h
  dsimp only at h
  split at h
  · cases h
  · cases h
    exact ⟨_, rfl⟩

theorem readPort_le {text : List Char} {n : Nat} (h : readPort text = .ok (some n)) : n ≤ 65535 := by
  unfold readPort at h
  dsimp only at h
  split at h
  · cases h
  next hgood =>
  simp only [Bool.or_eq_true, decide_eq_true_eq, not_or, Nat.not_lt] at hgood
  split at h
  · cases h
  · cases h
    exact hgood.2

theorem readWebAuthority_ok {text rest : List Char} {user : UserInfo} {host : Host} {port : Option Nat}
    (h : readWebAuthority text = .ok (user, host, port, rest)) :
    (∃ name, user = UserInfo.read name) ∧ (∃ name, Host.read name = .ok host) ∧ ∀ n ∈ port, n ≤ 65535 := by
  obtain ⟨a, ha, h⟩ := bind_eq_ok.mp h
  obtain ⟨name, hname⟩ := readAuthority_user ha
  have hport {host' : Host} {x : Except Fault (Option Nat)} (hx : ∀ n, x = .ok (some n) → n ≤ 65535)
      (h : (do let port ← x; pure (a.user, host', port, a.rest)) = Except.ok (user, host, port, rest)) :
      user = UserInfo.read name ∧ host' = host ∧ ∀ n ∈ port, n ≤ 65535 := by
    obtain ⟨port', hport', h⟩ := bind_eq_ok.mp h
    cases h
    exact ⟨hname, rfl, fun n hn => hx n (by rw [hport', Option.mem_def.mp hn])⟩
  dsimp only at h
  split at h
  · cases h
  · obtain ⟨host', hhost, h⟩ := bind_eq_ok.mp h
    have : user = UserInfo.read name ∧ host' = host ∧ ∀ n ∈ port, n ≤ 65535 := by
      split at h
      · exact hport (fun n => readPort_le) h
      · exact hport (fun n hn => by cases hn) h
    obtain ⟨hu, rfl, hle⟩ := this
    exact ⟨⟨name, hu⟩, ⟨_, hhost⟩, hle⟩

/-- What reading a URL comes to. -/
structure IsNormal (u : Url) : Prop where
  user : u.user.IsNormal
  host : u.host.IsNormal
  port : ∀ n ∈ u.port, n ≤ 65535 ∧ n ≠ u.scheme.defaultPort
  path : u.path.IsNormal

theorem isNormal_readWeb {scheme : Scheme} {text : List Char} {u : Url} (h : readWeb scheme text = .ok u) :
    u.IsNormal := by
  obtain ⟨⟨user, host, port, rest⟩, ha, h⟩ := bind_eq_ok.mp h
  cases h
  obtain ⟨⟨name, rfl⟩, ⟨_, hhost⟩, hport⟩ := readWebAuthority_ok ha
  refine ⟨UserInfo.isNormal_read name, Host.isNormal_read hhost, fun n hn => ?_, Path.isNormal_read _⟩
  dsimp only at hn ⊢
  split at hn
  · cases hn
  · next hdefault => exact ⟨hport n hn, fun h => hdefault (h ▸ hn)⟩

namespace IsNormal

variable {u : Url}

theorem only_authority (h : u.IsNormal) : Only isAuthorityChar u.authority := by
  refine (h.user.only_render.append h.host.only_render).append ?_
  split
  · exact Only.append (.of_all rfl) (only_toString _)
  · exact nofun

theorem only_render (h : u.IsNormal) : Only isHarmless u.render := by
  have hscheme : Only isHarmless (u.scheme.name ++ "://") := by
    cases u.scheme <;> exact .of_all rfl
  rw [render_eq]
  exact (hscheme.append (h.only_authority.mono fun _ => isHarmless_of_isAuthorityChar)).append h.path.isHarmless.render

end IsNormal

end Url

theorem BaseUrl.isNormal_read {text : String} {b : BaseUrl} (h : BaseUrl.read text = .ok b) : b.url.IsNormal := by
  unfold BaseUrl.read at h
  split at h
  · cases h
  · cases h
  · next u hu =>
    cases h
    obtain ⟨scheme, rest, hr⟩ := Url.read_eq_some hu
    have hu := Url.isNormal_readWeb hr
    exact ⟨hu.user, hu.host, hu.port, hu.path.toDirectory⟩

end VaultUsage
