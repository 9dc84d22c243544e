import VaultUsage.Service.Redirects

/-!
# What redirects add to the requests

A request that is asked for can lead to others (`Request.LeadsTo`): they ask for JSON as well, with the same
authorization if they stay with the host and the port, and otherwise with none. There are at most ten for each, and
there is none exactly if the first answer does not redirect (`Servers.IsDirect`). Without any, what is made is what was
asked for.
-/

namespace VaultUsage

/-! ## Requests made and asked for -/

namespace Network

variable (n : Network)

theorem sent_append (before : Nat) (asked more : List Request) :
    (n.sent before (asked ++ more)).Perm (n.sent before asked ++ n.sent (before + asked.length) more) := by
  simp only [sent, List.zipIdx_append, List.flatMap_append, List.append_assoc]
  refine List.Perm.append_left asked ?_
  rw [← List.append_assoc, ← List.append_assoc]
  exact List.perm_append_comm.append_right _

theorem sent_of_no_hops {before : Nat} {asked : List Request}
    (h : ∀ r place, (r, place) ∈ asked.zipIdx before → n.hops place r = []) : n.sent before asked = asked := by
  have hnil : ((asked.zipIdx before).flatMap fun p => n.hops p.2 p.1) = [] :=
    List.flatMap_eq_nil_iff.mpr fun p hp => h p.1 p.2 hp
  rw [sent, hnil, List.append_nil]

theorem length_sent_le {most : Nat} (h : ∀ place r, (n.hops place r).length ≤ most) (before : Nat)
    (asked : List Request) : (n.sent before asked).length ≤ (most + 1) * asked.length := by
  induction asked generalizing before with
  | nil => simp [sent]
  | cons r asked ih =>
    have hrest := ih (before + 1)
    have hfirst := h before r
    simp only [sent, List.length_append, List.zipIdx_cons, List.flatMap_cons, List.length_cons] at hrest ⊢
    rw [Nat.mul_add, Nat.mul_one]
    omega

end Network

/-! ## Where a request leads -/

namespace Request

/-- What goes along with a redirect, however many there are. -/
structure LeadsTo (r q : Request) : Prop where
  accept : q.accept = r.accept
  agent : q.agent = r.agent
  /-- No other host or port gets to know the authorization. -/
  authorization : q.authorization = none ∨
    q.authorization = r.authorization ∧ q.url.host = r.url.host ∧ q.url.effectivePort = r.url.effectivePort

theorem LeadsTo.refl (r : Request) : r.LeadsTo r := ⟨rfl, rfl, .inr ⟨rfl, rfl, rfl⟩⟩

theorem LeadsTo.trans {r q p : Request} (h : r.LeadsTo q) (h' : q.LeadsTo p) : r.LeadsTo p where
  accept := h'.accept.trans h.accept
  agent := h'.agent.trans h.agent
  authorization := by
    rcases h'.authorization with ha | ⟨ha, hhost, hport⟩
    · exact .inl ha
    · rw [ha, hhost, hport]
      exact h.authorization

theorem leadsTo_redirected (r : Request) (l : Location) : r.LeadsTo (r.redirected l) := by
  refine ⟨rfl, rfl, ?_⟩
  unfold redirected
  dsimp only
  split
  · next hsame => exact .inr ⟨rfl, hsame⟩
  · exact .inl rfl

end Request

/-! ## Redirects that are followed -/

namespace Servers

variable (s : Servers) {before redirects : Nat} {r : Request}

/-- Whatever the answer is, it does not redirect. -/
def IsDirect (before : Nat) (r : Request) : Prop := s.location? before 0 r = none

theorem follow_hops (more : Nat) :
    (s.follow before more redirects r).2.length ≤ more ∧ ∀ q ∈ (s.follow before more redirects r).2, r.LeadsTo q := by
  induction more generalizing redirects r with
  | zero =>
    unfold follow
    split <;> simp
  | succ more ih =>
    unfold follow
    split
    · simp
    next l _ =>
    obtain ⟨hlength, hleads⟩ := @ih (redirects + 1) (r.redirected l)
    have hfirst := r.leadsTo_redirected l
    refine ⟨Nat.succ_le_succ hlength, fun q hq => ?_⟩
    rcases List.mem_cons.mp hq with rfl | hq
    · exact hfirst
    · exact hfirst.trans (hleads q hq)

theorem hops_eq_nil_iff : s.network.hops before r = [] ↔ s.IsDirect before r := by
  simp only [network, maxRedirects, follow, IsDirect]
  cases s.location? before 0 r <;> simp

theorem length_hops_le (before : Nat) (r : Request) : (s.network.hops before r).length ≤ maxRedirects :=
  (s.follow_hops maxRedirects).1

/-- All that is made comes from what is asked for. -/
theorem exists_leadsTo {n : Network} (hn : n.hops = s.network.hops) {asked : List Request} {q : Request}
    (h : q ∈ n.sent before asked) : ∃ r ∈ asked, r.LeadsTo q := by
  rcases List.mem_append.mp h with h | h
  · exact ⟨q, h, .refl q⟩
  · obtain ⟨⟨r, place⟩, hr, hq⟩ := List.mem_flatMap.mp h
    rw [hn] at hq
    exact ⟨r, List.fst_mem_of_mem_zipIdx hr, (s.follow_hops maxRedirects).2 q hq⟩

end Servers

end VaultUsage
