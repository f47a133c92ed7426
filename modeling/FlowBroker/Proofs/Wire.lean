import FlowBroker.Http
import Mathlib.Data.List.Chain

namespace FlowBroker.Http

/-- One exchange on the wire. Where its answer has a `Location`, that is another place to go to. -/
structure Exchange where
  request : Request
  response : Option Response
  location : Option String

def Exchange.redirects (e : Exchange) : Bool :=
  e.location.isSome && e.response.any fun r => [301, 302, 303, 307, 308].contains r.status

/-- The exchanges that an HTTP client makes for each request it is asked to send, by the number of
requests it was asked for before. -/
abbrev Wire := Nat → Request → List Exchange

namespace Wire

/-- A client that follows redirects: it sends the request it is asked to send, and another one only
if the answer before it redirects. -/
def FollowsRedirects (wire : Wire) : Prop :=
  ∀ n request, ∃ e es, wire n request = e :: es ∧ e.request = request ∧
    (e :: es).IsChain fun before _ => before.redirects

variable {wire : Wire}

def exchanges (wire : Wire) : Nat → List Request → List Exchange
  | _, [] => []
  | n, request :: requests => wire n request ++ exchanges wire (n + 1) requests

/-- No answer to what a client is asked to send, `n` requests before it, redirects. -/
def IsDirect (wire : Wire) (n : Nat) (asked : List Request) : Prop :=
  ∀ e ∈ wire.exchanges n asked, ¬e.redirects

def issued (wire : Wire) (n : Nat) (asked : List Request) : List Request :=
  (wire.exchanges n asked).map (·.request)

theorem exists_of_mem_exchanges {n : Nat} {asked : List Request} {e : Exchange}
    (h : e ∈ wire.exchanges n asked) : ∃ k request, e ∈ wire k request := by
  induction asked generalizing n with
  | nil => cases h
  | cons request requests ih =>
      rcases List.mem_append.1 h with hnow | hlater
      · exact ⟨n, request, hnow⟩
      · exact ih hlater

theorem issued_cons (n : Nat) (request : Request) (requests : List Request) :
    wire.issued n (request :: requests) =
      (wire n request).map (·.request) ++ wire.issued (n + 1) requests :=
  List.map_append

theorem length_le_of_isChain {e : Exchange} {es : List Exchange}
    (h : (e :: es).IsChain fun before _ => before.redirects) :
    (e :: es).length ≤ 1 + (e :: es).countP Exchange.redirects := by
  induction es generalizing e with
  | nil => simp
  | cons e' es ih =>
      obtain ⟨hredirects, hrest⟩ := List.isChain_cons_cons.1 h
      have hlength := ih hrest
      rw [List.countP_cons_of_pos hredirects, List.length_cons]
      omega

/-- What a client is asked to send is issued in its order, and beyond it at most one request for
each answer that redirects. -/
theorem FollowsRedirects.issued_bounds (h : wire.FollowsRedirects) (n : Nat)
    (asked : List Request) :
    asked.Sublist (wire.issued n asked) ∧
      (wire.issued n asked).length ≤
        asked.length + (wire.exchanges n asked).countP Exchange.redirects := by
  induction asked generalizing n with
  | nil => exact ⟨.slnil, Nat.le_refl _⟩
  | cons request requests ih =>
      obtain ⟨hsublist, hlength⟩ := ih (n + 1)
      obtain ⟨e, es, hwire, hfirst, hchain⟩ := h n request
      rw [issued_cons, exchanges, hwire, List.map_cons, hfirst, List.cons_append]
      refine ⟨(hsublist.trans (List.sublist_append_right _ _)).cons_cons request, ?_⟩
      have hcall := length_le_of_isChain hchain
      simp only [List.length_cons, List.length_append, List.length_map, List.countP_append] at *
      omega

theorem FollowsRedirects.issued_of_direct (h : wire.FollowsRedirects) {n : Nat}
    {asked : List Request} (hdirect : wire.IsDirect n asked) : asked = wire.issued n asked := by
  obtain ⟨hsublist, hlength⟩ := h.issued_bounds n asked
  rw [List.countP_eq_zero.2 hdirect] at hlength
  exact hsublist.eq_of_length_le hlength

end Wire

end FlowBroker.Http
