import FlowBroker.Flow.Manager
import FlowBroker.Rehearsal
import Mathlib.Data.List.Induction
import Mathlib.Data.List.Sort

namespace FlowBroker

variable {σ : Type}

inductive Registration (σ : Type) where
  | plain (c : Controller σ)
  | withPriority (priority : Int) (c : Controller σ)

def Registration.entry : Registration σ → Ranked σ
  | plain c => ⟨0, c⟩
  | withPriority priority c => ⟨priority, c⟩

namespace Manager

def enrol (m : Manager σ) : Registration σ → Manager σ
  | .plain c => m.register c
  | .withPriority priority c => m.registerWithPriority priority c

def enrolAll (m : Manager σ) (rs : List (Registration σ)) : Manager σ := rs.foldl enrol m

/-- The same entries by descending priority, those of one priority in the order given. -/
structure Sorts (given sorted : List (Ranked σ)) : Prop where
  perm : sorted.Perm given
  descending : sorted.Pairwise fun a b => b.priority ≤ a.priority
  stable : ∀ k, sorted.filter (·.priority = k) = given.filter (·.priority = k)

/-- The entry accepts the process, and of all that do none has a higher priority and none of the
same priority comes earlier. -/
def Leads (entries : List (Ranked σ)) (p : TransferProcess) (r : Ranked σ) : Prop :=
  r.controller.accepts p = true ∧ ∃ before after, entries = before ++ r :: after ∧
    (∀ q ∈ before, q.controller.accepts p = true → q.priority < r.priority) ∧
    ∀ q ∈ after, q.controller.accepts p = true → q.priority ≤ r.priority

section

variable {given sorted : List (Ranked σ)} {r : Ranked σ} {p : TransferProcess}

theorem ranked_enrol (m : Manager σ) (x : Registration σ) :
    (m.enrol x).ranked = insert x.entry m.ranked := by
  cases x <;> rfl

theorem insert_perm (r : Ranked σ) (ss : List (Ranked σ)) : (insert r ss).Perm (ss ++ [r]) := by
  induction ss with
  | nil => exact List.Perm.refl _
  | cons s ss ih =>
      rw [insert]
      split
      · exact (List.perm_append_singleton r (s :: ss)).symm
      · exact ih.cons s

theorem insert_descending {ss : List (Ranked σ)}
    (h : ss.Pairwise fun a b => b.priority ≤ a.priority) :
    (insert r ss).Pairwise fun a b => b.priority ≤ a.priority := by
  induction ss with
  | nil => exact List.pairwise_singleton _ r
  | cons s ss ih =>
      obtain ⟨hs, hss⟩ := List.pairwise_cons.1 h
      rw [insert]
      split
      · next hlt =>
        refine List.pairwise_cons.2 ⟨fun t ht => ?_, h⟩
        rcases List.mem_cons.1 ht with rfl | ht
        · exact hlt.le
        · exact (hs t ht).trans hlt.le
      · next hle =>
        refine List.pairwise_cons.2 ⟨fun t ht => ?_, ih hss⟩
        rcases List.mem_append.1 ((insert_perm r ss).mem_iff.1 ht) with ht | ht
        · exact hs t ht
        · rw [List.mem_singleton.1 ht]
          exact not_lt.1 hle

theorem insert_filter {ss : List (Ranked σ)}
    (h : ss.Pairwise fun a b => b.priority ≤ a.priority) (k : Int) :
    (insert r ss).filter (·.priority = k) = (ss ++ [r]).filter (·.priority = k) := by
  induction ss with
  | nil => rfl
  | cons s ss ih =>
      obtain ⟨hs, hss⟩ := List.pairwise_cons.1 h
      rw [insert]
      split
      · next hlt =>
        rw [← List.singleton_append, List.filter_append, List.filter_append]
        by_cases hk : r.priority = k
        · -- Sorted as the list is, nothing behind the place of `r` has its priority.
          have hnone : (s :: ss).filter (·.priority = k) = [] := by
            rw [List.filter_eq_nil_iff]
            intro t ht
            have htr : t.priority < r.priority := by
              rcases List.mem_cons.1 ht with rfl | ht
              · exact hlt
              · exact (hs t ht).trans_lt hlt
            rw [decide_eq_true_iff]
            omega
          rw [hnone, List.append_nil, List.nil_append]
        · have hnone : [r].filter (·.priority = k) = [] := by simp [hk]
          rw [hnone, List.append_nil, List.nil_append]
      · rw [List.cons_append, List.filter_cons, List.filter_cons, ih hss]

theorem Sorts.insert (h : Sorts given sorted) (r : Ranked σ) :
    Sorts (given ++ [r]) (Manager.insert r sorted) where
  perm := (insert_perm r sorted).trans (h.perm.append_right [r])
  descending := insert_descending h.descending
  stable k := by
    rw [insert_filter h.descending, List.filter_append, List.filter_append, h.stable]

theorem enrolAll_sorts (rs : List (Registration σ)) :
    Sorts (rs.map (·.entry)) (new.enrolAll rs).ranked := by
  induction rs using List.reverseRecOn with
  | nil => exact ⟨List.Perm.refl _, List.Pairwise.nil, fun _ => rfl⟩
  | append_singleton rs x ih =>
      have hlast : new.enrolAll (rs ++ [x]) = (new.enrolAll rs).enrol x := List.foldl_concat _ _ _ _
      rw [hlast, ranked_enrol, List.map_append]
      exact ih.insert x.entry

theorem controllers_enrolAll_perm (rs : List (Registration σ)) :
    (new.enrolAll rs).controllers.Perm (rs.map fun r => r.entry.controller) := by
  have hperm := (enrolAll_sorts rs).perm.map (·.controller)
  rwa [List.map_map] at hperm

theorem mergeSort_sorts (given : List (Ranked σ)) :
    Sorts given (given.mergeSort fun a b => b.priority ≤ a.priority) := by
  have htrans : ∀ a b c : Ranked σ, decide (b.priority ≤ a.priority) = true →
      decide (c.priority ≤ b.priority) = true → decide (c.priority ≤ a.priority) = true := by
    intro a b c hab hbc
    simp only [decide_eq_true_eq] at hab hbc ⊢
    omega
  have htotal : ∀ a b : Ranked σ,
      (decide (b.priority ≤ a.priority) || decide (a.priority ≤ b.priority)) = true := by
    intro a b
    simp only [Bool.or_eq_true, decide_eq_true_eq]
    omega
  refine ⟨List.mergeSort_perm _ _, ?_, fun k => ?_⟩
  · exact (List.pairwise_mergeSort htrans htotal given).imp fun h => of_decide_eq_true h
  · have hequal : (given.filter (·.priority = k)).Pairwise fun a b =>
        decide (b.priority ≤ a.priority) = true := by
      refine List.pairwise_of_forall_mem_list fun a ha b hb => ?_
      have hak := of_decide_eq_true (List.mem_filter.1 ha).2
      have hbk := of_decide_eq_true (List.mem_filter.1 hb).2
      rw [decide_eq_true_iff]
      omega
    have hsub := (List.sublist_mergeSort htrans htotal hequal List.filter_sublist).filter
      (·.priority = k)
    have hlength := ((List.mergeSort_perm given fun a b => b.priority ≤ a.priority).filter
      (·.priority = k)).length_eq
    simp only [List.filter_filter, Bool.and_self] at hsub
    exact (hsub.eq_of_length hlength.symm).symm

theorem mem_of_filter_eq {xs ys : List (Ranked σ)}
    (h : ∀ k, xs.filter (·.priority = k) = ys.filter (·.priority = k)) (hr : r ∈ xs) : r ∈ ys := by
  have hmem : r ∈ xs.filter (·.priority = r.priority) :=
    List.mem_filter.2 ⟨hr, decide_eq_true rfl⟩
  rw [h] at hmem
  exact (List.mem_filter.1 hmem).1

theorem eq_of_filter_eq {xs ys : List (Ranked σ)}
    (hx : xs.Pairwise fun a b => b.priority ≤ a.priority)
    (hy : ys.Pairwise fun a b => b.priority ≤ a.priority)
    (h : ∀ k, xs.filter (·.priority = k) = ys.filter (·.priority = k)) : xs = ys := by
  induction xs generalizing ys with
  | nil =>
      refine (List.eq_nil_iff_forall_not_mem.2 fun y hmem => ?_).symm
      exact List.not_mem_nil (mem_of_filter_eq (fun k => (h k).symm) hmem)
  | cons x xs ih =>
      have hxmem : x ∈ ys := mem_of_filter_eq h List.mem_cons_self
      cases ys with
      | nil => cases hxmem
      | cons y ys =>
          have hymem : y ∈ x :: xs := mem_of_filter_eq (fun k => (h k).symm) List.mem_cons_self
          obtain ⟨hxs, hxtail⟩ := List.pairwise_cons.1 hx
          obtain ⟨hys, hytail⟩ := List.pairwise_cons.1 hy
          have hle : x.priority ≤ y.priority := by
            rcases List.mem_cons.1 hxmem with rfl | hmem
            · exact le_rfl
            · exact hys x hmem
          have hge : y.priority ≤ x.priority := by
            rcases List.mem_cons.1 hymem with rfl | hmem
            · exact le_rfl
            · exact hxs y hmem
          have hsame : y.priority = x.priority := le_antisymm hge hle
          have hfirst := h x.priority
          simp only [List.filter_cons, hsame, decide_true, if_true] at hfirst
          obtain rfl : x = y := (List.cons.inj hfirst).1
          congr 1
          apply ih hxtail hytail
          intro k
          have hk := h k
          rw [List.filter_cons, List.filter_cons] at hk
          split at hk
          · exact (List.cons.inj hk).2
          · exact hk

theorem Sorts.eq_mergeSort (h : Sorts given sorted) :
    sorted = given.mergeSort fun a b => b.priority ≤ a.priority := by
  have hmerge := mergeSort_sorts given
  apply eq_of_filter_eq h.descending hmerge.descending
  intro k
  rw [h.stable, hmerge.stable]

theorem Leads.unique {r' : Ranked σ} (h : Leads given p r) (h' : Leads given p r') : r = r' := by
  obtain ⟨haccepts, before, after, hsplit, hbefore, hafter⟩ := h
  obtain ⟨haccepts', before', after', hsplit', hbefore', hafter'⟩ := h'
  rw [hsplit] at hsplit'
  rcases List.append_eq_append_iff.1 hsplit' with
    ⟨between, hfront, hback⟩ | ⟨between, hfront, hback⟩
  · cases between with
    | nil => exact (List.cons.inj hback).1
    | cons q between =>
        rw [List.cons_append, List.cons.injEq] at hback
        obtain ⟨rfl, hback⟩ := hback
        have hlt := hbefore' r (by simp [hfront]) haccepts
        have hle := hafter r' (by simp [hback]) haccepts'
        omega
  · cases between with
    | nil => exact (List.cons.inj hback).1.symm
    | cons q between =>
        rw [List.cons_append, List.cons.injEq] at hback
        obtain ⟨rfl, hback⟩ := hback
        have hlt := hbefore r' (by simp [hfront]) haccepts'
        have hle := hafter' r (by simp [hback]) haccepts
        omega

theorem Sorts.leads_of_find? (h : Sorts given sorted)
    (hfind : sorted.find? (·.controller.accepts p) = some r) : Leads given p r := by
  obtain ⟨haccepts, front, back, hsplit, hfront⟩ := List.find?_eq_some_iff_append.1 hfind
  refine ⟨haccepts, ?_⟩
  -- What is in front of `r` does not accept, and what is behind it ranks no higher.
  have hback : ∀ q ∈ back, q.priority ≤ r.priority := by
    have hdescending := h.descending
    rw [hsplit] at hdescending
    exact (List.pairwise_cons.1 (List.pairwise_append.1 hdescending).2.1).1
  have hle : ∀ q ∈ given, q.controller.accepts p = true → q.priority ≤ r.priority := by
    intro q hq hqp
    have hmem := h.perm.mem_iff.2 hq
    rw [hsplit, List.mem_append, List.mem_cons] at hmem
    rcases hmem with hmem | rfl | hmem
    · have hno := hfront q hmem
      rw [hqp] at hno
      cases hno
    · exact le_rfl
    · exact hback q hmem
  -- Among the entries of its own priority `r` is the first to accept, in either list.
  have hequal : given.find? (fun q => q.priority = r.priority ∧ q.controller.accepts p = true) =
      some r := by
    have hgiven := @List.find?_filter _ given (fun q => decide (q.priority = r.priority))
      (fun q => q.controller.accepts p)
    have hsorted := @List.find?_filter _ sorted (fun q => decide (q.priority = r.priority))
      (fun q => q.controller.accepts p)
    simp only [decide_eq_true_eq] at hgiven hsorted
    rw [← hgiven, ← h.stable, hsorted, hsplit, List.find?_append, List.find?_eq_none.2,
      Option.none_or]
    · simp [haccepts]
    · intro q hq
      have hno := hfront q hq
      simp only [Bool.not_eq_true'] at hno
      simp [hno]
  obtain ⟨_, before, after, hgiven, hbefore⟩ := List.find?_eq_some_iff_append.1 hequal
  refine ⟨before, after, hgiven, fun q hq hqp => ?_, fun q hq hqp => ?_⟩
  · have hno := hbefore q hq
    simp only [hqp, and_true, Bool.not_eq_true', decide_eq_false_iff_not] at hno
    exact lt_of_le_of_ne (hle q (by simp [hgiven, hq]) hqp) hno
  · exact hle q (by simp [hgiven, hq]) hqp

theorem Sorts.find?_eq_some_iff (h : Sorts given sorted) :
    sorted.find? (·.controller.accepts p) = some r ↔ Leads given p r := by
  refine ⟨h.leads_of_find?, fun hleads => ?_⟩
  have ⟨haccepts, before, after, hgiven, _⟩ := hleads
  have hmem : r ∈ sorted := h.perm.mem_iff.2 (by simp [hgiven])
  have hsome : (sorted.find? fun q => q.controller.accepts p).isSome = true :=
    List.find?_isSome.2 ⟨r, hmem, haccepts⟩
  obtain ⟨w, hw⟩ := Option.isSome_iff_exists.1 hsome
  rw [hw, (h.leads_of_find? hw).unique hleads]

/-- An entry keeps leading while what is registered behind it ranks no higher or does not accept. -/
theorem Leads.append (h : Leads given p r) {later : List (Ranked σ)}
    (hlater : ∀ q ∈ later, q.controller.accepts p = true → q.priority ≤ r.priority) :
    Leads (given ++ later) p r := by
  obtain ⟨haccepts, before, after, hgiven, hbefore, hafter⟩ := h
  refine ⟨haccepts, before, after ++ later, by simp [hgiven], hbefore, fun q hq => ?_⟩
  rcases List.mem_append.1 hq with hq | hq
  · exact hafter q hq
  · exact hlater q hq

theorem Leads.le (h : Leads given p r) {q : Ranked σ} (hq : q ∈ given)
    (hqp : q.controller.accepts p = true) : q.priority ≤ r.priority := by
  obtain ⟨_, before, after, hgiven, hbefore, hafter⟩ := h
  rw [hgiven, List.mem_append, List.mem_cons] at hq
  rcases hq with hq | rfl | hq
  · exact (hbefore q hq hqp).le
  · exact le_rfl
  · exact hafter q hq hqp

theorem dispatch_eq_ok_iff (rs : List (Registration σ)) {c : Controller σ} :
    (new.enrolAll rs).dispatch p = .ok c ↔ ∃ k, Leads (rs.map (·.entry)) p ⟨k, c⟩ := by
  have hsorts := enrolAll_sorts rs
  have hfind : (new.enrolAll rs).controllers.find? (·.accepts p) =
      ((new.enrolAll rs).ranked.find? (·.controller.accepts p)).map (·.controller) :=
    List.find?_map
  rw [dispatch, hfind]
  constructor
  · intro h
    cases hlead : (new.enrolAll rs).ranked.find? (·.controller.accepts p) with
    | none => simp [hlead] at h
    | some r =>
        simp only [hlead, Option.map_some, Except.ok.injEq] at h
        exact ⟨r.priority, h ▸ hsorts.find?_eq_some_iff.1 hlead⟩
  · rintro ⟨k, hleads⟩
    rw [hsorts.find?_eq_some_iff.2 hleads]
    rfl

theorem dispatch_eq_error_iff_entries (rs : List (Registration σ)) {e : FlowError} :
    (new.enrolAll rs).dispatch p = .error e ↔
      e = .noMatchingController p.id ∧ ∀ r ∈ rs.map (·.entry), r.controller.accepts p = false := by
  have hperm := (enrolAll_sorts rs).perm
  rw [dispatch_eq_error_iff, controllers, List.forall_mem_map]
  exact and_congr_right fun _ => forall_congr' fun r => by rw [hperm.mem_iff]

theorem enrolAll_append (m : Manager σ) (rs later : List (Registration σ)) :
    m.enrolAll (rs ++ later) = (m.enrolAll rs).enrolAll later :=
  List.foldl_append

theorem dispatch_enrolAll {rs later : List (Registration σ)} {c : Controller σ} {k : Int}
    (h : (new.enrolAll rs).dispatch p = .ok c) (hc : ⟨k, c⟩ ∈ rs.map (·.entry))
    (hlater : ∀ r ∈ later.map (·.entry), r.priority ≤ k ∨ r.controller.accepts p = false) :
    ((new.enrolAll rs).enrolAll later).dispatch p = .ok c := by
  obtain ⟨k', hleads⟩ := (dispatch_eq_ok_iff rs).1 h
  have hk : k ≤ k' := hleads.le hc hleads.1
  rw [← enrolAll_append, dispatch_eq_ok_iff, List.map_append]
  refine ⟨k', hleads.append fun q hq hqp => ?_⟩
  rcases hlater q hq with hle | hno
  · exact hle.trans hk
  · rw [hqp] at hno
    cases hno

end

/-- The controllers stand in the stable sort of their registrations by descending priority. Of those
that accept a process the one of highest priority has it, and of several the one that registered
first. It keeps the process, from its start to its end, whatever else registers without outranking
it. -/
theorem dispatch_follows_registrations (rs : List (Registration σ)) (p : TransferProcess) :
    let m : Manager σ := new.enrolAll rs
    let entries := rs.map (·.entry)
    Sorts entries m.ranked ∧
      m.ranked = entries.mergeSort (fun a b => b.priority ≤ a.priority) ∧
      (∀ c, m.dispatch p = .ok c ↔ ∃ k, Leads entries p ⟨k, c⟩) ∧
      (∀ e, m.dispatch p = .error e ↔
        e = .noMatchingController p.id ∧ ∀ r ∈ entries, r.controller.accepts p = false) ∧
      ∀ c k later, m.dispatch p = .ok c → ⟨k, c⟩ ∈ entries →
        (∀ r ∈ later.map Registration.entry, r.priority ≤ k ∨ r.controller.accepts p = false) →
        let m' := m.enrolAll later
        m'.dispatch p = .ok c ∧
          (∀ policy s, m.initiate p policy s =
            ⟨(c.initiate p policy s).result, (c.initiate p policy s).state,
              .controllerMatched c.name p.id :: (c.initiate p policy s).events⟩) ∧
          ∀ s, m'.terminate p s =
            ⟨(c.terminate p s).result, (c.terminate p s).state,
              .controllerMatched c.name p.id :: (c.terminate p s).events⟩ := by
  intro m entries
  have hsorts : Sorts entries m.ranked := enrolAll_sorts rs
  refine ⟨hsorts, hsorts.eq_mergeSort, fun c => dispatch_eq_ok_iff rs,
    fun e => dispatch_eq_error_iff_entries rs, ?_⟩
  intro c k later hdispatch hc hlater m'
  have hdispatch' : m'.dispatch p = .ok c := dispatch_enrolAll hdispatch hc hlater
  exact ⟨hdispatch', fun policy s => initiate_of_match hdispatch,
    fun s => terminate_of_match hdispatch'⟩

theorem dispatch_keeps_controller :
    let storage : StandIn := ⟨"storage", ["S3"], false, [], ⟨none⟩, none⟩
    let proxied : StandIn := ⟨"proxied", [], true, [], ⟨none⟩, none⟩
    let general : StandIn := ⟨"general", ["*"], false, [], ⟨none⟩, none⟩
    let rs : List (Registration Unit) :=
      [.withPriority (-1) general.controller, .plain storage.controller]
    let later : List (Registration Unit) :=
      [.withPriority 10 proxied.controller, .plain general.controller]
    let p := TransferProcess.between "tp-1" (.ofType "HttpData") (.ofType "S3")
    (new.enrolAll rs).dispatch p = .ok storage.controller ∧
      ((new.enrolAll rs).enrolAll later).dispatch p = .ok storage.controller := by
  intro storage proxied general rs later p
  have hdispatch : (new.enrolAll rs).dispatch p = .ok storage.controller := by rfl
  have hregistered : ⟨0, storage.controller⟩ ∈ rs.map Registration.entry := by
    simp [rs, Registration.entry]
  have hlater : ∀ r ∈ later.map Registration.entry,
      r.priority ≤ 0 ∨ r.controller.accepts p = false := by
    intro r hr
    simp only [later, List.map_cons, List.map_nil, List.mem_cons, List.not_mem_nil, or_false] at hr
    rcases hr with rfl | rfl
    · exact .inr (by rfl)
    · exact .inl le_rfl
  obtain ⟨_, _, _, _, hkeeps⟩ := dispatch_follows_registrations rs p
  exact ⟨hdispatch, (hkeeps storage.controller 0 later hdispatch hregistered hlater).1⟩

end Manager

end FlowBroker
