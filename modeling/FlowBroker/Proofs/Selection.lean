import FlowBroker.Proofs.RegistryHistory

namespace FlowBroker.Selector

structure Selects (s : Selector) (source destination : String) : Prop where
  succeeds_iff : (∃ i, (s.select source destination).1 = .ok i) ↔
    ∃ i ∈ s.all, source ∈ i.sourceTypes ∧ destination ∈ i.destinationTypes
  picked : ∀ i, (s.select source destination).1 = .ok i →
    i ∈ s.all ∧ s.find? i.id = some i ∧ source ∈ i.sourceTypes ∧ destination ∈ i.destinationTypes
  refused : ∀ e, (s.select source destination).1 = .error e →
    e = .noCapableWorker source destination
  earliest : s.strategy = .first → ∀ i, (s.select source destination).1 = .ok i →
    ∃ before after, s.all = before ++ i :: after ∧
      ∀ j ∈ before, ¬(source ∈ j.sourceTypes ∧ destination ∈ j.destinationTypes)
  all : (s.select source destination).2.all = s.all
  turn : ∀ cursor i, s.strategy = .roundRobin cursor → (s.select source destination).1 = .ok i →
    (s.select source destination).2.strategy = .roundRobin (cursor + 1)
  idle : ∀ e, (s.select source destination).1 = .error e → (s.select source destination).2 = s

theorem select_succeeds_iff (s : Selector) (source destination : String) :
    (∃ i, (s.select source destination).1 = .ok i) ↔ ∃ i, i ∈ s.capable source destination := by
  rcases s.select_cases source destination with ⟨hnone, hs⟩ | ⟨i, hi, _, hs⟩
  · simp [hs, hnone]
  · exact ⟨fun _ => ⟨i, hi⟩, fun _ => ⟨i, congrArg Prod.fst hs⟩⟩

theorem earliest_of_select {s : Selector} {source destination : String} {i : Instance}
    (hfirst : s.strategy = .first) (h : (s.select source destination).1 = .ok i) :
    ∃ before after, s.all = before ++ i :: after ∧
      ∀ j ∈ before, ¬(source ∈ j.sourceTypes ∧ destination ∈ j.destinationTypes) := by
  have hindex := (select_ok h).2.1
  rw [hfirst] at hindex
  have hhead : (s.capable source destination).head? = some i := by
    rw [List.head?_eq_getElem?]
    exact hindex
  rw [capable, List.head?_filter, List.find?_eq_some_iff_append] at hhead
  obtain ⟨_, before, after, hall, hbefore⟩ := hhead
  refine ⟨before, after, hall, ?_⟩
  intro j hj hcan
  have hno := hbefore j hj
  rw [Instance.canMove_iff.2 hcan] at hno
  cases hno

theorem select_selects (s : Selector) (source destination : String) :
    Selects s source destination := by
  refine
    { succeeds_iff := ?_
      picked := ?_
      refused := fun e he => (select_error he).2.1
      earliest := fun hfirst i hi => earliest_of_select hfirst hi
      all := congrArg Roster.toList (s.select_registry source destination)
      turn := ?_
      idle := fun e he => (select_error he).2.2 }
  · rw [select_succeeds_iff]
    exact exists_congr fun i => mem_capable
  · intro i hi
    obtain ⟨hmem, hsource, hdestination⟩ := mem_capable.1 (select_ok hi).1
    exact ⟨hmem, Roster.find?_eq_some_iff.2 ⟨hmem, rfl⟩, hsource, hdestination⟩
  · intro cursor i hcursor hi
    rw [(select_ok hi).2.2, hcursor]
    rfl

theorem find?_run_of_untouched {s : Selector} {id : String} {ops : List Operation}
    (h : ∀ op ∈ ops, op.subject? ≠ some id) : (s.run ops).find? id = s.find? id := by
  induction ops using List.reverseRecOn with
  | nil => rfl
  | append_singleton ops op ih =>
      have hop := h op (by simp)
      rw [run_snoc, find?_apply, if_neg hop]
      exact ih fun o ho => h o (by simp [ho])

theorem select_of_untouched {s : Selector} {i : Instance} {source destination : String}
    {ops : List Operation} (hi : i ∈ s.capable source destination)
    (h : ∀ op ∈ ops, op.subject? ≠ some i.id) :
    ∃ j, ((s.run ops).select source destination).1 = .ok j := by
  obtain ⟨hmem, hcan⟩ := mem_capable.1 hi
  have hfind : (s.run ops).find? i.id = some i := by
    rw [find?_run_of_untouched h]
    exact Roster.find?_eq_some_iff.2 ⟨hmem, rfl⟩
  refine (select_succeeds_iff _ _ _).2 ⟨i, mem_capable.2 ⟨?_, hcan⟩⟩
  exact (Roster.find?_eq_some_iff.1 hfind).1

theorem cursor_apply {s : Selector} {cursor : UInt64} (h : s.strategy = .roundRobin cursor)
    (op : Operation) :
    (s.apply op).strategy = .roundRobin cursor ∨
      ∃ source destination i, op = .select source destination ∧
        (s.select source destination).1 = .ok i ∧
        (s.apply op).strategy = .roundRobin (cursor + 1) := by
  cases op with
  | add _ | remove _ => exact .inl h
  | select source destination =>
      rcases s.select_cases source destination with ⟨_, hs⟩ | ⟨i, _, _, hs⟩
      · exact .inl (by rw [apply, hs, h])
      · exact .inr ⟨source, destination, i, rfl, congrArg Prod.fst hs, by rw [apply, hs, h]; rfl⟩

/-- At every point of a run a selection succeeds exactly when some registered instance is capable,
and only then a cursor moves. An instance that no operation of the run is about keeps all selections
going that it is capable of. -/
theorem run_selects (s : Selector) (ops : List Operation) :
    (∀ source destination, Selects (s.run ops) source destination) ∧
      (∀ cursor, (s.run ops).strategy = .roundRobin cursor → ∀ op,
        ((s.run ops).apply op).strategy = .roundRobin cursor ∨
          ∃ source destination i, op = .select source destination ∧
            ((s.run ops).select source destination).1 = .ok i ∧
            ((s.run ops).apply op).strategy = .roundRobin (cursor + 1)) ∧
      ∀ i source destination, i ∈ s.all → source ∈ i.sourceTypes →
        destination ∈ i.destinationTypes → (∀ op ∈ ops, op.subject? ≠ some i.id) →
        ∀ before, before ++ [.select source destination] <+: ops →
          ∃ j, ((s.run before).select source destination).1 = .ok j := by
  refine ⟨select_selects (s.run ops), fun cursor => cursor_apply, ?_⟩
  intro i source destination hmem hsource hdestination huntouched before hbefore
  refine select_of_untouched (mem_capable.2 ⟨hmem, hsource, hdestination⟩) fun op hop => ?_
  exact huntouched op (hbefore.subset (List.mem_append_left _ hop))

end FlowBroker.Selector
