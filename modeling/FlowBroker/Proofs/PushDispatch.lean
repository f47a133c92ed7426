import FlowBroker.Flow.Manager
import FlowBroker.Flow.Push
import FlowBroker.Rehearsal

namespace FlowBroker

variable {τ α : Type}

inductive Call where
  | connect (i : Instance)
  | transfer (i : Instance) (r : Request)
  | terminate (i : Instance) (process : String)

def Call.isTransfer : Call → Bool
  | transfer _ _ => true
  | connect _ | terminate _ _ => false

def Call.noted (call : Call) (x : Run τ α) : Run (τ × List Call) α := fun s =>
  let r := x s.1
  ⟨r.result, (r.state, s.2 ++ [call]), r.events⟩

def Transport.recorded (t : Transport τ) : Transport (τ × List Call) where
  connect i := Call.noted (.connect i) (t.connect i)
  transfer i r := Call.noted (.transfer i r) (t.transfer i r)
  terminate i process := Call.noted (.terminate i process) (t.terminate i process)

/-- A controller that starts flows without the registry and the data planes. -/
def Controller.IsAloof (k : Controller (Control τ)) : Prop :=
  ∀ p policy c, (k.initiate p policy c).state.selector = c.selector ∧
    (k.initiate p policy c).state.planes = c.planes

theorem StandIn.isAloof (s : StandIn) : (s.controller : Controller (Control τ)).IsAloof :=
  fun _ _ _ => ⟨rfl, rfl⟩

/-- How an initiation by the push controller ends. Without a callback that it needs, nothing is
looked at; without a capable instance, no data plane is called; otherwise one is, once. -/
structure AsksOnce (t : Transport τ) (push : Push) (p : TransferProcess)
    (c : Control (τ × List Call)) (result : Except FlowError Response)
    (c' : Control (τ × List Call)) : Prop where
  unset : push.requiresCallback = true ∧ push.callback = none →
    result = .error (.configurationMissing "control API callback url") ∧ c' = c
  incapable : ¬(push.requiresCallback = true ∧ push.callback = none) →
    (∀ i ∈ c.selector.all,
      ¬(p.source.type ∈ i.sourceTypes ∧ p.destination.type ∈ i.destinationTypes)) →
    result = .error (.noCapableWorker p.source.type p.destination.type) ∧
      c'.selector = c.selector ∧ c'.planes = c.planes
  asked : ¬(push.requiresCallback = true ∧ push.callback = none) →
    (∃ i ∈ c.selector.all,
      p.source.type ∈ i.sourceTypes ∧ p.destination.type ∈ i.destinationTypes) →
    ∃ i ∈ c.selector.all,
      (p.source.type ∈ i.sourceTypes ∧ p.destination.type ∈ i.destinationTypes) ∧
      c.selector.select p.source.type p.destination.type = (.ok i, c'.selector) ∧
      c'.selector.all = c.selector.all ∧
      ∃ r : Request, r.processId = p.id ∧ r.trackable = true ∧ r.source = p.source ∧
        r.destination = p.destination ∧ r.transferType = p.transferType ∧
        r.callback = push.callback ∧
        c'.planes.2 = c.planes.2 ++ [.connect i, .transfer i r] ∧
        let asked := t.transfer i r (t.connect i c.planes.1).state
        c'.planes.1 = asked.state ∧ (asked.result = .ok () → result = .ok ⟨none⟩) ∧
          ∀ f, asked.result = .error f → result = .error (.dispatchFailure f)

theorem AsksOnce.calls {t : Transport τ} {push : Push} {p : TransferProcess}
    {c c' : Control (τ × List Call)} {result : Except FlowError Response}
    (h : AsksOnce t push p c result c') :
    ∃ made, c'.planes.2 = c.planes.2 ++ made ∧ (made.filter Call.isTransfer).length ≤ 1 := by
  by_cases hunset : push.requiresCallback = true ∧ push.callback = none
  · exact ⟨[], by simp [(h.unset hunset).2], Nat.zero_le 1⟩
  · by_cases hcapable : ∃ i ∈ c.selector.all,
        p.source.type ∈ i.sourceTypes ∧ p.destination.type ∈ i.destinationTypes
    · obtain ⟨i, _, _, _, _, r, _, _, _, _, _, _, hcalls, _⟩ := h.asked hunset hcapable
      exact ⟨_, hcalls, Nat.le_refl 1⟩
    · simp only [not_exists, not_and] at hcapable
      have hsame := (h.incapable hunset fun i hi hcan => hcapable i hi hcan.1 hcan.2).2.2
      exact ⟨[], by simp [hsame], Nat.zero_le 1⟩

theorem Push.initiate_recorded (t : Transport τ) (push : Push) (p : TransferProcess)
    (c : Control (τ × List Call)) :
    AsksOnce t push p c (push.initiate t.recorded p c).result
      (push.initiate t.recorded p c).state := by
  constructor
  · intro hunset
    have hobstacle : push.obstacle? = some (.configurationMissing "control API callback url") := by
      simp [obstacle?, hunset]
    rw [initiate_of_obstacle hobstacle]
    exact ⟨rfl, rfl⟩
  · intro hset hincapable
    have hnone : c.selector.capable p.source.type p.destination.type = [] :=
      List.eq_nil_iff_forall_not_mem.2 fun i hi =>
        hincapable i (Selector.mem_capable.1 hi).1 (Selector.mem_capable.1 hi).2
    rw [initiate_of_incapable (obstacle?_eq_none_iff.2 hset) hnone]
    exact ⟨rfl, rfl, rfl⟩
  · rintro hset ⟨j, hj, hcan⟩
    have hmem := Selector.mem_capable.2 ⟨hj, hcan⟩
    rcases c.selector.select_cases p.source.type p.destination.type with
      ⟨hnone, _⟩ | ⟨i, hi, _, hselect⟩
    · rw [hnone] at hmem
      cases hmem
    · obtain ⟨hall, htypes⟩ := Selector.mem_capable.1 hi
      rw [initiate_of_selected (obstacle?_eq_none_iff.2 hset) hselect]
      refine ⟨i, hall, htypes, hselect, rfl, push.request p c, rfl, rfl, rfl, rfl, rfl, rfl,
        ?_, rfl, ?_, ?_⟩
      · exact List.append_assoc _ _ _
      · intro hok
        exact congrArg answer hok
      · intro f hf
        exact congrArg answer hf

/-- Of all controllers of a manager only the push controller reaches data planes. Then one
initiation makes at most one transfer call, none at all if no controller takes the process, and if
the push controller takes it, one exactly when nothing is missing. -/
theorem Manager.initiate_asks_once (t : Transport τ) (push : Push)
    (m : Manager (Control (τ × List Call)))
    (others : ∀ k ∈ m.controllers, k = push.controller t.recorded ∨ k.IsAloof)
    (p : TransferProcess) (policy : Policy) (c : Control (τ × List Call)) :
    (∃ made, (m.initiate p policy c).state.planes.2 = c.planes.2 ++ made ∧
        (made.filter Call.isTransfer).length ≤ 1) ∧
      ((∀ k ∈ m.controllers, k.accepts p = false) →
        (m.initiate p policy c).result = .error (.noMatchingController p.id) ∧
          (m.initiate p policy c).state = c) ∧
      (m.dispatch p = .ok (push.controller t.recorded) →
        AsksOnce t push p c (m.initiate p policy c).result (m.initiate p policy c).state) := by
  have hpush : m.dispatch p = .ok (push.controller t.recorded) →
      AsksOnce t push p c (m.initiate p policy c).result (m.initiate p policy c).state := by
    intro hdispatch
    rw [initiate_of_match hdispatch]
    exact push.initiate_recorded t p c
  refine ⟨?_, ?_, hpush⟩
  · cases hdispatch : m.dispatch p with
    | error e =>
        rw [initiate_of_unmatched (dispatch_eq_error_iff.1 hdispatch).2]
        exact ⟨[], (List.append_nil _).symm, Nat.zero_le 1⟩
    | ok k =>
        rcases others k (dispatch_eq_ok hdispatch).1 with rfl | haloof
        · exact (hpush hdispatch).calls
        · rw [initiate_of_match hdispatch]
          refine ⟨[], ?_, Nat.zero_le 1⟩
          rw [List.append_nil]
          exact congrArg Prod.snd (haloof p policy c).2
  · intro hnone
    rw [initiate_of_unmatched hnone]
    exact ⟨rfl, rfl⟩

theorem Manager.initiate_asks_once_beside_stand_in :
    let push : Push := ⟨none, false⟩
    let t := Rehearsal.transport.recorded
    let pulls : StandIn := ⟨"consumer-pull", [proxyType], true, [], ⟨none⟩, none⟩
    let m := (Manager.new.register (push.controller t)).registerWithPriority 1 pulls.controller
    let p := TransferProcess.between "tp-1" (.ofType "HttpData") (.ofType "S3")
    let i := ((Instance.located "dp-1" ⟨"embedded", none, ['d', 'p'], none, none⟩).allowSource
      "HttpData").allowDestination "S3"
    let c : Control (Rehearsal × List Call) :=
      ⟨.withInstances (.roundRobin 18446744073709551615) [i], (.empty, []), 0, 0⟩
    (∀ k ∈ m.controllers, k = push.controller t ∨ k.IsAloof) ∧
      ∃ r : Request, r.processId = "tp-1" ∧
        (m.initiate p .none c).state.planes.2 = [.connect i, .transfer i r] := by
  intro push t pulls m p i c
  have others : ∀ k ∈ m.controllers, k = push.controller t ∨ k.IsAloof := by
    intro k hk
    have hk' : k ∈ [pulls.controller, push.controller t] := hk
    simp only [List.mem_cons, List.not_mem_nil, or_false] at hk'
    rcases hk' with rfl | rfl
    · exact .inr pulls.isAloof
    · exact .inl rfl
  have hdispatch : m.dispatch p = .ok (push.controller t) := rfl
  have hcan : p.source.type ∈ i.sourceTypes ∧ p.destination.type ∈ i.destinationTypes :=
    ⟨TypeSet.mem_insert.2 (.inl rfl), TypeSet.mem_insert.2 (.inl rfl)⟩
  obtain ⟨_, _, honce⟩ := Manager.initiate_asks_once Rehearsal.transport push m others p .none c
  obtain ⟨j, hj, _, _, _, r, hprocess, _, _, _, _, _, hcalls, _⟩ :=
    (honce hdispatch).asked (by simp [push]) ⟨i, List.mem_singleton_self i, hcan⟩
  obtain rfl : j = i := List.mem_singleton.1 hj
  exact ⟨others, r, hprocess, hcalls⟩

end FlowBroker
