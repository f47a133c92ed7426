import FlowBroker.Flow.Push
import Mathlib.Logic.Function.Basic

namespace FlowBroker

inductive ControlStep where
  | add (i : Instance)
  | remove (id : String)
  | initiate (p : TransferProcess) (policy : Policy)
  | terminate (p : TransferProcess)

namespace Control

def perform (push : Push) (network : Http.Network) : ControlStep → Run (Control Planes) Unit
  | .add i => add i
  | .remove id => do
      let _ ← remove id
  | .initiate p policy => do
      let _ ← (push.controller (Planes.transport network)).initiate p policy
  | .terminate p => do
      let _ ← (push.controller (Planes.transport network)).terminate p

def run (push : Push) (network : Http.Network) (steps : List ControlStep) (c : Control Planes) :
    Control Planes :=
  steps.foldl (fun c step => (perform push network step c).state) c

end Control

/-- The flows that there ought to be, by process id, and what decides about them. -/
structure Ledger where
  selector : Selector
  series : Nat
  issued : Nat
  flows : String → Option Request

namespace Ledger

def lacksCallback (push : Push) : Bool := push.requiresCallback && push.callback.isNone

def asked? (push : Push) (l : Ledger) (p : TransferProcess) : Option Instance :=
  if lacksCallback push then none
  else (l.selector.select p.source.type p.destination.type).1.toOption

/-- Whether a process gets a flow: the instance asked is embedded, and the request is complete. -/
def admits (push : Push) (l : Ledger) (p : TransferProcess) : Bool :=
  (l.asked? push p).any (·.url.scheme = "embedded") &&
    p.id ≠ "" && p.source.type ≠ "" && p.destination.type ≠ ""

def entry (push : Push) (l : Ledger) (p : TransferProcess) : Request where
  id := .ofNumbers l.series l.issued
  processId := p.id
  trackable := true
  source := p.source
  destination := p.destination
  transferType := p.transferType
  callback := push.callback

def next (push : Push) (l : Ledger) : ControlStep → Ledger
  | .add i => { l with selector := l.selector.add i }
  | .remove id => { l with selector := (l.selector.remove id).2 }
  | .initiate p _ =>
      let flows := if l.admits push p then Function.update l.flows p.id (some (l.entry push p))
        else l.flows
      if lacksCallback push then { l with flows := flows }
      else { l with
        selector := (l.selector.select p.source.type p.destination.type).2
        issued := l.issued + 1
        flows := flows }
  | .terminate p => { l with
      flows := if l.selector.all.any (·.url.scheme = "embedded") then
        Function.update l.flows p.id none
      else l.flows }

def remotes (push : Push) (l : Ledger) : ControlStep → List Instance
  | .add _ | .remove _ => []
  | .initiate p _ => (l.asked? push p).toList.filter (·.url.scheme ≠ "embedded")
  | .terminate _ => l.selector.all.filter (·.url.scheme ≠ "embedded")

def httpRequest? (push : Push) (l : Ledger) : ControlStep → Instance → Option Http.Request
  | .add _, _ | .remove _, _ => none
  | .initiate p _, i =>
      Remote.sendable? .post (some (l.entry push p).encode) (Remote.transferEndpoint i.url)
  | .terminate p, i => Remote.sendable? .delete none (Remote.processEndpoint i.url p.id)

end Ledger

namespace Control

def ledger (c : Control Planes) : Ledger :=
  ⟨c.selector, c.series, c.issued, c.planes.flows.find?⟩

theorem isEmbedded_iff {i : Instance} : i.isEmbedded = true ↔ i.url.scheme = "embedded" :=
  decide_eq_true_iff

section

variable (push : Push) (network : Http.Network) (p : TransferProcess) (c : Control Planes)

/-- An initiation asks the one instance or none, and touches data planes only by asking it. -/
theorem initiate_cases :
    let done := push.initiate (Planes.transport network) p c
    (c.ledger.asked? push p = none ∧ done.state.planes = c.planes ∧
        requestsSent done.events = []) ∨
      ∃ i, c.ledger.asked? push p = some i ∧
        let asked := (Planes.transport network).transfer i (push.request p c) c.planes
        done.result = Push.answer asked.result ∧ done.state.planes = asked.state ∧
          requestsSent done.events = requestsSent asked.events := by
  by_cases hlacks : Ledger.lacksCallback push = true
  · have hobstacle : push.obstacle? = some (.configurationMissing "control API callback url") :=
      if_pos hlacks
    rw [Push.initiate_of_obstacle hobstacle, Ledger.asked?, if_pos hlacks]
    exact .inl ⟨rfl, rfl, rfl⟩
  · have hclear : push.obstacle? = none := if_neg hlacks
    have hasked : c.ledger.asked? push p =
        (c.selector.select p.source.type p.destination.type).1.toOption :=
      if_neg hlacks
    rw [hasked]
    rcases c.selector.select_cases p.source.type p.destination.type with
      ⟨hnone, hselect⟩ | ⟨i, _, _, hselect⟩
    · rw [Push.initiate_of_incapable hclear hnone, hselect]
      exact .inl ⟨rfl, rfl, rfl⟩
    · rw [Push.initiate_of_selected hclear hselect, hselect]
      refine .inr ⟨i, rfl, rfl, rfl, ?_⟩
      have hreport (o : Outcome Unit) : requestsSent [Push.report p.id o] = [] := by
        cases o <;> rfl
      change requestsSent ([.clientCreated i.id] ++ _ ++ [_]) = _
      rw [requestsSent_append, requestsSent_append, hreport, List.append_nil]
      rfl

theorem initiate_state :
    (push.initiate (Planes.transport network) p c).state =
      if Ledger.lacksCallback push then c
      else { c with
        selector := (c.selector.select p.source.type p.destination.type).2
        issued := c.issued + 1
        planes := (push.initiate (Planes.transport network) p c).state.planes } := by
  split
  · next hlacks => rw [Push.initiate_of_obstacle (if_pos hlacks)]
  · next hlacks =>
    have hclear : push.obstacle? = none := if_neg hlacks
    rcases c.selector.select_cases p.source.type p.destination.type with
      ⟨hnone, hselect⟩ | ⟨i, _, _, hselect⟩
    · rw [Push.initiate_of_incapable hclear hnone, hselect]
    · rw [Push.initiate_of_selected hclear hselect, hselect]

theorem admits_iff {l : Ledger} {i : Instance} (h : l.asked? push p = some i) :
    l.admits push p = true ↔
      i.isEmbedded = true ∧ FlowTable.objection? (l.entry push p) = none := by
  rw [FlowTable.objection?_eq_none_iff, isEmbedded_iff, Ledger.admits, h]
  simp [Ledger.entry, and_assoc]

theorem find?_initiate :
    (push.initiate (Planes.transport network) p c).state.planes.flows.find? =
      if c.ledger.admits push p then
        Function.update c.ledger.flows p.id (some (c.ledger.entry push p))
      else c.ledger.flows := by
  rcases initiate_cases push network p c with ⟨hnone, hplanes, _⟩ | ⟨i, hi, _, hplanes, _⟩
  · have hadmits : c.ledger.admits push p = false := by rw [Ledger.admits, hnone]; rfl
    rw [hplanes, hadmits]
    rfl
  · have hadmits := admits_iff push p hi
    rw [hplanes, Planes.flows_transfer]
    funext id
    by_cases hemb : i.isEmbedded = true
    · rw [if_pos hemb, FlowTable.find?_transfer]
      simp only [hemb, true_and] at hadmits
      by_cases hvalid : FlowTable.objection? (push.request p c) = none
      · rw [if_pos (hadmits.2 hvalid), Function.update_apply]
        simp only [hvalid, true_and]
        rfl
      · rw [if_neg (mt hadmits.1 hvalid), if_neg fun h => hvalid h.1]
        rfl
    · rw [if_neg hemb, if_neg fun h => hemb (hadmits.1 h).1]
      rfl

theorem flows_of_failed {e : FlowError}
    (h : (push.initiate (Planes.transport network) p c).result = .error e) :
    (push.initiate (Planes.transport network) p c).state.planes.flows = c.planes.flows := by
  rcases initiate_cases push network p c with ⟨_, hplanes, _⟩ | ⟨i, _, hresult, hplanes, _⟩
  · rw [hplanes]
  · rw [hplanes, Planes.flows_transfer]
    split
    · next hemb =>
      rw [hresult] at h
      cases hvalid : FlowTable.objection? (push.request p c) with
      | none =>
          simp [Planes.transport, hemb, Planes.onFlows, Run.within, FlowTable.transfer, hvalid,
            Push.answer] at h
      | some reason => simp [FlowTable.transfer, hvalid]
    · rfl

/-- However many embedded instances end the flow of a process, it ends once. -/
theorem flows_fanout (process : String) (instances : List Instance) (planes : Planes) :
    (Run.each (Push.terminateOn (Planes.transport network) process) instances
      planes).state.flows =
        if instances.any (·.isEmbedded) then planes.flows.erase process else planes.flows := by
  induction instances generalizing planes with
  | nil => rfl
  | cons i is ih =>
      have hone : (Push.terminateOn (Planes.transport network) process i planes).state.flows =
          if i.isEmbedded then planes.flows.erase process else planes.flows :=
        Planes.flows_terminate
      rw [Run.each_cons]
      simp only [ih, hone, List.any_cons, Bool.or_eq_true]
      by_cases hi : i.isEmbedded = true
      · simp [hi, Roster.erase_erase]
      · simp [hi]

theorem flows_terminate :
    (perform push network (.terminate p) c).state.planes.flows =
      if c.selector.all.any (·.isEmbedded) then c.planes.flows.erase p.id else c.planes.flows := by
  change (Push.terminate (Planes.transport network) p c).state.planes.flows = _
  rw [Push.terminate_apply]
  exact flows_fanout network p.id c.selector.all c.planes

theorem ledger_perform (step : ControlStep) :
    (perform push network step c).state.ledger = c.ledger.next push step := by
  cases step with
  | add _ | remove _ => rfl
  | initiate p policy =>
      change (push.initiate (Planes.transport network) p c).state.ledger = _
      rw [ledger, find?_initiate, initiate_state, Ledger.next]
      split <;> rfl
  | terminate p =>
      have hrest : (perform push network (.terminate p) c).state.ledger =
          { c.ledger with
            flows := (perform push network (.terminate p) c).state.planes.flows.find? } := by
        change (Push.terminate (Planes.transport network) p c).state.ledger = { c.ledger with
          flows := (Push.terminate (Planes.transport network) p c).state.planes.flows.find? }
        rw [Push.terminate_apply]
        rfl
      have hflows : (if c.selector.all.any (·.isEmbedded) then c.planes.flows.erase p.id
          else c.planes.flows).find? =
            if c.selector.all.any (·.isEmbedded) then Function.update c.ledger.flows p.id none
            else c.ledger.flows := by
        split
        · funext id
          rw [Roster.find?_erase, Function.update_apply]
          rfl
        · rfl
      rw [hrest, flows_terminate, hflows]
      rfl

theorem ledger_run (steps : List ControlStep) :
    (run push network steps c).ledger = steps.foldl (Ledger.next push) c.ledger := by
  induction steps generalizing c with
  | nil => rfl
  | cons step steps ih =>
      rw [List.foldl_cons, ← ledger_perform push network c step]
      exact ih _

theorem remote_filterMap {β : Type} (f : Instance → Option β) (i : Instance) :
    ([i].filter (·.url.scheme ≠ "embedded")).filterMap f =
      if i.isEmbedded then [] else (f i).toList := by
  by_cases hi : i.url.scheme = "embedded"
  · simp [hi, isEmbedded_iff.2 hi]
  · rw [if_neg (mt isEmbedded_iff.1 hi), List.filter_cons_of_pos (by simpa using hi)]
    cases hf : f i <;> simp [hf]

theorem requestsSent_fanout (process : String) (instances : List Instance) (planes : Planes) :
    requestsSent (Run.each (Push.terminateOn (Planes.transport network) process) instances
      planes).events =
        (instances.filter (·.url.scheme ≠ "embedded")).filterMap fun i =>
          Remote.sendable? .delete none (Remote.processEndpoint i.url process) := by
  induction instances generalizing planes with
  | nil => rfl
  | cons i is ih =>
      have hone : requestsSent
          (Push.terminateOn (Planes.transport network) process i planes).events = _ :=
        Planes.requestsSent_terminate
      rw [Run.each_cons, requestsSent_append, ih, hone, ← List.singleton_append (l := is),
        List.filter_append, List.filterMap_append, remote_filterMap]

theorem requestsSent_perform (step : ControlStep) :
    requestsSent (perform push network step c).events =
      (c.ledger.remotes push step).filterMap (c.ledger.httpRequest? push step) := by
  cases step with
  | add i =>
      simp only [perform, add]
      split <;> rfl
  | remove id =>
      simp only [perform, remove, Run.bind_apply]
      split <;> rfl
  | initiate p policy =>
      change requestsSent ((push.initiate (Planes.transport network) p c).events ++ []) = _
      rw [List.append_nil, Ledger.remotes]
      rcases initiate_cases push network p c with ⟨hnone, _, hsent⟩ | ⟨i, hi, _, _, hsent⟩
      · rw [hsent, hnone]
        rfl
      · rw [hsent, hi, Option.toList_some, remote_filterMap]
        exact Planes.requestsSent_transfer
  | terminate p =>
      change requestsSent ((Push.terminate (Planes.transport network) p c).events ++ []) = _
      rw [List.append_nil, Push.terminate_apply]
      change requestsSent (_ ++ _) = _
      rw [requestsSent_append, requestsSent_fanout]
      split <;> exact List.append_nil _

end

/-- Along every run, on every network and from every state, the flow table is that of the ledger,
and HTTP requests go to remote instances alone. An initiation that fails leaves the table as it is.
While some registered instance is embedded, ending a flow leaves none of its process, and ending it
again changes nothing. -/
theorem flows_follow_ledger (push : Push) (network : Http.Network) (steps : List ControlStep)
    (c : Control Planes) :
    let reached := run push network steps c
    reached.ledger = steps.foldl (Ledger.next push) c.ledger ∧
      (∀ step, requestsSent (perform push network step reached).events =
        (reached.ledger.remotes push step).filterMap (reached.ledger.httpRequest? push step)) ∧
      (∀ p policy e,
        ((push.controller (Planes.transport network)).initiate p policy reached).result = .error e →
        (perform push network (.initiate p policy) reached).state.planes.flows =
          reached.planes.flows) ∧
      ∀ p, (∃ i ∈ reached.selector.all, i.url.scheme = "embedded") →
        let ended := (perform push network (.terminate p) reached).state
        ended.planes.flows.find? p.id = none ∧
          (perform push network (.terminate p) ended).state.planes.flows = ended.planes.flows := by
  intro reached
  refine ⟨ledger_run push network c steps, requestsSent_perform push network reached,
    fun p _ _ => flows_of_failed push network p reached, ?_⟩
  rintro p ⟨i, hi, hscheme⟩
  have hany : reached.selector.all.any (·.isEmbedded) = true :=
    List.any_eq_true.2 ⟨i, hi, isEmbedded_iff.2 hscheme⟩
  have hended := flows_terminate push network p reached
  rw [if_pos hany] at hended
  constructor
  · rw [hended, Roster.find?_erase, if_pos rfl]
  · rw [flows_terminate, hended, Roster.erase_erase, ite_self]

end Control

end FlowBroker
