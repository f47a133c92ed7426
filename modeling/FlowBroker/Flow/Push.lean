import FlowBroker.Flow.Manager
import FlowBroker.Plane.Selector
import FlowBroker.Plane.Transport

namespace FlowBroker

/-- What flows are started with: the registry, the data planes, and the supply of request ids. -/
structure Control (τ : Type) where
  selector : Selector
  planes : τ
  /-- The first half of every request id. -/
  series : Nat
  /-- How many request ids have been given out. -/
  issued : Nat

namespace Control

variable {τ α : Type}

def onPlanes (x : Run τ α) : Run (Control τ) α :=
  x.within (·.planes) fun c planes => { c with planes := planes }

def issue : Run (Control τ) Uuid := fun c =>
  ⟨.ofNumbers c.series c.issued, { c with issued := c.issued + 1 }, []⟩

def select (source destination : String) : Run (Control τ) (Except FlowError Instance) := fun c =>
  match c.selector.select source destination with
  | (.ok i, selector) => ⟨.ok i, { c with selector := selector }, [.planeSelected i.id]⟩
  | (.error e, selector) => ⟨.error e, { c with selector := selector }, []⟩

def add (i : Instance) : Run (Control τ) Unit := fun c =>
  let event := if (c.selector.find? i.id).isSome then Event.instanceUpdated i.id
    else .instanceRegistered i.id
  ⟨(), { c with selector := c.selector.add i }, [event]⟩

def remove (id : String) : Run (Control τ) (Option Instance) := fun c =>
  let (found, selector) := c.selector.remove id
  ⟨found, { c with selector := selector }, if found.isSome then [.instanceRemoved id] else []⟩

end Control

structure Push where
  callback : Option Url
  requiresCallback : Bool

namespace Push

variable {τ : Type}

def name : String := "provider-push"

/-- Processes that go through the proxy or whose transfer type is a pull are left to others. -/
def accepts (p : TransferProcess) : Bool :=
  p.destinationType ≠ proxyType && !(p.transferType?.any (·.flow = .pull))

def obstacle? (push : Push) : Option FlowError :=
  if push.requiresCallback && push.callback.isNone then
    some (.configurationMissing "control API callback url")
  else none

def answer : Outcome Unit → Except FlowError Response
  | .ok () => .ok .empty
  | .error f => .error (.dispatchFailure f)

def report (process : String) : Outcome Unit → Event
  | .ok () => .flowDispatched process
  | .error _ => .dispatchFailed process

def transferOn (transport : Transport τ) (r : Request) (i : Instance) :
    Run (Control τ) (Except FlowError Response) := do
  Control.onPlanes (transport.connect i)
  let outcome ← Control.onPlanes (transport.transfer i r)
  Run.emit (report r.processId outcome)
  pure (answer outcome)

def initiate (push : Push) (transport : Transport τ) (p : TransferProcess) :
    Run (Control τ) (Except FlowError Response) := do
  match push.obstacle? with
  | some e => pure (.error e)
  | none =>
      let request := Request.forProcess (← Control.issue) p push.callback
      match ← Control.select p.source.type p.destination.type with
      | .error e => pure (.error e)
      | .ok i => transferOn transport request i

def terminateOn (transport : Transport τ) (process : String) (i : Instance) :
    Run τ (Outcome Unit) := do
  transport.connect i
  transport.terminate i process

def failed (instances : List Instance) (outcomes : List (Outcome Unit)) : List String :=
  ((instances.zip outcomes).filter fun c => !c.2.isOk).map fun c => c.1.id

def verdict (instances : List Instance) (outcomes : List (Outcome Unit)) : Except FlowError Unit :=
  match Outcome.reduce outcomes with
  | .ok () => .ok ()
  | .error f => .error (.terminationPartialFailure f (failed instances outcomes))

/-- Which data plane has the flow is not recorded, so every one is asked. -/
def terminate (transport : Transport τ) (p : TransferProcess) :
    Run (Control τ) (Except FlowError Unit) := do
  let instances := (← Run.get).selector.all
  Run.emit (.terminationBegun p.id)
  let outcomes ← Control.onPlanes (Run.each (terminateOn transport p.id) instances)
  match verdict instances outcomes with
  | .ok () => pure (.ok ())
  | .error e =>
      Run.emit (.terminationIncomplete p.id)
      pure (.error e)

def transferTypes (selector : Selector) (asset : Asset) : TypeSet :=
  .ofList ((selector.all.filter (·.acceptsSource asset.address.type)).flatMap fun i =>
    i.destinationTypes.toList.map fun type => (TransferType.push type).toString)

def controller (push : Push) (transport : Transport τ) : Controller (Control τ) where
  name := name
  accepts := accepts
  initiate := fun p _ => push.initiate transport p
  terminate := terminate transport
  transferTypes := fun c asset => transferTypes c.selector asset

def request (push : Push) (p : TransferProcess) (c : Control τ) : Request :=
  .forProcess (.ofNumbers c.series c.issued) p push.callback

section

variable {push : Push} {t : Transport τ} {p : TransferProcess} {c : Control τ}

theorem obstacle?_eq_none_iff :
    push.obstacle? = none ↔ ¬(push.requiresCallback = true ∧ push.callback = none) := by
  simp [obstacle?]

theorem initiate_of_obstacle {e : FlowError} (h : push.obstacle? = some e) :
    push.initiate t p c = ⟨.error e, c, []⟩ := by
  rw [initiate, h]
  rfl

theorem initiate_of_incapable (h : push.obstacle? = none)
    (hs : c.selector.capable p.source.type p.destination.type = []) :
    push.initiate t p c =
      ⟨.error (.noCapableWorker p.source.type p.destination.type),
        { c with issued := c.issued + 1 }, []⟩ := by
  obtain ⟨_, hselect⟩ | ⟨i, hi, _⟩ :=
    c.selector.select_cases p.source.type p.destination.type
  · simp only [initiate, h, Run.bind_apply, Control.issue, Control.select, hselect]
    rfl
  · rw [hs] at hi
    cases hi

theorem initiate_of_selected {i : Instance} {selector : Selector} (h : push.obstacle? = none)
    (hs : c.selector.select p.source.type p.destination.type = (.ok i, selector)) :
    push.initiate t p c =
      let connected := t.connect i c.planes
      let asked := t.transfer i (push.request p c) connected.state
      ⟨answer asked.result,
        { c with selector := selector, planes := asked.state, issued := c.issued + 1 },
        .planeSelected i.id ::
          (connected.events ++ asked.events ++ [report p.id asked.result])⟩ := by
  simp only [initiate, h, Run.bind_apply, Control.issue, Control.select, hs, transferOn]
  simp [Control.onPlanes, Run.within, Run.emit, request, Request.forProcess]

theorem terminate_apply :
    terminate t p c =
      let asked := Run.each (terminateOn t p.id) c.selector.all c.planes
      let verdict := verdict c.selector.all asked.result
      ⟨verdict, { c with planes := asked.state },
        .terminationBegun p.id :: (asked.events ++
          if verdict.isOk then [] else [.terminationIncomplete p.id])⟩ := by
  simp only [terminate, Run.bind_apply, Run.get, Run.emit, Control.onPlanes, Run.within]
  cases verdict c.selector.all (Run.each (terminateOn t p.id) c.selector.all c.planes).result with
  | ok _ => simp [Except.isOk, Except.toBool]
  | error e => simp [Run.emit, Except.isOk, Except.toBool]

theorem mem_transferTypes {selector : Selector} {asset : Asset} {text : String} :
    text ∈ transferTypes selector asset ↔
      ∃ type, text = (TransferType.push type).toString ∧ ∃ i ∈ selector.all,
        asset.address.type ∈ i.sourceTypes ∧ type ∈ i.destinationTypes := by
  rw [transferTypes, TypeSet.mem_ofList, List.mem_flatMap]
  constructor
  · rintro ⟨i, hi, htext⟩
    obtain ⟨hmem, hsource⟩ := List.mem_filter.1 hi
    obtain ⟨type, htype, rfl⟩ := List.mem_map.1 htext
    exact ⟨type, rfl, i, hmem, of_decide_eq_true hsource, htype⟩
  · rintro ⟨type, rfl, i, hmem, hsource, htype⟩
    exact ⟨i, List.mem_filter.2 ⟨hmem, decide_eq_true hsource⟩, List.mem_map_of_mem htype⟩

end

end Push

end FlowBroker
