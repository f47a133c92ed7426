import FlowBroker.Flow.Manager
import FlowBroker.Plane.Transport

namespace FlowBroker

structure Script where
  id : String
  transfer : Option Failure
  termination : Option Failure

abbrev Rehearsal := Roster Script.id

namespace Rehearsal

def outcome : Option Failure → Outcome Unit
  | none => .ok ()
  | some f => .error f

def script (r : Rehearsal) (id : String) : Script := (r.find? id).getD ⟨id, none, none⟩

def transport : Transport Rehearsal where
  connect i := Run.emit (.clientCreated i.id)
  transfer i request := do
    Run.emit (.transferAsked i.id request)
    pure (outcome ((← Run.get).script i.id).transfer)
  terminate i process := do
    Run.emit (.terminationAsked i.id process)
    pure (outcome ((← Run.get).script i.id).termination)

end Rehearsal

/-- How a stand-in for a flow controller behaves. -/
structure StandIn where
  name : String
  /-- The destination types that it takes; a star stands for all. -/
  destinations : List String
  pulls : Bool
  types : List String
  response : Response
  lacks : Option String

namespace StandIn

variable {σ α : Type}

def isPulled (p : TransferProcess) : Bool :=
  p.destinationType = proxyType || p.transferType?.any (·.flow = .pull)

def accepts (s : StandIn) (p : TransferProcess) : Bool :=
  s.destinations.contains "*" || s.destinations.contains p.destinationType ||
    (s.pulls && isPulled p)

def answer (s : StandIn) (a : α) : Except FlowError α :=
  match s.lacks with
  | some what => .error (.configurationMissing what)
  | none => .ok a

def controller (s : StandIn) : Controller σ where
  name := s.name
  accepts := s.accepts
  initiate p policy := do
    Run.emit (.initiationDelegated s.name p.id policy)
    pure (s.answer s.response)
  terminate p := do
    Run.emit (.terminationDelegated s.name p.id)
    pure (s.answer ())
  transferTypes _ _ := .ofList s.types

end StandIn

end FlowBroker
