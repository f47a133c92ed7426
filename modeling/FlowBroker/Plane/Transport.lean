import FlowBroker.Plane.FlowTable
import FlowBroker.Plane.Remote

namespace FlowBroker

/-- How data planes are asked to start and to end flows; `τ` is what is known about them. -/
structure Transport (τ : Type) where
  connect : Instance → Run τ Unit
  transfer : Instance → Request → Run τ (Outcome Unit)
  terminate : Instance → String → Run τ (Outcome Unit)

def Transport.within {σ τ : Type} (part : σ → τ) (renew : σ → τ → σ) (t : Transport τ) :
    Transport σ where
  connect i := (t.connect i).within part renew
  transfer i r := (t.transfer i r).within part renew
  terminate i process := (t.terminate i process).within part renew

/-- The flows of the embedded data plane, and how many requests have been sent to others. -/
structure Planes where
  flows : FlowTable
  sent : Nat
  deriving Inhabited

namespace Planes

def onFlows {α : Type} (x : Run FlowTable α) : Run Planes α :=
  x.within (·.flows) fun p flows => { p with flows := flows }

def onSent {α : Type} (x : Run Nat α) : Run Planes α :=
  x.within (·.sent) fun p sent => { p with sent := sent }

def transport (network : Http.Network) : Transport Planes where
  connect i := Run.emit (.clientCreated i.id)
  transfer i r :=
    if i.isEmbedded then onFlows (FlowTable.transfer r) else onSent (Remote.transfer network i r)
  terminate i process :=
    if i.isEmbedded then onFlows (FlowTable.terminate process)
    else onSent (Remote.terminate network i process)

section

variable {network : Http.Network} {i : Instance} {planes : Planes}

theorem flows_transfer {r : Request} :
    ((transport network).transfer i r planes).state.flows =
      if i.isEmbedded then (FlowTable.transfer r planes.flows).state else planes.flows := by
  simp only [transport]
  split <;> rfl

theorem flows_terminate {process : String} :
    ((transport network).terminate i process planes).state.flows =
      if i.isEmbedded then planes.flows.erase process else planes.flows := by
  simp only [transport]
  split <;> rfl

theorem requestsSent_transfer {r : Request} :
    requestsSent ((transport network).transfer i r planes).events =
      if i.isEmbedded then []
      else (Remote.sendable? .post (some r.encode) (Remote.transferEndpoint i.url)).toList := by
  simp only [transport]
  split
  · exact FlowTable.requestsSent_transfer r planes.flows
  · exact Remote.requestsSent_transfer

theorem requestsSent_terminate {process : String} :
    requestsSent ((transport network).terminate i process planes).events =
      if i.isEmbedded then []
      else (Remote.sendable? .delete none (Remote.processEndpoint i.url process)).toList := by
  simp only [transport]
  split
  · exact FlowTable.requestsSent_terminate process planes.flows
  · exact Remote.requestsSent_terminate

end

end Planes

end FlowBroker
