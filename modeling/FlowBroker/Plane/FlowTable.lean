import FlowBroker.Roster
import FlowBroker.Run
import FlowBroker.Status

namespace FlowBroker

abbrev FlowTable := Roster Request.processId

namespace FlowTable

def objection? (r : Request) : Option String :=
  if r.processId = "" then some "request has an empty process id"
  else if r.source.type = "" then some "source address has no type"
  else if r.destination.type = "" then some "destination address has no type"
  else none

/-- Accepts a flow; a former one of its process is superseded. -/
def transfer (r : Request) : Run FlowTable (Outcome Unit) := fun table =>
  match objection? r with
  | some reason => ⟨.error (.fatal reason), table, []⟩
  | none =>
      let event := if (table.find? r.processId).isSome then Event.flowRenewed r.processId
        else .flowAccepted r.processId
      ⟨.ok (), table.put r, [event]⟩

def terminate (process : String) : Run FlowTable (Outcome Unit) := fun table =>
  let event := if (table.find? process).isSome then Event.flowEnded process
    else .flowUnknown process
  ⟨.ok (), table.erase process, [event]⟩

theorem objection?_eq_none_iff {r : Request} :
    objection? r = none ↔ r.processId ≠ "" ∧ r.source.type ≠ "" ∧ r.destination.type ≠ "" := by
  rw [objection?]
  split
  · next h => simp [h]
  · split
    · next h => simp [h]
    · split <;> simp_all

theorem find?_transfer (r : Request) (table : FlowTable) (id : String) :
    (transfer r table).state.find? id =
      if objection? r = none ∧ id = r.processId then some r else table.find? id := by
  cases h : objection? r with
  | none => simp [transfer, h]
  | some reason => simp [transfer, h]

theorem requestsSent_transfer (r : Request) (table : FlowTable) :
    requestsSent (transfer r table).events = [] := by
  cases h : objection? r with
  | none =>
      simp only [transfer, h]
      split <;> rfl
  | some reason =>
      simp only [transfer, h]
      rfl

theorem requestsSent_terminate (process : String) (table : FlowTable) :
    requestsSent (terminate process table).events = [] := by
  simp only [terminate]
  split <;> rfl

end FlowTable

end FlowBroker
