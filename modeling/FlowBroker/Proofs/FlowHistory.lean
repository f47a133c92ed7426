import FlowBroker.Plane.FlowTable
import Mathlib.Data.Finset.Card
import Mathlib.Data.List.DropRight

namespace FlowBroker

namespace Request

/-- What a request has to name, in the order in which it is looked at, and what is said where it
does not. -/
def parts (r : Request) : List (String × String) :=
  [(r.processId, "request has an empty process id"),
    (r.source.type, "source address has no type"),
    (r.destination.type, "destination address has no type")]

def IsComplete (r : Request) : Prop :=
  r.processId ≠ "" ∧ r.source.type ≠ "" ∧ r.destination.type ≠ ""

instance (r : Request) : Decidable r.IsComplete :=
  inferInstanceAs (Decidable (_ ∧ _ ∧ _))

def lack? (r : Request) : Option (String × String) := r.parts.find? (·.1 = "")

theorem lack?_eq_none_iff {r : Request} : r.lack? = none ↔ r.IsComplete := by
  simp [lack?, parts, IsComplete]

end Request

namespace FlowTable

inductive Call where
  | transfer (r : Request)
  | terminate (process : String)
  deriving DecidableEq

namespace Call

def perform : Call → Run FlowTable (Outcome Unit)
  | transfer r => FlowTable.transfer r
  | terminate process => FlowTable.terminate process

def answer : Call → Outcome Unit
  | transfer r => r.lack?.elim (.ok ()) fun part => .error ⟨.fatalError, [part.2]⟩
  | terminate _ => .ok ()

def accepted? (process : String) : Call → Option Request
  | transfer r => if r.IsComplete ∧ r.processId = process then some r else none
  | terminate _ => none

end Call

/-- The calls behind the last one that terminated a process. -/
def sinceTerminated (process : String) (calls : List Call) : List Call :=
  calls.rtakeWhile (· ≠ .terminate process)

def latest? (process : String) (calls : List Call) : Option Request :=
  ((sinceTerminated process calls).filterMap (Call.accepted? process)).getLast?

theorem objection?_eq (r : Request) : objection? r = r.lack?.map Prod.snd := by
  rw [objection?, Request.lack?, Request.parts]
  by_cases hprocess : r.processId = ""
  · simp [hprocess]
  · by_cases hsource : r.source.type = ""
    · simp [hprocess, hsource]
    · by_cases hdestination : r.destination.type = "" <;> simp [hprocess, hsource, hdestination]

theorem transfer_of_lack? {r : Request} {part : String × String} (h : r.lack? = some part)
    (table : FlowTable) : transfer r table = ⟨.error ⟨.fatalError, [part.2]⟩, table, []⟩ := by
  have hobjection : objection? r = some part.2 := by rw [objection?_eq, h, Option.map_some]
  rw [transfer, hobjection]
  rfl

theorem result_perform (call : Call) (table : FlowTable) :
    (call.perform table).result = call.answer := by
  cases call with
  | terminate process => rfl
  | transfer r =>
      rw [Call.perform, Call.answer]
      cases h : r.lack? with
      | some part => rw [transfer_of_lack? h]; rfl
      | none =>
          have hobjection : objection? r = none := by rw [objection?_eq, h, Option.map_none]
          rw [transfer, hobjection]
          rfl

theorem find?_perform (call : Call) (table : FlowTable) (process : String) :
    (call.perform table).state.find? process =
      if call = .terminate process then none
      else (call.accepted? process).or (table.find? process) := by
  cases call with
  | terminate ended =>
      have hfind : (Call.perform (.terminate ended) table).state.find? process =
          if process = ended then none else table.find? process :=
        Roster.find?_erase table ended process
      rw [hfind]
      simp [Call.accepted?, eq_comm]
  | transfer r =>
      have haccepts : objection? r = none ∧ process = r.processId ↔
          r.IsComplete ∧ r.processId = process :=
        and_congr objection?_eq_none_iff eq_comm
      have hother : Call.transfer r ≠ .terminate process := nofun
      rw [Call.perform, find?_transfer, Call.accepted?, if_neg hother]
      by_cases h : r.IsComplete ∧ r.processId = process
      · rw [if_pos (haccepts.2 h), if_pos h]
        rfl
      · rw [if_neg (mt haccepts.1 h), if_neg h]
        rfl

theorem latest?_snoc (process : String) (calls : List Call) (call : Call) :
    latest? process (calls ++ [call]) =
      if call = .terminate process then none
      else (call.accepted? process).or (latest? process calls) := by
  rw [latest?, sinceTerminated, List.rtakeWhile_concat]
  by_cases h : call = .terminate process
  · simp [h]
  · rw [if_pos (by simpa using h), if_neg h, List.filterMap_append, List.getLast?_append]
    cases hcall : call.accepted? process with
    | none => rw [List.filterMap_cons_none hcall]; rfl
    | some r => rw [List.filterMap_cons_some hcall]; rfl

theorem find?_each (calls : List Call) (process : String) :
    (Run.each Call.perform calls Roster.empty).state.find? process = latest? process calls := by
  -- What is latest is decided at the end, so that the calls are taken off there.
  induction calls using List.reverseRecOn with
  | nil => rfl
  | append_singleton calls call ih =>
      rw [Run.each_append, latest?_snoc, ← ih]
      exact find?_perform call _ process

theorem result_each (calls : List Call) (table : FlowTable) :
    (Run.each Call.perform calls table).result = calls.map Call.answer := by
  induction calls generalizing table with
  | nil => rfl
  | cons call calls ih => rw [Run.each_cons, List.map_cons, ← ih, result_perform]

theorem of_accepted? {process : String} {call : Call} {r : Request}
    (h : call.accepted? process = some r) : r.IsComplete ∧ r.processId = process := by
  cases call with
  | terminate ended => cases h
  | transfer t =>
      rw [Call.accepted?] at h
      split at h
      · next hcomplete =>
        cases h
        exact hcomplete
      · cases h

theorem of_latest? {process : String} {calls : List Call} {r : Request}
    (h : latest? process calls = some r) : r.IsComplete ∧ r.processId = process := by
  obtain ⟨call, -, haccepted⟩ := List.mem_filterMap.1 (List.mem_of_getLast? h)
  exact of_accepted? haccepted

theorem exists_processes (table : FlowTable) :
    ∃ processes : Finset String, (∀ process, process ∈ processes ↔
      ∃ r, table.find? process = some r) ∧ table.size = processes.card := by
  refine ⟨(table.toList.map (·.processId)).toFinset, ?_, ?_⟩
  · intro process
    rw [List.mem_toFinset, ← Option.ne_none_iff_exists', ne_eq, Roster.find?_eq_none_iff, not_not]
  · rw [List.toFinset_card_of_nodup table.distinct, List.length_map]
    rfl

structure Recounts (calls : List Call) (table : FlowTable) : Prop where
  distinct : (table.toList.map (·.processId)).Nodup
  stored : ∀ r ∈ table.toList, r.IsComplete ∧ table.find? r.processId = some r
  find? : ∀ process, table.find? process = latest? process calls
  size : ∃ processes : Finset String, (∀ process, process ∈ processes ↔
    ∃ r, table.find? process = some r) ∧ table.size = processes.card

theorem recounts_of_find? {calls : List Call} {table : FlowTable}
    (h : ∀ process, table.find? process = latest? process calls) : Recounts calls table where
  distinct := table.distinct
  stored r hr := by
    have hfind : table.find? r.processId = some r := Roster.find?_eq_some_iff.2 ⟨hr, rfl⟩
    exact ⟨(of_latest? ((h r.processId).symm.trans hfind)).1, hfind⟩
  find? := h
  size := exists_processes table

/-- After any calls on a new table, each process has its latest complete request since it was last
terminated, and the next incomplete request changes nothing, whatever flow its process has. -/
theorem calls_leave_latest_flows (calls : List Call) :
    let ran := Run.each Call.perform calls Roster.empty
    ran.result = calls.map Call.answer ∧ Recounts calls ran.state ∧
      (∀ r, (transfer r ran.state).result = .ok () ↔ r.IsComplete) ∧
      (∀ r, ¬r.IsComplete → ∃ part, r.lack? = some part ∧
        transfer r ran.state = ⟨.error ⟨.fatalError, [part.2]⟩, ran.state, []⟩) ∧
      ∀ process, (terminate process ran.state).result = .ok () := by
  intro ran
  refine ⟨result_each calls _, recounts_of_find? (find?_each calls), ?_, ?_, fun _ => rfl⟩
  · intro r
    have hanswer : (transfer r ran.state).result = Call.answer (.transfer r) :=
      result_perform (.transfer r) ran.state
    rw [hanswer, Call.answer, ← Request.lack?_eq_none_iff]
    cases r.lack? <;> simp
  · intro r hincomplete
    obtain ⟨part, hpart⟩ :=
      Option.ne_none_iff_exists'.1 (mt Request.lack?_eq_none_iff.1 hincomplete)
    exact ⟨part, hpart, transfer_of_lack? hpart ran.state⟩

end FlowTable

end FlowBroker
