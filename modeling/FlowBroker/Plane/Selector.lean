import FlowBroker.Flow.Error
import FlowBroker.Plane.Instance
import FlowBroker.Plane.Strategy
import FlowBroker.Roster

namespace FlowBroker

abbrev Registry := Roster Instance.id

structure Selector where
  registry : Registry
  strategy : Strategy

namespace Selector

def new (strategy : Strategy) : Selector := ⟨.empty, strategy⟩

def default : Selector := new (.roundRobin 0)

instance : Inhabited Selector := ⟨default⟩

def add (s : Selector) (i : Instance) : Selector := { s with registry := s.registry.put i }

def withInstances (strategy : Strategy) (instances : List Instance) : Selector :=
  instances.foldl add (new strategy)

def remove (s : Selector) (id : String) : Option Instance × Selector :=
  (s.registry.find? id, { s with registry := s.registry.erase id })

def find? (s : Selector) (id : String) : Option Instance := s.registry.find? id

def all (s : Selector) : List Instance := s.registry.toList

def size (s : Selector) : Nat := s.registry.size

def isEmpty (s : Selector) : Bool := s.registry.isEmpty

def capable (s : Selector) (source destination : String) : List Instance :=
  s.all.filter (·.canMove source destination)

def select (s : Selector) (source destination : String) : Except FlowError Instance × Selector :=
  match s.strategy.pick (s.capable source destination) with
  | (some i, strategy) => (.ok i, { s with strategy })
  | (none, strategy) => (.error (.noCapableWorker source destination), { s with strategy })

theorem mem_capable {s : Selector} {source destination : String} {i : Instance} :
    i ∈ s.capable source destination ↔
      i ∈ s.all ∧ source ∈ i.sourceTypes ∧ destination ∈ i.destinationTypes := by
  rw [capable, List.mem_filter, Instance.canMove_iff]

/-- Without capable instances nothing changes. Among capable ones the strategy picks one and takes
its next turn. -/
theorem select_cases (s : Selector) (source destination : String) :
    (s.capable source destination = [] ∧
        s.select source destination = (.error (.noCapableWorker source destination), s)) ∨
      ∃ i ∈ s.capable source destination,
        (s.capable source destination)[s.strategy.index (s.capable source destination).length]? =
            some i ∧
          s.select source destination = (.ok i, { s with strategy := s.strategy.advance }) := by
  cases h : s.capable source destination with
  | nil =>
      refine .inl ⟨rfl, ?_⟩
      rw [select, h, Strategy.pick_nil]
  | cons j js =>
      obtain ⟨i, hmem, hindex, hpick⟩ := s.strategy.pick_cons j js
      refine .inr ⟨i, hmem, hindex, ?_⟩
      rw [select, h, hpick]

theorem select_ok {s : Selector} {source destination : String} {i : Instance}
    (h : (s.select source destination).1 = .ok i) :
    i ∈ s.capable source destination ∧
      (s.capable source destination)[s.strategy.index (s.capable source destination).length]? =
          some i ∧
        (s.select source destination).2 = { s with strategy := s.strategy.advance } := by
  obtain ⟨_, hs⟩ | ⟨j, hmem, hindex, hs⟩ := s.select_cases source destination
  · rw [hs] at h
    cases h
  · rw [hs] at h ⊢
    cases h
    exact ⟨hmem, hindex, rfl⟩

theorem select_error {s : Selector} {source destination : String} {e : FlowError}
    (h : (s.select source destination).1 = .error e) :
    s.capable source destination = [] ∧ e = .noCapableWorker source destination ∧
      (s.select source destination).2 = s := by
  obtain ⟨hnone, hs⟩ | ⟨_, _, _, hs⟩ := s.select_cases source destination
  · rw [hs] at h ⊢
    cases h
    exact ⟨hnone, rfl, rfl⟩
  · rw [hs] at h
    cases h

theorem select_registry (s : Selector) (source destination : String) :
    (s.select source destination).2.registry = s.registry := by
  obtain ⟨_, h⟩ | ⟨_, _, _, h⟩ := s.select_cases source destination <;> rw [h]

end Selector

end FlowBroker
