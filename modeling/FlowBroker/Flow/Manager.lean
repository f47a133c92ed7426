import FlowBroker.Flow.Error
import FlowBroker.Run

namespace FlowBroker

structure Controller (σ : Type) where
  name : String
  accepts : TransferProcess → Bool
  initiate : TransferProcess → Policy → Run σ (Except FlowError Response)
  terminate : TransferProcess → Run σ (Except FlowError Unit)
  transferTypes : σ → Asset → TypeSet

structure Ranked (σ : Type) where
  priority : Int
  controller : Controller σ

/-- Controllers by descending priority, and by registration among equals. -/
structure Manager (σ : Type) where
  ranked : List (Ranked σ)

namespace Manager

variable {σ : Type}

def new : Manager σ := ⟨[]⟩

/-- Puts a controller in front of the first one of lower priority. -/
def insert (r : Ranked σ) : List (Ranked σ) → List (Ranked σ)
  | [] => [r]
  | s :: ss => if s.priority < r.priority then r :: s :: ss else s :: insert r ss

def registerWithPriority (m : Manager σ) (priority : Int) (c : Controller σ) : Manager σ :=
  ⟨insert ⟨priority, c⟩ m.ranked⟩

def register (m : Manager σ) (c : Controller σ) : Manager σ := m.registerWithPriority 0 c

def controllers (m : Manager σ) : List (Controller σ) := m.ranked.map (·.controller)

def names (m : Manager σ) : List String := m.controllers.map (·.name)

def size (m : Manager σ) : Nat := m.ranked.length

def isEmpty (m : Manager σ) : Bool := m.ranked.isEmpty

def dispatch (m : Manager σ) (p : TransferProcess) : Except FlowError (Controller σ) :=
  match m.controllers.find? (·.accepts p) with
  | some c => .ok c
  | none => .error (.noMatchingController p.id)

def delegate {α : Type} (m : Manager σ) (p : TransferProcess)
    (f : Controller σ → Run σ (Except FlowError α)) : Run σ (Except FlowError α) := do
  match m.dispatch p with
  | .ok c =>
      Run.emit (.controllerMatched c.name p.id)
      f c
  | .error e =>
      Run.emit (.noControllerMatched p.id)
      pure (.error e)

def initiate (m : Manager σ) (p : TransferProcess) (policy : Policy) :
    Run σ (Except FlowError Response) :=
  m.delegate p fun c => c.initiate p policy

def terminate (m : Manager σ) (p : TransferProcess) : Run σ (Except FlowError Unit) :=
  m.delegate p fun c => c.terminate p

def transferTypes (m : Manager σ) (state : σ) (asset : Asset) : TypeSet :=
  (m.controllers.map fun c => c.transferTypes state asset).foldl .union .empty

section

variable {m : Manager σ} {p : TransferProcess} {policy : Policy} {c : Controller σ} {s : σ}

theorem dispatch_eq_ok (h : m.dispatch p = .ok c) : c ∈ m.controllers ∧ c.accepts p = true := by
  rw [dispatch] at h
  cases hfind : m.controllers.find? (·.accepts p) with
  | none => simp [hfind] at h
  | some d =>
      have haccepts : d.accepts p = true := by simpa using List.find?_some hfind
      simp only [hfind, Except.ok.injEq] at h
      exact h ▸ ⟨List.mem_of_find?_eq_some hfind, haccepts⟩

theorem dispatch_eq_error_iff {e : FlowError} :
    m.dispatch p = .error e ↔
      e = .noMatchingController p.id ∧ ∀ c ∈ m.controllers, c.accepts p = false := by
  rw [dispatch]
  cases hfind : m.controllers.find? (·.accepts p) with
  | none =>
      rw [List.find?_eq_none] at hfind
      simp only [Bool.not_eq_true] at hfind
      exact ⟨fun h => ⟨(Except.error.inj h).symm, hfind⟩, fun h => congrArg Except.error h.1.symm⟩
  | some d =>
      have haccepts : d.accepts p = true := by simpa using List.find?_some hfind
      refine ⟨(nomatch ·), fun h => ?_⟩
      rw [h.2 d (List.mem_of_find?_eq_some hfind)] at haccepts
      cases haccepts

theorem dispatch_of_sole (hc : c ∈ m.controllers) (haccepts : c.accepts p = true)
    (hsole : ∀ d ∈ m.controllers, d.accepts p = true → d = c) : m.dispatch p = .ok c := by
  cases hdispatch : m.dispatch p with
  | error e =>
      have hno := (dispatch_eq_error_iff.1 hdispatch).2 c hc
      rw [haccepts] at hno
      cases hno
  | ok d =>
      obtain ⟨hd, hdp⟩ := dispatch_eq_ok hdispatch
      rw [hsole d hd hdp]

section

variable {α : Type} {f : Controller σ → Run σ (Except FlowError α)}

theorem delegate_of_match (h : m.dispatch p = .ok c) :
    m.delegate p f s =
      ⟨(f c s).result, (f c s).state, .controllerMatched c.name p.id :: (f c s).events⟩ := by
  rw [delegate, h]
  rfl

theorem delegate_of_unmatched (h : ∀ c ∈ m.controllers, c.accepts p = false) :
    m.delegate p f s = ⟨.error (.noMatchingController p.id), s, [.noControllerMatched p.id]⟩ := by
  rw [delegate, dispatch_eq_error_iff.2 ⟨rfl, h⟩]
  rfl

end

theorem initiate_of_match (h : m.dispatch p = .ok c) :
    m.initiate p policy s =
      ⟨(c.initiate p policy s).result, (c.initiate p policy s).state,
        .controllerMatched c.name p.id :: (c.initiate p policy s).events⟩ :=
  delegate_of_match h

theorem terminate_of_match (h : m.dispatch p = .ok c) :
    m.terminate p s =
      ⟨(c.terminate p s).result, (c.terminate p s).state,
        .controllerMatched c.name p.id :: (c.terminate p s).events⟩ :=
  delegate_of_match h

theorem initiate_of_unmatched (h : ∀ c ∈ m.controllers, c.accepts p = false) :
    m.initiate p policy s =
      ⟨.error (.noMatchingController p.id), s, [.noControllerMatched p.id]⟩ :=
  delegate_of_unmatched h

theorem mem_transferTypes {asset : Asset} {text : String} :
    text ∈ m.transferTypes s asset ↔ ∃ k ∈ m.controllers, text ∈ k.transferTypes s asset := by
  rw [transferTypes, TypeSet.mem_foldl_union]
  constructor
  · rintro (hempty | ⟨set, hset, htext⟩)
    · exact absurd hempty (TypeSet.not_mem_empty text)
    · obtain ⟨k, hk, rfl⟩ := List.mem_map.1 hset
      exact ⟨k, hk, htext⟩
  · rintro ⟨k, hk, htext⟩
    exact .inr ⟨_, List.mem_map_of_mem hk, htext⟩

end

end Manager

end FlowBroker
