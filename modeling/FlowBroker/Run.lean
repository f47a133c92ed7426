import FlowBroker.Event

namespace FlowBroker

/-- What a step comes to: its result, the state after it, and the events on the way. -/
structure Ran (σ α : Type) where
  result : α
  state : σ
  events : List Event

def Run (σ α : Type) := σ → Ran σ α

namespace Run

variable {σ τ α β : Type}

protected def pure (a : α) : Run σ α := fun s => ⟨a, s, []⟩

protected def bind (x : Run σ α) (f : α → Run σ β) : Run σ β := fun s =>
  let a := x s
  let b := f a.result a.state
  ⟨b.result, b.state, a.events ++ b.events⟩

instance : Monad (Run σ) where
  pure := Run.pure
  bind := Run.bind

@[simp] theorem pure_apply (a : α) (s : σ) : (pure a : Run σ α) s = ⟨a, s, []⟩ := rfl

@[simp] theorem bind_apply (x : Run σ α) (f : α → Run σ β) (s : σ) :
    (x >>= f) s =
      ⟨(f (x s).result (x s).state).result, (f (x s).result (x s).state).state,
        (x s).events ++ (f (x s).result (x s).state).events⟩ := rfl

def emit (e : Event) : Run σ Unit := fun s => ⟨(), s, [e]⟩

def get : Run σ σ := fun s => ⟨s, s, []⟩

def within (part : σ → τ) (renew : σ → τ → σ) (x : Run τ α) : Run σ α := fun s =>
  let r := x (part s)
  ⟨r.result, renew s r.state, r.events⟩

def each (f : α → Run σ β) : List α → Run σ (List β)
  | [] => Run.pure []
  | a :: as => do
      let b ← f a
      let bs ← each f as
      pure (b :: bs)

@[simp] theorem each_nil (f : α → Run σ β) (s : σ) : each f [] s = ⟨[], s, []⟩ := rfl

theorem each_cons (f : α → Run σ β) (a : α) (as : List α) (s : σ) :
    each f (a :: as) s =
      ⟨(f a s).result :: (each f as (f a s).state).result, (each f as (f a s).state).state,
        (f a s).events ++ (each f as (f a s).state).events⟩ := by
  simp [each]

theorem each_append (f : α → Run σ β) (as bs : List α) (s : σ) :
    each f (as ++ bs) s =
      ⟨(each f as s).result ++ (each f bs (each f as s).state).result,
        (each f bs (each f as s).state).state,
        (each f as s).events ++ (each f bs (each f as s).state).events⟩ := by
  induction as generalizing s with
  | nil => rfl
  | cons a as ih => simp only [List.cons_append, each_cons, ih, List.append_assoc]

end Run

end FlowBroker
