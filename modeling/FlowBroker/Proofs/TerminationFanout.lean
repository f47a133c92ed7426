import FlowBroker.Proofs.OutcomeReduction
import FlowBroker.Proofs.PushDispatch
import Mathlib.Data.List.Nodup
import Mathlib.Logic.Relation

namespace FlowBroker.Push

open Relation

variable {τ : Type}

inductive Progress where
  | waiting
  | connected
  | ended (outcome : Outcome Unit)

structure Fanout (τ : Type) where
  planes : τ
  tasks : List (Instance × Progress)

namespace Fanout

def start (instances : List Instance) (planes : τ) : Fanout τ :=
  ⟨planes, instances.map fun i => (i, .waiting)⟩

def finish (instances : List Instance) (outcomes : List (Outcome Unit)) (planes : τ) : Fanout τ :=
  ⟨planes, (instances.zip outcomes).map fun x => (x.1, .ended x.2)⟩

/-- Any of the instances gets its next call. -/
inductive Step (t : Transport τ) (process : String) : Fanout τ → Fanout τ → Prop
  | connect (planes : τ) (before : List (Instance × Progress)) (i : Instance)
      (after : List (Instance × Progress)) :
      Step t process ⟨planes, before ++ (i, .waiting) :: after⟩
        ⟨(t.connect i planes).state, before ++ (i, .connected) :: after⟩
  | terminate (planes : τ) (before : List (Instance × Progress)) (i : Instance)
      (after : List (Instance × Progress)) :
      Step t process ⟨planes, before ++ (i, .connected) :: after⟩
        ⟨(t.terminate i process planes).state,
          before ++ (i, .ended (t.terminate i process planes).result) :: after⟩

def callsOn (process : String) : Instance × Progress → List Call
  | (_, .waiting) => []
  | (i, .connected) => [.connect i]
  | (i, .ended _) => [.connect i, .terminate i process]

/-- Where the calls on the instances have come to from planes whose calls so far are `earlier`. -/
structure Underway (t : Transport τ) (process : String) (instances : List Instance)
    (earlier : List Call) (f : Fanout (τ × List Call)) : Prop where
  instances_eq : f.tasks.map Prod.fst = instances
  calls : ∃ made, f.planes.2 = earlier ++ made ∧ made.Perm (f.tasks.flatMap (callsOn process))
  answered : ∀ i o, (i, .ended o) ∈ f.tasks → ∃ planes, (t.terminate i process planes).result = o

section

variable {t : Transport τ} {process : String} {instances : List Instance} {earlier : List Call}

theorem perm_call {made : List Call} {before after : List (Instance × Progress)}
    {task task' : Instance × Progress} {call : Call}
    (h : made.Perm ((before ++ task :: after).flatMap (callsOn process)))
    (hcall : callsOn process task' = callsOn process task ++ [call]) :
    (made ++ [call]).Perm ((before ++ task' :: after).flatMap (callsOn process)) := by
  rw [List.flatMap_append, List.flatMap_cons] at h ⊢
  refine (h.append_right [call]).trans ?_
  simp only [hcall, List.append_assoc]
  exact (List.perm_append_comm.append_left _).append_left _

theorem Underway.step {f g : Fanout (τ × List Call)} (h : Underway t process instances earlier f)
    (hstep : Step t.recorded process f g) : Underway t process instances earlier g := by
  obtain ⟨hinstances, ⟨made, hmade, hperm⟩, hanswered⟩ := h
  cases hstep with
  | connect planes before i after =>
      refine ⟨by simpa using hinstances, ⟨made ++ [.connect i], ?_, perm_call hperm rfl⟩, ?_⟩
      · rw [← List.append_assoc, ← hmade]
        rfl
      · intro j o hj
        exact hanswered j o (by simpa using hj)
  | terminate planes before i after =>
      refine ⟨by simpa using hinstances, ⟨made ++ [.terminate i process], ?_, perm_call hperm rfl⟩,
        ?_⟩
      · rw [← List.append_assoc, ← hmade]
        rfl
      · intro j o hj
        simp only [List.mem_append, List.mem_cons, Prod.mk.injEq] at hj
        rcases hj with hj | ⟨rfl, ho⟩ | hj
        · exact hanswered j o (by simp [hj])
        · cases ho
          exact ⟨planes.1, rfl⟩
        · exact hanswered j o (by simp [hj])

theorem underway_start (planes : τ × List Call) :
    Underway t process instances planes.2 (start instances planes) := by
  refine ⟨?_, ⟨[], (List.append_nil _).symm, ?_⟩, by simp [start]⟩
  · rw [start, List.map_map]
    exact List.map_id instances
  · simp [start, callsOn]

theorem underway_of_steps {planes : τ × List Call} {f : Fanout (τ × List Call)}
    (h : ReflTransGen (Step t.recorded process) (start instances planes) f) :
    Underway t process instances planes.2 f := by
  induction h with
  | refl => exact underway_start planes
  | tail _ hstep ih => exact ih.step hstep

theorem calls_finish {outcomes : List (Outcome Unit)} {planes : τ × List Call}
    (h : Underway t process instances earlier (finish instances outcomes planes)) :
    ∃ made, planes.2 = earlier ++ made ∧
      made.Perm (instances.flatMap fun i => [.connect i, .terminate i process]) := by
  obtain ⟨hinstances, ⟨made, hmade, hperm⟩, _⟩ := h
  refine ⟨made, hmade, hperm.trans (List.Perm.of_eq ?_)⟩
  conv_rhs => rw [← hinstances]
  simp only [finish, List.flatMap_map, callsOn]

end

/-- Each instance served to the end before the next one is an order among others. -/
theorem steps_each (t : Transport τ) (process : String) (done : List (Instance × Progress))
    (instances : List Instance) (planes : τ) :
    let asked := Run.each (terminateOn t process) instances planes
    ReflTransGen (Step t process) ⟨planes, done ++ instances.map fun i => (i, .waiting)⟩
      ⟨asked.state, done ++ (instances.zip asked.result).map fun x => (x.1, .ended x.2)⟩ := by
  induction instances generalizing done planes with
  | nil => exact .refl
  | cons i is ih =>
      let connected := t.connect i planes
      let answered := t.terminate i process connected.state
      let later : List (Instance × Progress) := is.map fun i => (i, .waiting)
      have hconnect : Step t process _ _ := .connect planes done i later
      have hterminate : Step t process _ _ := .terminate connected.state done i later
      have hrest := ih (done ++ [(i, .ended answered.result)]) answered.state
      simp only [List.append_assoc, List.singleton_append] at hrest
      rw [Run.each_cons]
      exact .head hconnect (.head hterminate hrest)

end Fanout

theorem length_each (t : Transport τ) (process : String) (instances : List Instance) (planes : τ) :
    (Run.each (terminateOn t process) instances planes).result.length = instances.length := by
  induction instances generalizing planes with
  | nil => rfl
  | cons i is ih => rw [Run.each_cons, List.length_cons, ih, List.length_cons]

/-- A way for the termination of a process to go: the calls are made in some order, `outcomes` are
those of the instances in the order of the registry, and of the control nothing else changes. -/
structure Terminates (t : Transport τ) (p : TransferProcess) (c : Control τ)
    (outcomes : List (Outcome Unit)) (result : Except FlowError Unit) (c' : Control τ) : Prop where
  length_eq : outcomes.length = c.selector.all.length
  steps : ReflTransGen (Fanout.Step t p.id) (.start c.selector.all c.planes)
    (.finish c.selector.all outcomes c'.planes)
  result_eq : result = verdict c.selector.all outcomes
  state_eq : c' = { c with planes := c'.planes }

theorem terminates_in_turn (t : Transport τ) (p : TransferProcess) (c : Control τ) :
    Terminates t p c (Run.each (terminateOn t p.id) c.selector.all c.planes).result
      (terminate t p c).result (terminate t p c).state := by
  rw [terminate_apply]
  exact ⟨length_each t p.id c.selector.all c.planes,
    Fanout.steps_each t p.id [] c.selector.all c.planes, rfl, rfl⟩

/-- The failure names those that failed, in the order of the instances and each once, and keeps all
that they gave as reasons. -/
structure Blames (instances : List Instance) (outcomes : List (Outcome Unit)) (f : Failure)
    (ids : List String) : Prop where
  sublist : ids.Sublist (instances.map (·.id))
  nodup : ids.Nodup
  mem_iff : ∀ i o, (i, o) ∈ instances.zip outcomes → (i.id ∈ ids ↔ ∃ g, o = .error g)
  reasons : f.reasons = (Outcome.failures outcomes).flatMap (·.reasons)
  fatal_iff : f.status = .fatalError ↔ ∃ g, .error g ∈ outcomes ∧ g.status = .fatalError

structure Concludes (instances : List Instance) (outcomes : List (Outcome Unit))
    (result : Except FlowError Unit) : Prop where
  succeeds_iff : result = .ok () ↔ ∀ o ∈ outcomes, o = .ok ()
  fails : ∀ e, result = .error e → ∃ f ids,
    e = .terminationPartialFailure f ids ∧ Blames instances outcomes f ids
  retryable_iff : ∀ e, result = .error e →
    (e.isRetryable = true ↔ ∀ g, .error g ∈ outcomes → g.isRetryable = true)

theorem ids_zip {instances : List Instance} {outcomes : List (Outcome Unit)}
    (h : outcomes.length = instances.length) :
    (instances.zip outcomes).map (·.1.id) = instances.map (·.id) := by
  have hfst : (instances.zip outcomes).map Prod.fst = instances :=
    List.map_fst_zip (Nat.le_of_eq h.symm)
  conv_rhs => rw [← hfst, List.map_map]
  rfl

theorem blames_of_reduce {instances : List Instance} {outcomes : List (Outcome Unit)} {f : Failure}
    (hdistinct : (instances.map (·.id)).Nodup) (hlength : outcomes.length = instances.length)
    (h : Outcome.reduce outcomes = .error f) :
    Blames instances outcomes f (failed instances outcomes) := by
  have hids := ids_zip hlength
  have hsublist : (failed instances outcomes).Sublist (instances.map (·.id)) := by
    rw [← hids]
    exact List.filter_sublist.map _
  obtain ⟨hreasons, hfatal⟩ := Outcome.of_reduce_eq_error h
  simp only [Outcome.mem_failures] at hfatal
  refine ⟨hsublist, hdistinct.sublist hsublist, ?_, hreasons, hfatal⟩
  intro i o hmem
  -- The ids are distinct, so the id of an instance stands for its outcome.
  have hnodup : ((instances.zip outcomes).map (·.1.id)).Nodup := hids ▸ hdistinct
  constructor
  · intro hid
    obtain ⟨x, hx, hxi⟩ := List.mem_map.1 hid
    obtain ⟨hxmem, hfailed⟩ := List.mem_filter.1 hx
    obtain rfl := List.inj_on_of_nodup_map hnodup hxmem hmem hxi
    cases o with
    | ok _ => simp [Except.isOk, Except.toBool] at hfailed
    | error g => exact ⟨g, rfl⟩
  · rintro ⟨g, rfl⟩
    exact List.mem_map.2 ⟨(i, .error g), List.mem_filter.2 ⟨hmem, rfl⟩, rfl⟩

theorem verdict_concludes {instances : List Instance} {outcomes : List (Outcome Unit)}
    (hdistinct : (instances.map (·.id)).Nodup) (hlength : outcomes.length = instances.length) :
    Concludes instances outcomes (verdict instances outcomes) := by
  cases h : Outcome.reduce outcomes with
  | ok u =>
      have hverdict : verdict instances outcomes = .ok () := by rw [verdict, h]
      rw [hverdict]
      refine ⟨iff_of_true rfl (Outcome.reduce_eq_ok_iff.1 h), ?_, ?_⟩ <;> simp
  | error f =>
      have hverdict : verdict instances outcomes =
          .error (.terminationPartialFailure f (failed instances outcomes)) := by rw [verdict, h]
      have hblames := blames_of_reduce hdistinct hlength h
      rw [hverdict]
      refine ⟨iff_of_false (by simp) ?_, ?_, ?_⟩
      · rw [← Outcome.reduce_eq_ok_iff, h]
        simp
      · rintro e ⟨⟩
        exact ⟨f, _, rfl, hblames⟩
      · rintro e ⟨⟩
        have hfatal := not_congr hblames.fatal_iff
        simp only [not_exists, not_and] at hfatal
        simp only [FlowError.isRetryable, Failure.isRetryable_iff]
        exact hfatal

/-- Ending a flow has a client made for every registered instance and each of them asked once,
capable or not, in whatever order. It succeeds exactly if all calls do, and otherwise says which
failed and why. The program goes through them one by one. -/
theorem terminate_asks_everyone (t : Transport τ) (p : TransferProcess)
    (c : Control (τ × List Call)) :
    (∃ outcomes, Terminates t.recorded p c outcomes (terminate t.recorded p c).result
        (terminate t.recorded p c).state) ∧
      ∀ outcomes result c', Terminates t.recorded p c outcomes result c' →
        (∃ made, c'.planes.2 = c.planes.2 ++ made ∧
          made.Perm (c.selector.all.flatMap fun i => [.connect i, .terminate i p.id])) ∧
        (∀ i o, (i, o) ∈ c.selector.all.zip outcomes →
          ∃ planes, (t.terminate i p.id planes).result = o) ∧
        Concludes c.selector.all outcomes result ∧ c'.selector = c.selector := by
  refine ⟨⟨_, terminates_in_turn t.recorded p c⟩, ?_⟩
  rintro outcomes result c' ⟨hlength, hsteps, rfl, hstate⟩
  have hdone := Fanout.underway_of_steps hsteps
  refine ⟨Fanout.calls_finish hdone, ?_, verdict_concludes c.selector.registry.distinct hlength,
    by rw [hstate]⟩
  intro i o hmem
  exact hdone.answered i o (List.mem_map.2 ⟨(i, o), hmem, rfl⟩)

end FlowBroker.Push
