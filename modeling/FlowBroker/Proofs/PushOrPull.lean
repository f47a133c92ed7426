import FlowBroker.Flow.Push
import FlowBroker.Proofs.ControllerOrder

namespace FlowBroker

variable {τ : Type} {p : TransferProcess}

/-- A process that goes through the proxy, or whose transfer type is some kind and a pull. -/
def TransferProcess.IsPulled (p : TransferProcess) : Prop :=
  p.destinationType = "HttpProxy" ∨
    ∃ kind : String, kind ≠ "" ∧ p.transferType = some (kind ++ "-PULL")

theorem TransferProcess.any_pull_iff :
    p.transferType?.any (·.flow = .pull) = true ↔
      ∃ kind : String, kind ≠ "" ∧ p.transferType = some (kind ++ "-PULL") := by
  rw [Option.any_eq_true]
  constructor
  · rintro ⟨⟨kind, flow⟩, ht, hflow⟩
    obtain rfl : flow = .pull := of_decide_eq_true hflow
    obtain ⟨hkind, htext⟩ := TransferProcess.transferType?_eq_some_iff.1 ht
    exact ⟨kind, hkind, htext.trans (congrArg some (TransferType.toString_pull kind))⟩
  · rintro ⟨kind, hkind, htext⟩
    rw [← TransferType.toString_pull] at htext
    exact ⟨.pull kind, transferType?_eq_some_iff.2 ⟨hkind, htext⟩, rfl⟩

theorem StandIn.isPulled_iff : StandIn.isPulled p = true ↔ p.IsPulled := by
  rw [StandIn.isPulled, Bool.or_eq_true, TransferProcess.any_pull_iff, decide_eq_true_iff]
  rfl

theorem Push.accepts_eq (p : TransferProcess) : Push.accepts p = !StandIn.isPulled p := by
  simp [Push.accepts, StandIn.isPulled]

namespace Manager

/-- A push controller and one that takes what is to be pulled are registered, in either order and
with any priorities. Exactly one of the two accepts a process and gets it: the latter if the
destination type is that of the proxy or the transfer type is some kind and a pull, and the push
controller otherwise. -/
theorem dispatch_push_or_pull (t : Transport τ) (push : Push) (pull : Controller (Control τ))
    (hpull : ∀ p, pull.accepts p = StandIn.isPulled p) (rs : List (Registration (Control τ)))
    (hrs : (rs.map fun r => r.entry.controller).Perm [push.controller t, pull])
    (p : TransferProcess) :
    push.controller t ≠ pull ∧
      ∃ c ∈ [push.controller t, pull], (new.enrolAll rs).dispatch p = .ok c ∧
        (∀ d ∈ [push.controller t, pull], d.accepts p = true ↔ d = c) ∧
        (c = pull ↔ p.IsPulled) := by
  have hpush : (push.controller t).accepts p = !pull.accepts p := by
    rw [hpull]
    exact Push.accepts_eq p
  have hne : push.controller t ≠ pull := by
    intro heq
    rw [heq] at hpush
    exact (Bool.eq_not_self _).1 hpush
  have hmem : ∀ d, d ∈ (new.enrolAll rs).controllers ↔ d ∈ [push.controller t, pull] :=
    fun d => ((controllers_enrolAll_perm rs).trans hrs).mem_iff
  obtain ⟨c, hc, hsole, hpulls⟩ : ∃ c ∈ [push.controller t, pull],
      (∀ d ∈ [push.controller t, pull], d.accepts p = true ↔ d = c) ∧
        (c = pull ↔ pull.accepts p = true) := by
    cases hp : pull.accepts p with
    | true => exact ⟨pull, by simp, by simp [hpush, hp, hne], by simp⟩
    | false => exact ⟨push.controller t, by simp, by simp [hpush, hp, hne.symm], by simp [hne]⟩
  rw [hpull, StandIn.isPulled_iff] at hpulls
  have hdispatch : (new.enrolAll rs).dispatch p = .ok c :=
    dispatch_of_sole ((hmem c).2 hc) ((hsole c hc).2 rfl) fun d hd => (hsole d ((hmem d).1 hd)).1
  exact ⟨hne, c, hc, hdispatch, hsole, hpulls⟩

theorem dispatch_pull_behind_push :
    let push : Push := ⟨none, false⟩
    let pull : Controller (Control Rehearsal) :=
      StandIn.controller ⟨"consumer-pull", [], true, ["HttpData-PULL"], ⟨none⟩, none⟩
    let rs : List (Registration (Control Rehearsal)) :=
      [.withPriority 10 (push.controller Rehearsal.transport), .withPriority (-1) pull]
    let p := (TransferProcess.between "tp-1" (.ofType "HttpData") (.ofType "S3")).withTransferType
      "Azure-Storage-PULL"
    (∀ p, pull.accepts p = StandIn.isPulled p) ∧ (new.enrolAll rs).dispatch p = .ok pull := by
  intro push pull rs p
  have hpull (p : TransferProcess) : pull.accepts p = StandIn.isPulled p := by
    simp [pull, StandIn.controller, StandIn.accepts]
  obtain ⟨_, c, _, hdispatch, _, hc⟩ :=
    dispatch_push_or_pull Rehearsal.transport push pull hpull rs (.refl _) p
  have hpulled : p.IsPulled := .inr ⟨"Azure-Storage", by decide, rfl⟩
  exact ⟨hpull, hc.2 hpulled ▸ hdispatch⟩

example : ∀ text ∈ ["-PULL", "x-pull", "PULL", "x-PULL-PUSH"], Push.accepts
    ((TransferProcess.between "tp-1" (.ofType "HttpData") (.ofType "S3")).withTransferType text) =
      true := by
  decide

end Manager

end FlowBroker
