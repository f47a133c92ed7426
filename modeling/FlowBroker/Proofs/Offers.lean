import FlowBroker.Proofs.ByteOrder
import FlowBroker.Proofs.ControllerOrder
import FlowBroker.Proofs.PushDispatch
import FlowBroker.Proofs.Selection

namespace FlowBroker

variable {σ τ : Type}

def Controller.offer (k : Controller σ) (asset : Asset) : Run σ TypeSet := do
  pure (k.transferTypes (← Run.get) asset)

def Manager.offer (m : Manager σ) (asset : Asset) : Run σ TypeSet := do
  let sets ← Run.each (fun k => k.offer asset) m.controllers
  pure (sets.foldl .union .empty)

theorem Push.mem_transferTypes_iff_selected {s : Selector} {asset : Asset} {text : String} :
    text ∈ Push.transferTypes s asset ↔
      ∃ type : String, text = type ++ "-PUSH" ∧
        ∃ i, (s.select asset.address.type type).1 = .ok i := by
  rw [mem_transferTypes]
  refine exists_congr fun type => ?_
  rw [TransferType.toString_push, Selector.select_succeeds_iff]
  exact and_congr_right fun _ => exists_congr fun i => Selector.mem_capable.symm

namespace Manager

theorem each_offer (ks : List (Controller σ)) (asset : Asset) (s : σ) :
    Run.each (fun k => k.offer asset) ks s = ⟨ks.map fun k => k.transferTypes s asset, s, []⟩ := by
  induction ks with
  | nil => rfl
  | cons k ks ih =>
      have hone : k.offer asset s = ⟨k.transferTypes s asset, s, []⟩ := rfl
      rw [Run.each_cons, hone, ih]
      rfl

theorem offer_apply (m : Manager σ) (asset : Asset) (s : σ) :
    m.offer asset s = ⟨m.transferTypes s asset, s, []⟩ := by
  rw [offer, Run.bind_apply, each_offer]
  rfl

theorem transferTypes_eq_of_perm {m m' : Manager σ} (h : m'.controllers.Perm m.controllers)
    (s : σ) (asset : Asset) : m'.transferTypes s asset = m.transferTypes s asset := by
  apply TypeSet.eq_of_mem_iff
  intro text
  rw [mem_transferTypes, mem_transferTypes]
  exact exists_congr fun k => and_congr_left fun _ => h.mem_iff

/-- In every state the push controller offers exactly the pushes to types for which the selector
finds a data plane, each once and in the ascending order of their bytes. A manager offers what one
of its controllers does, in whatever order and with whatever priorities they registered. Asking
changes nothing. -/
theorem offers_follow_selection (t : Transport τ) (push : Push) (c : Control τ) (asset : Asset) :
    let offered := (push.controller t).transferTypes c asset
    (∀ text, text ∈ offered ↔ ∃ type : String, text = type ++ "-PUSH" ∧
        ∃ i, (c.selector.select asset.address.type type).1 = .ok i) ∧
      (∀ type type', (TransferType.push type).toString = (TransferType.push type').toString →
        type = type') ∧
      offered.toList.Nodup ∧ ByteAscending offered.toList ∧
      (push.controller t).offer asset c = ⟨offered, c, []⟩ ∧
      ∀ rs : List (Registration (Control τ)),
        let m := new.enrolAll rs
        (∀ text, text ∈ m.transferTypes c asset ↔
          ∃ r ∈ rs, text ∈ r.entry.controller.transferTypes c asset) ∧
        (∀ rs' : List (Registration (Control τ)),
          (rs'.map fun r => r.entry.controller).Perm (rs.map fun r => r.entry.controller) →
            (new.enrolAll rs').transferTypes c asset = m.transferTypes c asset) ∧
        m.offer asset c = ⟨m.transferTypes c asset, c, []⟩ := by
  intro offered
  refine ⟨fun text => Push.mem_transferTypes_iff_selected,
    fun _ _ => TransferType.toString_push_injective, offered.nodup_toList, offered.byteAscending,
    rfl, ?_⟩
  intro rs m
  have hperm := controllers_enrolAll_perm rs
  refine ⟨fun text => ?_, fun rs' hrs => ?_, offer_apply m asset c⟩
  · rw [mem_transferTypes]
    constructor
    · rintro ⟨k, hk, htext⟩
      obtain ⟨r, hr, rfl⟩ := List.mem_map.1 (hperm.mem_iff.1 hk)
      exact ⟨r, hr, htext⟩
    · rintro ⟨r, hr, htext⟩
      exact ⟨_, hperm.mem_iff.2 (List.mem_map_of_mem hr), htext⟩
  · exact transferTypes_eq_of_perm
      (((controllers_enrolAll_perm rs').trans hrs).trans hperm.symm) c asset

theorem offers_follow_selection_of_overlapping_planes :
    let place : Url := ⟨"embedded", none, ['d', 'p'], none, none⟩
    let i := ((Instance.located "dp-1" place).allowSource "HttpData").allowDestination "S3"
    let j := (((Instance.located "dp-2" place).allowSource "HttpData").allowDestination
      "S3!").allowDestination "S3"
    let c : Control Rehearsal := ⟨.withInstances .first [i, j], .empty, 0, 0⟩
    let push : Controller (Control Rehearsal) := Push.controller ⟨none, false⟩ Rehearsal.transport
    let pull : Controller (Control Rehearsal) :=
      StandIn.controller ⟨"consumer-pull", [], true, ["HttpData-PULL"], ⟨none⟩, none⟩
    let asset : Asset := ⟨"asset-1", .ofType "HttpData"⟩
    (push.transferTypes c asset).toList = ["S3!-PUSH", "S3-PUSH"] ∧
      ByteAscending ["S3!-PUSH", "S3-PUSH"] ∧
      (new.enrolAll [.withPriority 7 pull, .plain push]).transferTypes c asset =
        (new.enrolAll [.plain push, .withPriority (-3) pull]).transferTypes c asset := by
  intro place i j c push pull asset
  have hlisted : (push.transferTypes c asset).toList = ["S3!-PUSH", "S3-PUSH"] := by decide
  obtain ⟨_, _, _, hascending, _, hmanaged⟩ :=
    offers_follow_selection Rehearsal.transport ⟨none, false⟩ c asset
  obtain ⟨_, hunion, _⟩ := hmanaged [.plain push, .withPriority (-3) pull]
  exact ⟨hlisted, hlisted ▸ hascending, hunion [.withPriority 7 pull, .plain push] (.swap ..)⟩

end Manager

def Asset.taken (asset : Asset) (id type text : String) : TransferProcess :=
  (TransferProcess.between id asset.address (.ofType type)).withTransferType text

theorem Push.transferType?_taken (asset : Asset) (id type : String) :
    (asset.taken id type (type ++ "-PUSH")).transferType? =
      if type = "" then none else some (.push type) := by
  split
  · next hempty =>
    subst hempty
    rfl
  · next hkind =>
    exact TransferProcess.transferType?_eq_some_iff.2
      ⟨hkind, congrArg some (TransferType.toString_push type).symm⟩

theorem Push.parse_offered_iff {type : String} {parsed : TransferType} :
    TransferType.parse (type ++ "-PUSH") = .ok parsed ↔ type ≠ "" ∧ parsed = .push type := by
  by_cases hkind : type = ""
  · subst hkind
    exact iff_of_false nofun fun h => h.1 rfl
  · rw [← TransferType.toString_push, TransferType.parse_toString hkind, Except.ok.injEq]
    simp [hkind, eq_comm]

theorem Push.accepts_taken_iff (asset : Asset) (id type : String) :
    Push.accepts (asset.taken id type (type ++ "-PUSH")) = true ↔ type ≠ "HttpProxy" := by
  have hpush : (asset.taken id type (type ++ "-PUSH")).transferType?.any (·.flow = .pull) =
      false := by
    rw [transferType?_taken]
    split <;> rfl
  rw [accepts, hpush, Bool.not_false, Bool.and_true, decide_eq_true_iff]
  rfl

namespace Manager

theorem dispatch_register_new {k : Controller σ} {p : TransferProcess}
    (h : k.accepts p = true) : (new.register k).dispatch p = .ok k :=
  dispatch_of_sole (List.mem_singleton_self k) h fun _ hd _ => List.mem_singleton.1 hd

theorem mem_transferTypes_register_new {k : Controller σ} {s : σ} {asset : Asset}
    {text : String} :
    text ∈ (new.register k).transferTypes s asset ↔ text ∈ k.transferTypes s asset := by
  rw [mem_transferTypes]
  constructor
  · rintro ⟨_, hd, htext⟩
    obtain rfl := List.mem_singleton.1 hd
    exact htext
  · exact fun htext => ⟨k, List.mem_singleton_self k, htext⟩

theorem delegate_register_new_of_refused {α : Type} {k : Controller σ} {p : TransferProcess}
    {f : Controller σ → Run σ (Except FlowError α)} {s : σ} (h : k.accepts p = false) :
    (new.register k).delegate p f s =
      ⟨.error (.noMatchingController p.id), s, [.noControllerMatched p.id]⟩ :=
  delegate_of_unmatched fun _ hd => List.mem_singleton.1 hd ▸ h

/-- A transfer type that is offered is a push to some type, and written as one if the type is not
empty. A process that takes up the offer is the push controller's, and if nothing that is needed is
missing, one data plane is asked to start its flow, whose failure is the only one there can be. Only
the type of the proxy is another matter: its processes the push controller leaves to others. -/
theorem offer_is_usable (t : Transport τ) (push : Push) (c : Control (τ × List Call))
    (asset : Asset) (text : String)
    (hoffered : text ∈ (push.controller t.recorded).transferTypes c asset) :
    ∃ type : String, text = type ++ "-PUSH" ∧
      (∀ parsed, TransferType.parse text = .ok parsed ↔ type ≠ "" ∧ parsed = .push type) ∧
      ∀ id policy,
        let m := new.register (push.controller t.recorded)
        let p := asset.taken id type text
        let done := m.initiate p policy c
        (type ≠ "HttpProxy" →
          Push.accepts p = true ∧ m.dispatch p = .ok (push.controller t.recorded) ∧
            (¬(push.requiresCallback = true ∧ push.callback = none) →
              ∃ i ∈ c.selector.all, ∃ r : Request, r.processId = id ∧
                done.state.planes.2 = c.planes.2 ++ [.connect i, .transfer i r] ∧
                ∀ e, done.result = .error e ↔ ∃ f, e = .dispatchFailure f ∧
                  (t.transfer i r (t.connect i c.planes.1).state).result = .error f)) ∧
        (type = "HttpProxy" → Push.accepts p = false ∧
          done.result = .error (.noMatchingController id) ∧ done.state = c) := by
  obtain ⟨type, rfl, i, hi⟩ := Push.mem_transferTypes_iff_selected.1 hoffered
  refine ⟨type, rfl, fun parsed => Push.parse_offered_iff, fun id policy => ?_⟩
  intro m p done
  constructor
  · intro hother
    have haccepts : Push.accepts p = true := (Push.accepts_taken_iff asset id type).2 hother
    have hdispatch : m.dispatch p = .ok (push.controller t.recorded) :=
      dispatch_register_new haccepts
    refine ⟨haccepts, hdispatch, fun hset => ?_⟩
    have hasks : AsksOnce t push p c done.result done.state := by
      simp only [done, initiate_of_match hdispatch]
      exact push.initiate_recorded t p c
    -- The data plane behind the offer is capable, though another one may have its turn.
    obtain ⟨hmem, hcan⟩ := Selector.mem_capable.1 (Selector.select_ok hi).1
    obtain ⟨j, hj, _, _, _, r, hprocess, _, _, _, _, _, hcalls, _, hok, hfailed⟩ :=
      hasks.asked hset ⟨i, hmem, hcan⟩
    refine ⟨j, hj, r, hprocess, hcalls, fun e => ?_⟩
    cases hasked : (t.transfer j r (t.connect j c.planes.1).state).result with
    | ok _ => simp [hok hasked]
    | error f => simp [hfailed f hasked, eq_comm]
  · intro hproxy
    have hrefused : Push.accepts p = false := by
      rw [Bool.eq_false_iff]
      exact fun haccepts => (Push.accepts_taken_iff asset id type).1 haccepts hproxy
    have hdone : done = ⟨.error (.noMatchingController id), c, [.noControllerMatched id]⟩ :=
      delegate_register_new_of_refused hrefused
    exact ⟨hrefused, by rw [hdone], by rw [hdone]⟩

theorem offer_is_usable_of_dashed_type :
    let i := ((Instance.located "dp-1" ⟨"embedded", none, ['d', 'p'], none, none⟩).allowSource
      "HttpData").allowDestination "x-PULL"
    let c : Control (Rehearsal × List Call) := ⟨.withInstances .first [i], (.empty, []), 0, 0⟩
    let push : Push := ⟨none, false⟩
    let t := Rehearsal.transport.recorded
    let asset : Asset := ⟨"asset-1", .ofType "HttpData"⟩
    "x-PULL-PUSH" ∈ (push.controller t).transferTypes c asset ∧
      TransferType.parse "x-PULL-PUSH" = .ok (.push "x-PULL") ∧
      ∃ r : Request, r.processId = "tp-1" ∧
        ((new.register (push.controller t)).initiate (asset.taken "tp-1" "x-PULL" "x-PULL-PUSH")
          .none c).state.planes.2 = [.connect i, .transfer i r] := by
  intro i c push t asset
  have hoffered : "x-PULL-PUSH" ∈ (push.controller t).transferTypes c asset := by decide
  obtain ⟨type, htext, hparse, htaken⟩ :=
    offer_is_usable Rehearsal.transport push c asset "x-PULL-PUSH" hoffered
  have hspelt : "x-PULL" ++ "-PUSH" = type ++ "-PUSH" := htext
  obtain rfl : "x-PULL" = type := (String.append_left_inj "-PUSH").1 hspelt
  obtain ⟨_, _, hstarted⟩ := (htaken "tp-1" .none).1 (by decide)
  obtain ⟨j, hj, r, hprocess, hcalls, _⟩ := hstarted (by simp [push])
  obtain rfl : j = i := List.mem_singleton.1 hj
  exact ⟨hoffered, (hparse _).2 ⟨by decide, rfl⟩, r, hprocess, hcalls⟩

/-- Data planes may accept the type of the proxy and the empty one. A push to the former is offered,
and the process that takes it up has no controller; a push to the latter is offered as a text that
is no transfer type. -/
theorem offer_of_proxy_or_empty_type_fails :
    let i := (((Instance.located "dp-1" ⟨"embedded", none, ['d', 'p'], none, none⟩).allowSource
      "HttpData").allowDestination "HttpProxy").allowDestination ""
    let c : Control (Rehearsal × List Call) := ⟨.withInstances .first [i], (.empty, []), 0, 0⟩
    let push : Controller (Control (Rehearsal × List Call)) :=
      Push.controller ⟨none, false⟩ Rehearsal.transport.recorded
    let asset : Asset := ⟨"asset-1", .ofType "HttpData"⟩
    let p := asset.taken "tp-1" "HttpProxy" "HttpProxy-PUSH"
    (push.transferTypes c asset).toList = ["-PUSH", "HttpProxy-PUSH"] ∧
      TransferType.parse "HttpProxy-PUSH" = .ok (.push "HttpProxy") ∧
      Push.accepts p = false ∧
      ((new.register push).initiate p .none c).result = .error (.noMatchingController "tp-1") ∧
      ((new.register push).initiate p .none c).state.planes.2 = [] ∧
      TransferType.parse "-PUSH" = .error (.emptyKind "-PUSH") := by
  intro i c push asset p
  have hlisted : (push.transferTypes c asset).toList = ["-PUSH", "HttpProxy-PUSH"] := by decide
  have hrefused : Push.accepts p = false := by decide
  exact ⟨hlisted, rfl, hrefused, rfl, rfl, rfl⟩

end Manager

end FlowBroker
