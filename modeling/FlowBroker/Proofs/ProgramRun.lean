import FlowBroker.CommandLine
import FlowBroker.Proofs.EmbeddedFlows
import FlowBroker.Proofs.Offers
import FlowBroker.Proofs.SoundConfig
import FlowBroker.Proofs.Wire
import Mathlib.Data.List.Forall2

namespace FlowBroker

theorem Ledger.capable_of_asked? {push : Push} {l : Ledger} {p : TransferProcess}
    {i : Instance} (h : l.asked? push p = some i) :
    i ∈ l.selector.capable p.source.type p.destination.type := by
  rw [Ledger.asked?] at h
  split at h
  · cases h
  · cases hselect : (l.selector.select p.source.type p.destination.type).1 with
    | error e => simp [hselect, Except.toOption] at h
    | ok j =>
        simp only [hselect, Except.toOption, Option.some.injEq] at h
        exact (Selector.select_ok (h ▸ hselect)).1

namespace CommandLine

variable {words : List String} {files later : String → Except FileFault String}
  {network : Http.Network} {dice : Dice} {series : Nat} {c : Config} {p : TransferProcess}
  {r : Report} {sent : List Http.Request}

/-- What the program reports. The files are looked at twice: for the configuration, and `later`,
when the log is open, for the process. -/
def report (words : List String) (files later : String → Except FileFault String)
    (network : Http.Network) (dice : Dice) (series : Nat) : Report :=
  match Session.load words files with
  | .error complaint => .failed complaint
  | .ok s => s.run later network dice series

def Configures (words : List String) (files : String → Except FileFault String) (c : Config) :
    Prop :=
  ∃ text, files ("config/" ++ environment words ++ ".yaml") = .ok text ∧
    (Yaml.read text).map Config.decode = some (.ok c) ∧ c.validate = .ok ()

def Brings (words : List String) (files : String → Except FileFault String)
    (p : TransferProcess) : Prop :=
  ∃ path text, processPath? words = some path ∧ files path = .ok text ∧
    Json.decodeText TransferProcess.decode text = .ok p

def soleManager (push : Push) (network : Http.Network) : Manager (Control Planes) :=
  Manager.new.register (push.controller (Planes.transport network))

def Succeeds (c : Config) (network : Http.Network) (dice : Dice) (series : Nat) (ending : Bool)
    (p : TransferProcess) : Prop :=
  ∃ selector callback, c.selector dice = .ok selector ∧ c.control.callbackUrl = .ok callback ∧
    let m := soleManager ⟨callback, c.control.requireCallback⟩ network
    let start : Control Planes := ⟨selector, default, series, 0⟩
    if ending then (m.terminate p start).result = .ok ()
    else ∃ answer, (m.initiate p .none start).result = .ok answer

/-- One line for each source type that some data plane accepts, with the pushes to all types that
data planes accept for it, both in the ascending order of their bytes. -/
def Lists (planes : List Instance) (out : String) : Prop :=
  ∃ (sources : List String) (pushes : String → List String),
    ByteAscending sources ∧ (∀ source, source ∈ sources ↔ ∃ i ∈ planes, source ∈ i.sourceTypes) ∧
    (∀ source, ByteAscending (pushes source) ∧ ∀ text, text ∈ pushes source ↔
      ∃ type : String, text = type ++ "-PUSH" ∧
        ∃ i ∈ planes, source ∈ i.sourceTypes ∧ type ∈ i.destinationTypes) ∧
    out = String.join (sources.map fun source =>
      source ++ ": " ++ ", ".intercalate (pushes source) ++ "\n")

theorem configures_iff :
    Configures words files c ↔ Config.ofFile files (Config.path (environment words)) = .ok c := by
  rw [Config.ofFile]
  constructor
  · rintro ⟨text, htext, hread⟩
    rw [Config.path, htext]
    exact Config.ofYaml_eq_ok_iff.2 hread
  · intro h
    split at h
    · next text htext => exact ⟨text, htext, Config.ofYaml_eq_ok_iff.1 h⟩
    · cases h

theorem Configures.unique {c' : Config} (h : Configures words files c)
    (h' : Configures words files c') : c = c' :=
  Except.ok.inj ((configures_iff.1 h).symm.trans (configures_iff.1 h'))

theorem load_of_configures (h : Configures words files c) :
    ∃ (strategy : Dice → Strategy) (callback : Option Url),
      (∀ dice, c.selector dice = .ok (.withInstances (strategy dice) c.planes)) ∧
      c.control.callbackUrl = .ok callback ∧
      (∀ dice, (Selector.withInstances (strategy dice) c.planes).all = c.planes) ∧
      Session.load words files =
        .ok ⟨environment words, c, strategy, callback, processPath? words, terminates words⟩ := by
  have hloaded := configures_iff.1 h
  obtain ⟨_, _, _, hvalid⟩ := h
  have hsound := Config.validate_eq_ok_iff.1 hvalid
  obtain ⟨strategy, hstrategy⟩ := Config.exists_strategy hsound.strategy
  obtain ⟨callback, hcallback⟩ := Config.exists_callbackUrl hsound.callback
  have hnamed : Strategy.ofName c.control.strategy = .ok strategy := by
    rw [Strategy.ofName, hstrategy]
  refine ⟨strategy, callback, fun dice => ?_, hcallback,
    fun dice => Config.all_withInstances (strategy dice) hsound.planes.distinct, ?_⟩
  · rw [Config.selector, hnamed]
    rfl
  · simp only [Session.load, hloaded, hnamed, hcallback, bind, Except.bind]
    rfl

theorem each_add (instances : List Instance) (c : Control Planes) :
    (Run.each Control.add instances c).state =
        { c with selector := instances.foldl Selector.add c.selector } ∧
      requestsSent (Run.each Control.add instances c).events = [] := by
  induction instances generalizing c with
  | nil => exact ⟨rfl, rfl⟩
  | cons i is ih =>
      rw [Run.each_cons]
      obtain ⟨hstate, hsent⟩ := ih (Control.add i c).state
      refine ⟨hstate, ?_⟩
      rw [requestsSent_append, hsent, List.append_nil, Control.add]
      split <;> rfl

theorem setUp_apply (s : Session) (c : Control Planes) :
    (s.setUp c).state = { c with selector := s.config.planes.foldl Selector.add c.selector } ∧
      requestsSent (s.setUp c).events = [] := by
  obtain ⟨hstate, hsent⟩ := each_add s.config.planes c
  refine ⟨hstate, ?_⟩
  simp only [Session.setUp, Run.bind_apply, Run.emit, requestsSent_append, hsent]
  rfl

theorem listing_lists (s : Session) (c : Control Planes) :
    Lists c.selector.all (Session.listing (s.manager network) c) := by
  refine ⟨_, fun source => ((s.manager network).transferTypes c ⟨source, .ofType source⟩).toList,
    TypeSet.byteAscending _, ?_, fun source => ⟨TypeSet.byteAscending _, fun text => ?_⟩, rfl⟩
  · intro source
    rw [← TypeSet.mem_def, TypeSet.mem_ofList, List.mem_flatMap]
    rfl
  · rw [← TypeSet.mem_def, Session.manager, Manager.mem_transferTypes_register_new]
    refine Push.mem_transferTypes.trans (exists_congr fun type => ?_)
    rw [TransferType.toString_push]
    rfl

section

variable (push : Push) (c : Control Planes)

theorem delegate_of_refused {α : Type}
    {f : Controller (Control Planes) → Run (Control Planes) (Except FlowError α)}
    (h : Push.accepts p = false) :
    requestsSent ((soleManager push network).delegate p f c).events = [] := by
  have hrefused : (push.controller (Planes.transport network)).accepts p = false := h
  rw [soleManager, Manager.delegate_register_new_of_refused hrefused]
  rfl

theorem delegate_of_accepted {α : Type}
    {f : Controller (Control Planes) → Run (Control Planes) (Except FlowError α)}
    (h : Push.accepts p = true) :
    requestsSent ((soleManager push network).delegate p f c).events =
      requestsSent (f (push.controller (Planes.transport network)) c).events := by
  have haccepts : (push.controller (Planes.transport network)).accepts p = true := h
  rw [soleManager, Manager.delegate_of_match (Manager.dispatch_register_new haccepts)]
  rfl

/-- To start a flow at most one remote data plane is asked, and it is capable. -/
theorem requestsSent_start (policy : Policy) :
    let sent := requestsSent ((soleManager push network).initiate p policy c).events
    sent = [] ∨ ∃ i url body, i ∈ c.selector.capable p.source.type p.destination.type ∧
      i.url.scheme ≠ "embedded" ∧ Remote.transferEndpoint i.url = .ok url ∧
      sent = [⟨.post, url, body⟩] := by
  intro sent
  cases haccepts : Push.accepts p with
  | false => exact .inl (delegate_of_refused push c haccepts)
  | true =>
      have hsent : sent = requestsSent (push.initiate (Planes.transport network) p c).events :=
        delegate_of_accepted push c haccepts
      rcases Control.initiate_cases push network p c with ⟨_, _, hnone⟩ | ⟨i, hi, _, _, hasked⟩
      · exact .inl (hsent.trans hnone)
      · rw [hasked, Planes.requestsSent_transfer] at hsent
        split at hsent
        · exact .inl hsent
        · next hremote =>
          cases hsend : Remote.sendable? .post (some (push.request p c).encode)
            (Remote.transferEndpoint i.url) with
          | none => exact .inl (by rw [hsent, hsend]; rfl)
          | some h =>
              obtain ⟨hurl, hmethod, _⟩ := Remote.of_sendable?_eq_some hsend
              refine .inr ⟨i, h.url, h.body, Ledger.capable_of_asked? hi,
                mt Control.isEmbedded_iff.2 hremote, hurl, ?_⟩
              rw [hsent, hsend, ← hmethod]
              rfl

theorem exists_sublist_forall₂ {α β : Type} (f : α → Option β) (xs : List α) :
    ∃ ys : List α, ys.Sublist xs ∧ List.Forall₂ (fun x b => f x = some b) ys (xs.filterMap f) := by
  induction xs with
  | nil => exact ⟨[], .slnil, .nil⟩
  | cons x xs ih =>
      obtain ⟨ys, hsub, hall⟩ := ih
      cases hx : f x with
      | none =>
          rw [List.filterMap_cons_none hx]
          exact ⟨ys, hsub.cons x, hall⟩
      | some b =>
          rw [List.filterMap_cons_some hx]
          exact ⟨x :: ys, hsub.cons_cons x, .cons hx hall⟩

/-- To end a flow no data plane is asked but remote ones, and none of them twice. -/
theorem requestsSent_end :
    let sent := requestsSent ((soleManager push network).terminate p c).events
    sent = [] ∨
      ∃ asked, asked.Sublist c.selector.all ∧ (∀ i ∈ asked, i.url.scheme ≠ "embedded") ∧
        List.Forall₂ (fun i h => h.method = .delete ∧ Remote.processEndpoint i.url p.id = .ok h.url)
          asked sent := by
  intro sent
  cases haccepts : Push.accepts p with
  | false => exact .inl (delegate_of_refused push c haccepts)
  | true =>
      have hstep : requestsSent (Push.terminate (Planes.transport network) p c).events =
          (c.ledger.remotes push (.terminate p)).filterMap
            (c.ledger.httpRequest? push (.terminate p)) := by
        rw [← Control.requestsSent_perform push network c (.terminate p)]
        exact congrArg requestsSent (List.append_nil _).symm
      have hsent : sent = _ := (delegate_of_accepted push c haccepts).trans hstep
      obtain ⟨asked, hsub, hall⟩ := exists_sublist_forall₂
        (c.ledger.httpRequest? push (.terminate p)) (c.ledger.remotes push (.terminate p))
      refine .inr ⟨asked, hsub.trans List.filter_sublist, fun i hi => ?_, ?_⟩
      · exact of_decide_eq_true (List.mem_filter.1 (hsub.subset hi)).2
      · rw [hsent]
        refine hall.imp fun i h hsend => ?_
        obtain ⟨hurl, hmethod, _⟩ := Remote.of_sendable?_eq_some hsend
        exact ⟨hmethod, hurl⟩

end

namespace Session

def start (s : Session) (dice : Dice) (series : Nat) : Control Planes :=
  ⟨.withInstances (s.strategy dice) s.config.planes, default, series, 0⟩

theorem serve_cases (s : Session) (m : Manager (Control Planes)) (c : Control Planes) :
    ((s.serve m p c).result.2 = none ↔
        if s.terminates then (m.terminate p c).result = .ok ()
        else ∃ answer, (m.initiate p .none c).result = .ok answer) ∧
      requestsSent (s.serve m p c).events =
        requestsSent (if s.terminates then (m.terminate p c).events
          else (m.initiate p .none c).events) := by
  cases hends : s.terminates with
  | true =>
      simp only [serve, hends, if_true, Run.bind_apply, Run.pure_apply]
      cases hresult : (m.terminate p c).result with
      | ok _ => simp [Except.map]
      | error e => simp [Except.map, Run.emit, requestsSent]
  | false =>
      simp only [serve, hends, Bool.false_eq_true, if_false, Run.bind_apply, Run.pure_apply]
      cases hresult : (m.initiate p .none c).result with
      | ok _ => simp [Except.map]
      | error e => simp [Except.map, Run.emit, requestsSent]

theorem setUp_state (s : Session) :
    (s.setUp ⟨.new (s.strategy dice), default, series, 0⟩).state = s.start dice series :=
  -- `withInstances` adds the data planes to a new selector, too.
  (setUp_apply s _).1

theorem readProcess_eq_ok_iff {path : String} :
    readProcess later path = .ok p ↔
      ∃ text, later path = .ok text ∧ Json.decodeText TransferProcess.decode text = .ok p := by
  rw [readProcess]
  cases later path with
  | error fault => simp [throw, throwThe, MonadExceptOf.throw]
  | ok text =>
      cases hdecode : Json.decodeText TransferProcess.decode text with
      | error e => simp [hdecode, throw, throwThe, MonadExceptOf.throw]
      | ok p' => simp [hdecode, pure, Except.pure]

section

variable (s : Session) (later network dice series)

theorem run_without_path (h : s.processPath = none) :
    let r := s.run later network dice series
    r.exit = 0 ∧ requestsSent r.events = [] ∧ Lists (s.start dice series).selector.all r.out := by
  simp only [run, h]
  refine ⟨trivial, (setUp_apply s _).2, ?_⟩
  rw [setUp_state]
  exact listing_lists s _

theorem run_unread {path : String} (h : s.processPath = some path)
    (hread : ∀ p, readProcess later path ≠ .ok p) :
    let r := s.run later network dice series
    r.exit ≠ 0 ∧ requestsSent r.events = [] := by
  cases hp : readProcess later path with
  | ok p => exact absurd hp (hread p)
  | error complaint =>
      simp only [run, h, hp, Report.failed]
      exact ⟨by decide, (setUp_apply s _).2⟩

theorem run_served {path : String} (h : s.processPath = some path)
    (hread : readProcess later path = .ok p) :
    let r := s.run later network dice series
    let served := s.serve (s.manager network) p (s.start dice series)
    (r.exit = 0 ↔ served.result.2 = none) ∧
      requestsSent r.events = requestsSent served.events := by
  simp only [run, h, hread, setUp_state]
  have hsent (es : List Event) : requestsSent
      ((s.setUp ⟨.new (s.strategy dice), default, series, 0⟩).events ++ es) = requestsSent es := by
    rw [requestsSent_append, (setUp_apply s _).2, List.nil_append]
  cases hresult : (s.serve (s.manager network) p (s.start dice series)).result with
  | mk out failure =>
      cases failure with
      | none => exact ⟨by simp, hsent _⟩
      | some e => exact ⟨by simp, hsent _⟩

end

end Session

theorem brings_iff {path : String} (hpath : processPath? words = some path) :
    Brings words later p ↔ Session.readProcess later path = .ok p := by
  rw [Session.readProcess_eq_ok_iff]
  constructor
  · rintro ⟨path', text, hpath', htext, hread⟩
    cases hpath.symm.trans hpath'
    exact ⟨text, htext, hread⟩
  · rintro ⟨text, htext, hread⟩
    exact ⟨path, text, hpath, htext, hread⟩

theorem Brings.unique {p' : TransferProcess} (h : Brings words later p)
    (h' : Brings words later p') : p = p' := by
  have ⟨_, _, hpath, _⟩ := h
  exact Except.ok.inj (((brings_iff hpath).1 h).symm.trans ((brings_iff hpath).1 h'))

theorem succeeds_iff {selector : Selector} {callback : Option Url} {ending : Bool}
    (hselector : c.selector dice = .ok selector)
    (hcallback : c.control.callbackUrl = .ok callback) :
    Succeeds c network dice series ending p ↔
      let m := soleManager ⟨callback, c.control.requireCallback⟩ network
      let start : Control Planes := ⟨selector, default, series, 0⟩
      if ending then (m.terminate p start).result = .ok ()
      else ∃ answer, (m.initiate p .none start).result = .ok answer := by
  constructor
  · rintro ⟨selector', callback', hselector', hcallback', h⟩
    cases hselector.symm.trans hselector'
    cases hcallback.symm.trans hcallback'
    exact h
  · exact fun h => ⟨selector, callback, hselector, hcallback, h⟩

theorem report_unconfigured (h : ¬ ∃ c, Configures words files c) :
    (report words files later network dice series).exit ≠ 0 ∧
      requestsSent (report words files later network dice series).events = [] := by
  cases hloaded : Config.ofFile files (Config.path (environment words)) with
  | ok c => exact absurd ⟨c, configures_iff.2 hloaded⟩ h
  | error e =>
      have hload : Session.load words files = .error (.ofConfig e) := by
        rw [Session.load, hloaded]
        rfl
      simp only [report, hload, Report.failed]
      exact ⟨by decide, rfl⟩

/-- What a configured run comes to, which depends on whether there is a process to read. -/
theorem report_configured (later : String → Except FileFault String) (network : Http.Network)
    (dice : Dice) (series : Nat) (h : Configures words files c) :
    let r := report words files later network dice series
    (processPath? words = none ∧ r.exit = 0 ∧ requestsSent r.events = [] ∧ Lists c.planes r.out) ∨
    (processPath? words ≠ none ∧ (¬ ∃ p, Brings words later p) ∧
      r.exit ≠ 0 ∧ requestsSent r.events = []) ∨
    ∃ p, Brings words later p ∧ (r.exit = 0 ↔ Succeeds c network dice series (terminates words) p) ∧
      ∃ (push : Push) (start : Control Planes), start.selector.all = c.planes ∧
        requestsSent r.events = requestsSent (if terminates words
          then ((soleManager push network).terminate p start).events
          else ((soleManager push network).initiate p .none start).events) := by
  intro r
  obtain ⟨strategy, callback, hselector, hcallback, hall, hload⟩ := load_of_configures h
  set s : Session :=
    ⟨environment words, c, strategy, callback, processPath? words, terminates words⟩
  have hr : r = s.run later network dice series := by simp only [r, report, hload]
  have hstart : (s.start dice series).selector.all = c.planes := hall dice
  cases hpath : processPath? words with
  | none =>
      obtain ⟨hexit, hsent, hlists⟩ := s.run_without_path later network dice series hpath
      exact .inl ⟨rfl, hr ▸ hexit, hr ▸ hsent, hstart ▸ hr ▸ hlists⟩
  | some path =>
      by_cases hread : ∃ p, Session.readProcess later path = .ok p
      · obtain ⟨p, hread⟩ := hread
        obtain ⟨hexit, hsent⟩ := s.run_served later network dice series hpath hread
        obtain ⟨hserved, hflow⟩ := s.serve_cases (s.manager network) (p := p) (s.start dice series)
        refine .inr (.inr ⟨p, (brings_iff hpath).2 hread, ?_, ⟨callback, c.control.requireCallback⟩,
          s.start dice series, hstart, hr ▸ hsent.trans hflow⟩)
        rw [hr, hexit, hserved, succeeds_iff (hselector dice) hcallback]
        rfl
      · refine .inr (.inl ⟨by simp, ?_, ?_⟩)
        · rintro ⟨p, hp⟩
          exact hread ⟨p, (brings_iff hpath).1 hp⟩
        · exact hr ▸ s.run_unread later network dice series hpath fun p hp => hread ⟨p, hp⟩

/-- How a program that sends these requests is to conduct itself: when it ends well, when it sends
at all, what it sends to start a flow and to end one, and what it writes if there is no process. -/
structure Conduct (words : List String) (files later : String → Except FileFault String)
    (network : Http.Network) (dice : Dice) (series : Nat) (r : Report) (sent : List Http.Request) :
    Prop where
  exit_eq_zero_iff : r.exit = 0 ↔ ∃ c, Configures words files c ∧
    (processPath? words = none ∨
      ∃ p, Brings words later p ∧ Succeeds c network dice series (terminates words) p)
  sends_only_if : sent ≠ [] →
    ∃ c p, Configures words files c ∧ Brings words later p ∧ Push.accepts p = true
  starting : terminates words = false → sent = [] ∨
    ∃ c p i url body, Configures words files c ∧ Brings words later p ∧
      i ∈ c.planes ∧ i.url.scheme ≠ "embedded" ∧
      p.source.type ∈ i.sourceTypes ∧ p.destination.type ∈ i.destinationTypes ∧
      Remote.transferEndpoint i.url = .ok url ∧ sent = [⟨.post, url, body⟩]
  ending : terminates words = true → sent = [] ∨
    ∃ c p asked, Configures words files c ∧ Brings words later p ∧
      asked.Sublist c.planes ∧ (∀ i ∈ asked, i.url.scheme ≠ "embedded") ∧
      List.Forall₂ (fun i h => h.method = .delete ∧ Remote.processEndpoint i.url p.id = .ok h.url)
        asked sent
  listing : processPath? words = none → sent = [] ∧
    ∀ c, Configures words files c → Lists c.planes r.out

theorem Conduct.of_unconfigured (h : ¬ ∃ c, Configures words files c) (hexit : r.exit ≠ 0)
    (hsent : sent = []) : Conduct words files later network dice series r sent where
  exit_eq_zero_iff := iff_of_false hexit fun ⟨c, hc, _⟩ => h ⟨c, hc⟩
  sends_only_if := absurd hsent
  starting _ := .inl hsent
  ending _ := .inl hsent
  listing _ := ⟨hsent, fun c hc => absurd ⟨c, hc⟩ h⟩

theorem Conduct.of_listing (hc : Configures words files c) (hpath : processPath? words = none)
    (hexit : r.exit = 0) (hsent : sent = []) (hlists : Lists c.planes r.out) :
    Conduct words files later network dice series r sent where
  exit_eq_zero_iff := iff_of_true hexit ⟨c, hc, .inl hpath⟩
  sends_only_if := absurd hsent
  starting _ := .inl hsent
  ending _ := .inl hsent
  listing _ := ⟨hsent, fun _ hc' => hc.unique hc' ▸ hlists⟩

theorem Conduct.of_unread (hpath : processPath? words ≠ none) (h : ¬ ∃ p, Brings words later p)
    (hexit : r.exit ≠ 0) (hsent : sent = []) :
    Conduct words files later network dice series r sent where
  exit_eq_zero_iff := by
    refine iff_of_false hexit ?_
    rintro ⟨_, _, hno | ⟨p, hp, _⟩⟩
    · exact hpath hno
    · exact h ⟨p, hp⟩
  sends_only_if := absurd hsent
  starting _ := .inl hsent
  ending _ := .inl hsent
  listing hno := absurd hno hpath

theorem Conduct.of_served {push : Push} {start : Control Planes}
    (hc : Configures words files c) (hp : Brings words later p)
    (hexit : r.exit = 0 ↔ Succeeds c network dice series (terminates words) p)
    (hall : start.selector.all = c.planes)
    (hsent : sent = requestsSent (if terminates words
      then ((soleManager push network).terminate p start).events
      else ((soleManager push network).initiate p .none start).events)) :
    Conduct words files later network dice series r sent := by
  have hpath : processPath? words ≠ none := by
    obtain ⟨path, _, hpath, -⟩ := hp
    simp [hpath]
  refine ⟨?_, ?_, ?_, ?_, fun hno => absurd hno hpath⟩
  · rw [hexit]
    constructor
    · exact fun h => ⟨c, hc, .inr ⟨p, hp, h⟩⟩
    · rintro ⟨c', hc', hno | ⟨p', hp', h⟩⟩
      · exact absurd hno hpath
      · exact hc.unique hc' ▸ hp.unique hp' ▸ h
  · intro hsome
    refine ⟨c, p, hc, hp, eq_true_of_ne_false fun hrefused => hsome ?_⟩
    rw [hsent]
    split <;> exact delegate_of_refused push start hrefused
  · intro hends
    rw [hsent, hends]
    rcases requestsSent_start push start .none with
      hquiet | ⟨i, url, body, hi, hremote, hurl, hposted⟩
    · exact .inl hquiet
    · obtain ⟨hi, hsource, hdestination⟩ := Selector.mem_capable.1 hi
      exact .inr ⟨c, p, i, url, body, hc, hp, hall ▸ hi, hremote, hsource, hdestination, hurl,
        hposted⟩
  · intro hends
    rw [hsent, hends]
    rcases requestsSent_end push start with hquiet | ⟨asked, hsub, hremote, hdeleted⟩
    · exact .inl hquiet
    · exact .inr ⟨c, p, asked, hc, hp, hall ▸ hsub, hremote, hdeleted⟩

theorem conduct_of_asked (words : List String) (files later : String → Except FileFault String)
    (network : Http.Network) (dice : Dice) (series : Nat) :
    let r := report words files later network dice series
    Conduct words files later network dice series r (requestsSent r.events) := by
  by_cases hconfigured : ∃ c, Configures words files c
  · obtain ⟨c, hc⟩ := hconfigured
    rcases report_configured later network dice series hc with
      ⟨hpath, hexit, hsent, hlists⟩ | ⟨hpath, hnone, hexit, hsent⟩ |
      ⟨p, hp, hexit, push, start, hall, hsent⟩
    · exact .of_listing hc hpath hexit hsent hlists
    · exact .of_unread hpath hnone hexit hsent
    · exact .of_served hc hp hexit hall hsent
  · obtain ⟨hexit, hsent⟩ := report_unconfigured hconfigured
    exact .of_unconfigured hconfigured hexit hsent

def sampleProcess : TransferProcess :=
  ⟨"tp-1", some "S3-PUSH", "S3", .ofType "HttpData", .ofType "S3"⟩

def sampleConfig : String :=
  "log_level: info\nlog_dir: logs\nlog_file: app.log\nuse_json: false\nrotation: daily\n" ++
    "control: \x7bselection_strategy: random\x7d\ndata_planes:\n" ++
    "- \x7bid: dp, url: http://dp, allowedSourceTypes: [HttpData], allowedDestTypes: [S3]\x7d\n"

def sampleFiles (path : String) : Except FileFault String :=
  if path = "config/prod.yaml" then .ok sampleConfig
  else if path = "tp.json" then .ok (Json.render sampleProcess.encode)
  else .error .notFound

def sampleNetwork : Http.Network := fun _ _ => some ⟨204, some []⟩

def sampleReport : Report :=
  report ["broker", "--env", "prod", "-p", "tp.json"] sampleFiles sampleFiles sampleNetwork
    (.spread 0) 7

/-- Whatever the words, the files, the answers and the dice, `Conduct` holds of the requests that
the program asks the HTTP client to send. The client issues these and, where it is redirected, at
most one more for each answer that redirects. So where no answer does, `Conduct` holds of all that
is issued on the wire. -/
theorem report_conducts (words : List String) (files later : String → Except FileFault String)
    (network : Http.Network) (dice : Dice) (series : Nat) :
    let r := report words files later network dice series
    let asked := requestsSent r.events
    Conduct words files later network dice series r asked ∧
      ∀ wire : Http.Wire, wire.FollowsRedirects →
        asked.Sublist (wire.issued 0 asked) ∧ (asked = [] → wire.issued 0 asked = []) ∧
        (wire.issued 0 asked).length ≤
          asked.length + (wire.exchanges 0 asked).countP Http.Exchange.redirects ∧
        (wire.IsDirect 0 asked →
          Conduct words files later network dice series r (wire.issued 0 asked)) := by
  intro r asked
  have hconduct : Conduct words files later network dice series r asked :=
    conduct_of_asked words files later network dice series
  refine ⟨hconduct, fun wire hfollows => ?_⟩
  obtain ⟨hsublist, hlength⟩ := hfollows.issued_bounds 0 asked
  refine ⟨hsublist, fun hnone => ?_, hlength, fun hdirect => ?_⟩
  · rw [hnone]
    rfl
  · rw [← hfollows.issued_of_direct hdirect]
    exact hconduct

theorem report_conducts_of_one_post :
    let wire : Http.Wire := fun n request => [⟨request, sampleNetwork n request, none⟩]
    let asked := requestsSent sampleReport.events
    wire.FollowsRedirects ∧ wire.IsDirect 0 asked ∧
      Conduct ["broker", "--env", "prod", "-p", "tp.json"] sampleFiles sampleFiles sampleNetwork
        (.spread 0) 7 sampleReport (wire.issued 0 asked) ∧
      wire.issued 0 asked = asked ∧ sampleReport.exit = 0 ∧
      asked.map (fun h => (h.method, h.url.toString)) = [(.post, "http://dp/transfer")] := by
  intro wire asked
  have hfollows : wire.FollowsRedirects := fun n request =>
    ⟨⟨request, sampleNetwork n request, none⟩, [], rfl, rfl, .singleton _⟩
  have hdirect : wire.IsDirect 0 asked := by
    intro e he
    obtain ⟨k, request, hk⟩ := Http.Wire.exists_of_mem_exchanges he
    rw [List.mem_singleton.1 hk]
    exact Bool.false_ne_true
  obtain ⟨-, hwire⟩ := report_conducts ["broker", "--env", "prod", "-p", "tp.json"] sampleFiles
    sampleFiles sampleNetwork (.spread 0) 7
  obtain ⟨-, -, -, hconduct⟩ := hwire wire hfollows
  refine ⟨hfollows, hdirect, hconduct hdirect, (hfollows.issued_of_direct hdirect).symm, ?_⟩
  decide +kernel

end CommandLine

end FlowBroker
