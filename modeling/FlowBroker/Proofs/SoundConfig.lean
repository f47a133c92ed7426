import FlowBroker.Config
import Mathlib.Data.List.Induction
import Mathlib.Data.List.Nodup

namespace FlowBroker

namespace Config

def KnowsRotation (c : Config) : Prop := c.rotation ∈ ["hourly", "daily", "never"]

def ReadsCallback (c : Config) : Prop :=
  ∀ text, c.control.callback = some text → ∃ u, Url.parse text = .ok u

def KnowsStrategy (c : Config) : Prop := c.control.strategy ∈ ["round-robin", "first", "random"]

structure Identified (planes : List Instance) : Prop where
  named : ∀ i ∈ planes, i.id ≠ ""
  distinct : (planes.map (·.id)).Nodup

structure Sound (c : Config) : Prop where
  rotation : c.KnowsRotation
  callback : c.ReadsCallback
  strategy : c.KnowsStrategy
  timeout : c.control.timeout ≠ 0
  planes : Identified c.planes

/-- The first data plane that has no id or that of an earlier one, and what is wrong with it. -/
def PlaneFault (planes : List Instance) (e : ConfigError) : Prop :=
  ∃ before i after, planes = before ++ i :: after ∧ Identified before ∧
    ((i.id = "" ∧ e = .namelessPlane i.url) ∨
      (i.id ≠ "" ∧ i.id ∈ before.map (·.id) ∧ e = .duplicatePlane i.id))

/-- A check fails, and all those before it pass. -/
inductive Fails (c : Config) : ConfigError → Prop
  | rotation : ¬c.KnowsRotation → Fails c (.unknownRotation c.rotation)
  | callback {text error} : c.KnowsRotation → c.control.callback = some text →
      Url.parse text = .error error → Fails c (.badCallback text error)
  | strategy : c.KnowsRotation → c.ReadsCallback → ¬c.KnowsStrategy →
      Fails c (.unknownStrategy c.control.strategy)
  | timeout : c.KnowsRotation → c.ReadsCallback → c.KnowsStrategy → c.control.timeout = 0 →
      Fails c .noTimeout
  | planes {e} : c.KnowsRotation → c.ReadsCallback → c.KnowsStrategy → c.control.timeout ≠ 0 →
      PlaneFault c.planes e → Fails c e

section

variable {c : Config} {planes rest : List Instance} {seen : List String} {e : ConfigError}

theorem rotation_ofName?_isSome (name : String) :
    (Rotation.ofName? name).isSome ↔ name ∈ ["hourly", "daily", "never"] := by
  rw [Rotation.ofName?]
  split
  · simp_all
  · split
    · simp_all
    · split <;> simp_all

theorem strategy_ofName?_isSome (name : String) :
    (Strategy.ofName? name).isSome ↔ name ∈ ["round-robin", "first", "random"] := by
  rw [Strategy.ofName?]
  split
  · simp_all
  · split
    · simp_all
    · split <;> simp_all

theorem name_of_ofName? {name : String} {s : Dice → Strategy} (h : Strategy.ofName? name = some s)
    (dice : Dice) : (s dice).name = name := by
  rw [Strategy.ofName?] at h
  split at h
  · cases h
    simp_all [Strategy.name]
  · split at h
    · cases h
      simp_all [Strategy.name]
    · split at h
      · cases h
        simp_all [Strategy.name]
      · cases h

theorem checkPlanes_append (h : Identified planes) (hseen : ∀ i ∈ planes, i.id ∉ seen) :
    checkPlanes seen (planes ++ rest) = checkPlanes ((planes.map (·.id)).reverse ++ seen) rest := by
  induction planes generalizing seen with
  | nil => rfl
  | cons i is ih =>
      obtain ⟨hfresh, hdistinct⟩ := List.nodup_cons.1 h.distinct
      have hnamed : i.id ≠ "" := h.named i List.mem_cons_self
      have hnew : seen.contains i.id = false := by simpa using hseen i List.mem_cons_self
      have his : ∀ j ∈ is, j.id ∉ i.id :: seen := by
        intro j hj
        rw [List.mem_cons, not_or]
        refine ⟨fun hji => hfresh (List.mem_map.2 ⟨j, hj, hji⟩), ?_⟩
        exact hseen j (List.mem_cons_of_mem i hj)
      rw [List.cons_append, checkPlanes, if_neg hnamed, hnew, if_neg Bool.false_ne_true,
        ih ⟨fun j hj => h.named j (List.mem_cons_of_mem i hj), hdistinct⟩ his]
      simp

theorem checkPlanes_of_identified (h : Identified planes) : checkPlanes [] planes = .ok () := by
  have happend := @checkPlanes_append planes [] [] h fun _ _ => List.not_mem_nil
  rw [List.append_nil] at happend
  exact happend

theorem checkPlanes_of_fault (h : PlaneFault planes e) : checkPlanes [] planes = .error e := by
  obtain ⟨before, i, after, rfl, hbefore, hi⟩ := h
  rw [checkPlanes_append hbefore fun _ _ => List.not_mem_nil, List.append_nil, checkPlanes]
  rcases hi with ⟨hnameless, rfl⟩ | ⟨hnamed, htaken, rfl⟩
  · rw [if_pos hnameless]
  · rw [if_neg hnamed, if_pos (by simpa using htaken)]

theorem identified_or_fault (planes : List Instance) :
    Identified planes ∨ ∃ e, PlaneFault planes e := by
  induction planes using List.reverseRecOn with
  | nil => exact .inl ⟨nofun, List.nodup_nil⟩
  | append_singleton planes i ih =>
      rcases ih with hsound | ⟨e, before, j, after, rfl, hfault⟩
      · by_cases hnameless : i.id = ""
        · exact .inr ⟨_, planes, i, [], rfl, hsound, .inl ⟨hnameless, rfl⟩⟩
        · by_cases htaken : i.id ∈ planes.map (·.id)
          · exact .inr ⟨_, planes, i, [], rfl, hsound, .inr ⟨hnameless, htaken, rfl⟩⟩
          · refine .inl ⟨fun j hj => ?_, ?_⟩
            · rcases List.mem_append.1 hj with hj | hj
              · exact hsound.named j hj
              · rwa [List.mem_singleton.1 hj]
            · rw [List.map_append, List.map_singleton, ← List.concat_eq_append]
              exact hsound.distinct.concat htaken
      · exact .inr ⟨e, before, j, after ++ [i], by simp, hfault⟩

theorem exists_rotation (h : c.KnowsRotation) : ∃ r, Rotation.ofName? c.rotation = some r :=
  Option.isSome_iff_exists.1 ((rotation_ofName?_isSome c.rotation).2 h)

theorem no_rotation (h : ¬c.KnowsRotation) : Rotation.ofName? c.rotation = none :=
  Option.not_isSome_iff_eq_none.1 fun hsome => h ((rotation_ofName?_isSome c.rotation).1 hsome)

theorem exists_strategy (h : c.KnowsStrategy) :
    ∃ s, Strategy.ofName? c.control.strategy = some s :=
  Option.isSome_iff_exists.1 ((strategy_ofName?_isSome c.control.strategy).2 h)

theorem no_strategy (h : ¬c.KnowsStrategy) : Strategy.ofName? c.control.strategy = none :=
  Option.not_isSome_iff_eq_none.1 fun hsome =>
    h ((strategy_ofName?_isSome c.control.strategy).1 hsome)

theorem exists_callbackUrl (h : c.ReadsCallback) : ∃ u, c.control.callbackUrl = .ok u := by
  rw [ControlConfig.callbackUrl]
  cases htext : c.control.callback with
  | none => exact ⟨none, rfl⟩
  | some text =>
      obtain ⟨u, hu⟩ := h text htext
      exact ⟨some u, by simp only [hu]⟩

theorem validate_of_known_settings (hrotation : c.KnowsRotation) (hcallback : c.ReadsCallback)
    (hstrategy : c.KnowsStrategy) :
    c.validate = if c.control.timeout = 0 then .error .noTimeout else checkPlanes [] c.planes := by
  obtain ⟨r, hr⟩ := exists_rotation hrotation
  obtain ⟨u, hu⟩ := exists_callbackUrl hcallback
  obtain ⟨s, hs⟩ := exists_strategy hstrategy
  simp only [validate, bind, Except.bind, Rotation.ofName, hr, hu, Strategy.ofName, hs]
  rfl

theorem validate_of_sound (h : Sound c) : c.validate = .ok () := by
  rw [validate_of_known_settings h.rotation h.callback h.strategy, if_neg h.timeout,
    checkPlanes_of_identified h.planes]

theorem validate_of_fails (h : Fails c e) : c.validate = .error e := by
  cases h with
  | rotation hrotation =>
      simp only [validate, bind, Except.bind, Rotation.ofName, no_rotation hrotation]
  | callback hrotation htext herror =>
      obtain ⟨r, hr⟩ := exists_rotation hrotation
      simp only [validate, bind, Except.bind, Rotation.ofName, hr, ControlConfig.callbackUrl, htext,
        herror]
  | strategy hrotation hcallback hstrategy =>
      obtain ⟨r, hr⟩ := exists_rotation hrotation
      obtain ⟨u, hu⟩ := exists_callbackUrl hcallback
      simp only [validate, bind, Except.bind, Rotation.ofName, hr, hu, Strategy.ofName,
        no_strategy hstrategy]
  | timeout hrotation hcallback hstrategy htimeout =>
      rw [validate_of_known_settings hrotation hcallback hstrategy, if_pos htimeout]
  | planes hrotation hcallback hstrategy htimeout hfault =>
      rw [validate_of_known_settings hrotation hcallback hstrategy, if_neg htimeout,
        checkPlanes_of_fault hfault]

theorem sound_or_fails (c : Config) : Sound c ∨ ∃ e, Fails c e := by
  by_cases hrotation : c.KnowsRotation
  · by_cases hcallback : c.ReadsCallback
    · by_cases hstrategy : c.KnowsStrategy
      · by_cases htimeout : c.control.timeout = 0
        · exact .inr ⟨_, .timeout hrotation hcallback hstrategy htimeout⟩
        · rcases identified_or_fault c.planes with hplanes | ⟨e, hfault⟩
          · exact .inl ⟨hrotation, hcallback, hstrategy, htimeout, hplanes⟩
          · exact .inr ⟨e, .planes hrotation hcallback hstrategy htimeout hfault⟩
      · exact .inr ⟨_, .strategy hrotation hcallback hstrategy⟩
    · simp only [ReadsCallback, not_forall, not_exists] at hcallback
      obtain ⟨text, htext, hunread⟩ := hcallback
      cases hparse : Url.parse text with
      | ok u => exact absurd hparse (hunread u)
      | error error => exact .inr ⟨_, .callback hrotation htext hparse⟩
  · exact .inr ⟨_, .rotation hrotation⟩

theorem validate_eq_ok_iff : c.validate = .ok () ↔ Sound c := by
  refine ⟨fun h => ?_, validate_of_sound⟩
  rcases sound_or_fails c with hsound | ⟨e, hfails⟩
  · exact hsound
  · rw [validate_of_fails hfails] at h
    cases h

theorem validate_eq_error_iff : c.validate = .error e ↔ Fails c e := by
  refine ⟨fun h => ?_, validate_of_fails⟩
  rcases sound_or_fails c with hsound | ⟨e', hfails⟩
  · rw [validate_of_sound hsound] at h
    cases h
  · rw [validate_of_fails hfails] at h
    cases h
    exact hfails

theorem withInstances_snoc (strategy : Strategy) (planes : List Instance) (i : Instance) :
    Selector.withInstances strategy (planes ++ [i]) =
      (Selector.withInstances strategy planes).add i :=
  List.foldl_concat _ _ _ _

theorem strategy_withInstances (strategy : Strategy) (planes : List Instance) :
    (Selector.withInstances strategy planes).strategy = strategy := by
  induction planes using List.reverseRecOn with
  | nil => rfl
  | append_singleton planes i ih =>
      rw [withInstances_snoc]
      exact ih

theorem all_withInstances (strategy : Strategy) (h : (planes.map (·.id)).Nodup) :
    (Selector.withInstances strategy planes).all = planes := by
  induction planes using List.reverseRecOn with
  | nil => rfl
  | append_singleton planes i ih =>
      rw [List.map_append, List.nodup_append] at h
      obtain ⟨hdistinct, _, hnew⟩ := h
      have hall := ih hdistinct
      have habsent : (Selector.withInstances strategy planes).registry.find? i.id = none := by
        rw [Roster.find?_eq_none_iff]
        intro hmem
        exact hnew i.id (by rwa [← hall]) i.id (by simp) rfl
      rw [withInstances_snoc]
      exact (Roster.toList_put_of_absent habsent).trans (congrArg (· ++ [i]) hall)

theorem selector_of_sound (h : Sound c) :
    ∃ strategy, Strategy.ofName? c.control.strategy = some strategy ∧ ∀ dice, ∃ selector,
      (strategy dice).name = c.control.strategy ∧ c.selector dice = .ok selector ∧
      selector.all = c.planes ∧ selector.strategy = strategy dice := by
  obtain ⟨strategy, hstrategy⟩ := exists_strategy h.strategy
  refine ⟨strategy, hstrategy, fun dice => ⟨Selector.withInstances (strategy dice) c.planes,
    name_of_ofName? hstrategy dice, ?_, all_withInstances _ h.planes.distinct,
    strategy_withInstances _ c.planes⟩⟩
  rw [selector, Strategy.ofName, hstrategy]
  rfl

theorem callbackUrl_of_sound (h : Sound c) :
    (c.control.callback = none ∧ c.control.callbackUrl = .ok none) ∨
      ∃ text u, c.control.callback = some text ∧ Url.parse text = .ok u ∧
        c.control.callbackUrl = .ok (some u) := by
  rw [ControlConfig.callbackUrl]
  cases htext : c.control.callback with
  | none => exact .inl ⟨rfl, rfl⟩
  | some text =>
      obtain ⟨u, hu⟩ := h.callback text htext
      exact .inr ⟨text, u, rfl, hu, by simp only [hu]⟩

theorem logRotation_of_sound (h : Sound c) :
    Rotation.ofName? c.rotation = some c.logRotation := by
  obtain ⟨r, hr⟩ := exists_rotation h.rotation
  rw [logRotation, hr]
  rfl

theorem ofYaml_eq_ok_iff {text : String} :
    ofYaml text = .ok c ↔
      (Yaml.read text).map decode = some (.ok c) ∧ c.validate = .ok () := by
  constructor
  · intro h
    rw [ofYaml] at h
    split at h
    · next c' hread =>
      cases hvalid : c'.validate with
      | error e => simp [hvalid, bind, Except.bind] at h
      | ok _ =>
          simp only [hvalid, bind, Except.bind, pure, Except.pure, Except.ok.injEq] at h
          subst h
          exact ⟨hread, hvalid⟩
    · cases h
  · rintro ⟨hread, hvalid⟩
    simp only [ofYaml, hread, hvalid, bind, Except.bind]
    rfl

theorem validate_of_ofYaml {text : String} (h : ofYaml text = .ok c) : c.validate = .ok () :=
  (ofYaml_eq_ok_iff.1 h).2

end

/-- The checks pass exactly when all values are sound, and otherwise the first that fails gives the
error. Every configuration that passes, and so every one that is read, gives a selector with its
data planes as they stand and its strategy, whichever dice that draws from, its callback URL, and
its log rotation. -/
theorem validate_decides (c : Config) :
    (c.validate = .ok () ↔ Sound c) ∧ (∀ e, c.validate = .error e ↔ Fails c e) ∧
      (c.validate = .ok () →
        (∃ strategy, Strategy.ofName? c.control.strategy = some strategy ∧ ∀ dice, ∃ selector,
          (strategy dice).name = c.control.strategy ∧ c.selector dice = .ok selector ∧
          selector.all = c.planes ∧ selector.strategy = strategy dice) ∧
        ((c.control.callback = none ∧ c.control.callbackUrl = .ok none) ∨
          ∃ text u, c.control.callback = some text ∧ Url.parse text = .ok u ∧
            c.control.callbackUrl = .ok (some u)) ∧
        Rotation.ofName? c.rotation = some c.logRotation) ∧
      ∀ text, ofYaml text = .ok c → c.validate = .ok () := by
  refine ⟨validate_eq_ok_iff, fun e => validate_eq_error_iff, fun h => ?_,
    fun text => validate_of_ofYaml⟩
  have hsound := validate_eq_ok_iff.1 h
  exact ⟨selector_of_sound hsound, callbackUrl_of_sound hsound, logRotation_of_sound hsound⟩

theorem validate_decides_with_callback :
    let plane : Instance := .located "dp-1" ⟨"embedded", none, ['d', 'p'], none, none⟩
    let c : Config := ⟨"info", "./logs", "app.log", false, "daily",
      ⟨some "http://control:8080/back", true, "first", 18446744073709551615⟩,
      [plane, .located "dp-2" plane.url]⟩
    c.validate = .ok () ∧
      ∀ dice, ∃ selector, c.selector dice = .ok selector ∧ selector.all = c.planes := by
  intro plane c
  have hvalidate : c.validate = .ok () := by
    dsimp only [c, plane]
    decide +kernel
  obtain ⟨_, _, hbuilt, _⟩ := validate_decides c
  obtain ⟨⟨_, _, hgiven⟩, _⟩ := hbuilt hvalidate
  refine ⟨hvalidate, fun dice => ?_⟩
  obtain ⟨selector, _, hselector, hall, _⟩ := hgiven dice
  exact ⟨selector, hselector, hall⟩

end Config

end FlowBroker
