import FlowBroker.Plane.Selector

namespace FlowBroker

namespace Roster

variable {α : Type} {key : α → String}

def restrict (p : String → Bool) (r : Roster key) : Roster key where
  toList := r.toList.filter fun a => p (key a)
  distinct := r.distinct.sublist (List.filter_sublist.map key)

theorem filter_place (p : String → Bool) (a : α) (bs : List α) :
    (place key a bs).filter (fun b => p (key b)) =
      if p (key a) then place key a (bs.filter fun b => p (key b))
      else bs.filter fun b => p (key b) := by
  induction bs with
  | nil => cases h : p (key a) <;> simp [place, h]
  | cons b bs ih =>
      by_cases hb : key b = key a
      · cases h : p (key a) <;> simp [place, hb, h]
      · cases h : p (key a) <;> cases hp : p (key b) <;> simp_all [place]

variable (p : String → Bool) (r : Roster key)

theorem restrict_put (a : α) :
    (r.put a).restrict p = if p (key a) then (r.restrict p).put a else r.restrict p := by
  apply ext
  refine (filter_place p a r.toList).trans ?_
  split <;> rfl

theorem restrict_erase (k : String) : (r.erase k).restrict p = (r.restrict p).erase k :=
  ext (by simp only [erase, restrict, List.filter_filter, Bool.and_comm])

theorem find?_restrict (k : String) :
    (r.restrict p).find? k = if p k then r.find? k else none := by
  rw [find?, restrict, List.find?_filter]
  split
  · next hk =>
    rw [find?]
    congr
    funext a
    by_cases ha : key a = k <;> simp [ha, hk]
  · next hk =>
    rw [List.find?_eq_none]
    rintro a - ha
    obtain ⟨hp, hak⟩ := of_decide_eq_true ha
    exact hk (of_decide_eq_true hak ▸ hp)

end Roster

inductive RegistryCall where
  | add (i : Instance)
  | remove (id : String)
  | find (id : String)

inductive RegistryReply where
  | added
  | found (i? : Option Instance)

def RegistryCall.id : RegistryCall → String
  | add i => i.id
  | remove id | find id => id

/-- Two sequences in one order that is an order of either. -/
inductive Interleaving {α : Type} : List α → List α → List α → Prop
  | nil : Interleaving [] [] []
  | left {a : α} {as bs cs : List α} (h : Interleaving as bs cs) :
      Interleaving (a :: as) bs (a :: cs)
  | right {b : α} {as bs cs : List α} (h : Interleaving as bs cs) :
      Interleaving as (b :: bs) (b :: cs)

theorem Interleaving.symm {α : Type} {as bs cs : List α} (h : Interleaving as bs cs) :
    Interleaving bs as cs := by
  induction h with
  | nil => exact .nil
  | left _ ih => exact .right ih
  | right _ ih => exact .left ih

theorem Interleaving.filter_eq {α : Type} {p : α → Bool} {as bs cs : List α}
    (h : Interleaving as bs cs) (has : ∀ a ∈ as, p a = true) (hbs : ∀ b ∈ bs, p b = false) :
    cs.filter p = as := by
  induction h with
  | nil => rfl
  | left _ ih =>
      rw [List.filter_cons_of_pos (has _ List.mem_cons_self),
        ih (fun a ha => has a (List.mem_cons_of_mem _ ha)) hbs]
  | right _ ih =>
      rw [List.filter_cons_of_neg (Bool.eq_false_iff.1 (hbs _ List.mem_cons_self)),
        ih has fun b hb => hbs b (List.mem_cons_of_mem _ hb)]

namespace Selector

def serve (s : Selector) : RegistryCall → RegistryReply × Selector
  | .add i => (.added, s.add i)
  | .remove id => (.found (s.remove id).1, (s.remove id).2)
  | .find id => (.found (s.find? id), s)

def serveAll (s : Selector) : List RegistryCall → List (RegistryCall × RegistryReply) × Selector
  | [] => ([], s)
  | call :: calls =>
      let rest := (s.serve call).2.serveAll calls
      ((call, (s.serve call).1) :: rest.1, rest.2)

def restrict (p : String → Bool) (s : Selector) : Selector :=
  { s with registry := s.registry.restrict p }

section

variable {p : String → Bool}

/-- A call on an id of the part is served from the part, and changes the whole by what it changes
there. -/
theorem serve_restrict {call : RegistryCall} (h : p call.id = true) (s : Selector) :
    (s.restrict p).serve call = ((s.serve call).1, (s.serve call).2.restrict p) := by
  cases call with
  | add i =>
      have hput : (s.registry.put i).restrict p = (s.registry.restrict p).put i := by
        rw [Roster.restrict_put]
        exact if_pos h
      simp only [serve, add, restrict, hput]
  | remove id =>
      have hfind : (s.registry.restrict p).find? id = s.registry.find? id := by
        rw [Roster.find?_restrict]
        exact if_pos h
      simp only [serve, remove, restrict, hfind, Roster.restrict_erase]
  | find id =>
      have hfind : (s.registry.restrict p).find? id = s.registry.find? id := by
        rw [Roster.find?_restrict]
        exact if_pos h
      simp only [serve, find?, restrict, hfind]

theorem restrict_serve {call : RegistryCall} (h : p call.id = false) (s : Selector) :
    (s.serve call).2.restrict p = s.restrict p := by
  have hno : ¬p call.id = true := Bool.eq_false_iff.1 h
  cases call with
  | add i =>
      have hput : (s.registry.put i).restrict p = s.registry.restrict p := by
        rw [Roster.restrict_put]
        exact if_neg hno
      simp only [serve, add, restrict, hput]
  | remove id =>
      have habsent : (s.registry.restrict p).find? id = none := by
        rw [Roster.find?_restrict]
        exact if_neg hno
      simp only [serve, remove, restrict, Roster.restrict_erase, Roster.erase_of_absent habsent]
  | find id => rfl

/-- Serving the calls on ids of a part, from the part alone, comes to that part of serving all
calls. -/
theorem serveAll_restrict (p : String → Bool) (s : Selector) (calls : List RegistryCall) :
    (s.restrict p).serveAll (calls.filter (p ·.id)) =
      ((s.serveAll calls).1.filter (p ·.1.id), (s.serveAll calls).2.restrict p) := by
  induction calls generalizing s with
  | nil => rfl
  | cons call calls ih =>
      rw [List.filter_cons]
      split
      · next h =>
        rw [serveAll, serve_restrict h, ih]
        simp [serveAll, h]
      · next h =>
        rw [← restrict_serve (Bool.eq_false_iff.2 h) s, ih]
        simp [serveAll, h]

theorem calls_serveAll (s : Selector) (calls : List RegistryCall) :
    (s.serveAll calls).1.map Prod.fst = calls := by
  induction calls generalizing s with
  | nil => rfl
  | cons call calls ih => rw [serveAll, List.map_cons, ih]

end

/-- The calls of one client come to the same within `schedule` as alone: each has the same reply,
and the entries on whose ids the other one makes no call are the same in the same order. -/
structure Undisturbed (s : Selector) (own others schedule : List RegistryCall) : Prop where
  replies : (s.serveAll schedule).1.filter (·.1.id ∉ others.map (·.id)) = (s.serveAll own).1
  find? : ∀ id ∉ others.map (·.id), (s.serveAll schedule).2.find? id = (s.serveAll own).2.find? id
  all : (s.serveAll schedule).2.all.filter (·.id ∉ others.map (·.id)) =
    (s.serveAll own).2.all.filter (·.id ∉ others.map (·.id))

theorem undisturbed_of_interleaving (s : Selector) {own others schedule : List RegistryCall}
    (h : Interleaving own others schedule) (hapart : ∀ a ∈ own, ∀ b ∈ others, a.id ≠ b.id) :
    Undisturbed s own others schedule := by
  let p (id : String) : Bool := id ∉ others.map (·.id)
  have hown : ∀ a ∈ own, p a.id = true := by
    intro a ha
    refine decide_eq_true fun hmem => ?_
    obtain ⟨b, hb, hab⟩ := List.mem_map.1 hmem
    exact hapart a ha b hb hab.symm
  have hothers : ∀ b ∈ others, p b.id = false := fun b hb =>
    decide_eq_false fun hno => hno (List.mem_map_of_mem hb)
  -- Seen from the ids that the others leave alone, the schedule is the client's own calls.
  have hwhole := serveAll_restrict p s schedule
  have halone := serveAll_restrict p s own
  rw [h.filter_eq hown hothers] at hwhole
  have hreplied : ∀ c ∈ (s.serveAll own).1, p c.1.id = true := fun c hc =>
    hown c.1 (by rw [← calls_serveAll s own]; exact List.mem_map_of_mem hc)
  rw [List.filter_eq_self.2 hown, hwhole, List.filter_eq_self.2 hreplied, Prod.mk.injEq] at halone
  obtain ⟨hreplies, hended⟩ := halone
  have hregistry : (s.serveAll schedule).2.registry.restrict p =
      (s.serveAll own).2.registry.restrict p :=
    congrArg Selector.registry hended
  refine ⟨hreplies, ?_, congrArg Roster.toList hregistry⟩
  intro id hid
  have hfind := congrArg (·.find? id) hregistry
  have hp : p id = true := decide_eq_true hid
  simp only [Roster.find?_restrict, hp, if_true] at hfind
  exact hfind

/-- Two clients that use different ids do not notice each other, whatever the order in which their
calls take effect, and every such order leaves the same instances under the same ids. -/
theorem interleaving_undisturbed (s : Selector) {one other schedule : List RegistryCall}
    (h : Interleaving one other schedule) (hapart : ∀ a ∈ one, ∀ b ∈ other, a.id ≠ b.id) :
    Undisturbed s one other schedule ∧ Undisturbed s other one schedule ∧
      ∀ schedule', Interleaving one other schedule' → ∀ id,
        (s.serveAll schedule').2.find? id = (s.serveAll schedule).2.find? id := by
  have hapart' : ∀ b ∈ other, ∀ a ∈ one, b.id ≠ a.id := fun b hb a ha => (hapart a ha b hb).symm
  have hone {schedule : List RegistryCall} (h : Interleaving one other schedule) :=
    undisturbed_of_interleaving s h hapart
  have hother {schedule : List RegistryCall} (h : Interleaving one other schedule) :=
    undisturbed_of_interleaving s h.symm hapart'
  refine ⟨hone h, hother h, ?_⟩
  intro schedule' h' id
  by_cases hid : id ∈ other.map (·.id)
  · have hno : id ∉ one.map (·.id) := by
      intro hmem
      obtain ⟨b, hb, hbid⟩ := List.mem_map.1 hid
      obtain ⟨a, ha, haid⟩ := List.mem_map.1 hmem
      exact hapart a ha b hb (haid.trans hbid.symm)
    rw [(hother h').find? id hno, (hother h).find? id hno]
  · rw [(hone h').find? id hid, (hone h).find? id hid]

/-- While one client takes the first entry away and comes in behind the other one's addition, the
other one renews the entry that moves up. -/
theorem interleaving_undisturbed_while_positions_shift :
    let plane (id scheme : String) : Instance := .located id ⟨scheme, none, ['d', 'p'], none, none⟩
    let s := withInstances .first [plane "x" "http", plane "y" "http"]
    let one : List RegistryCall := [.add (plane "a" "http"), .remove "x", .find "a"]
    let other : List RegistryCall :=
      [.add (plane "b" "http"), .add (plane "y" "embedded"), .remove "z"]
    let schedule : List RegistryCall := [.add (plane "b" "http"), .add (plane "a" "http"),
      .remove "x", .add (plane "y" "embedded"), .find "a", .remove "z"]
    Interleaving one other schedule ∧ (∀ a ∈ one, ∀ b ∈ other, a.id ≠ b.id) ∧
      (s.serveAll schedule).2.all = [plane "y" "embedded", plane "b" "http", plane "a" "http"] ∧
      Undisturbed s one other schedule ∧ Undisturbed s other one schedule := by
  intro plane s one other schedule
  have h : Interleaving one other schedule := .right (.left (.left (.right (.left (.right .nil)))))
  have hapart : ∀ a ∈ one, ∀ b ∈ other, a.id ≠ b.id := by
    simp [one, other, plane, RegistryCall.id, Instance.located]
  obtain ⟨hone, hother, _⟩ := interleaving_undisturbed s h hapart
  exact ⟨h, hapart, rfl, hone, hother⟩

end Selector

end FlowBroker
