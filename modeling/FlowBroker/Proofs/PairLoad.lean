import FlowBroker.Proofs.TurnTaking
import Mathlib.Data.List.SplitBy

namespace FlowBroker.Selector

def Turn.isFor (source destination : String) (t : Turn) : Bool :=
  t.source = source && t.destination = destination

def share (source destination : String) (turns : List Turn) : List Turn :=
  turns.filter (·.isFor source destination)

def places (source destination : String) (turns : List Turn) : List Nat :=
  (turns.zipIdx.filter (·.1.isFor source destination)).map Prod.snd

/-- Places among `n` candidates, cut where the next one does not fall to the next candidate: where
the turns of other pairs in between are no multiple of `n`. -/
def stretches (n : Nat) (places : List Nat) : List (List Nat) :=
  places.splitBy fun k k' => (k + 1) % n == k' % n

def selects (pairs : List (String × String)) : List Operation :=
  pairs.map fun pair => .select pair.1 pair.2

section

variable {n r r' : Nat}

theorem mod_of_chain {k : Nat} {ks : List Nat}
    (h : (k :: ks).IsChain fun k k' => (k + 1) % n = k' % n) {j x : Nat}
    (hx : (k :: ks)[j]? = some x) : (k + j) % n = x % n := by
  induction ks generalizing k j with
  | nil =>
      cases j with
      | zero => simp_all
      | succ j => simp at hx
  | cons k' ks ih =>
      rw [List.isChain_cons_cons] at h
      cases j with
      | zero => simp_all
      | succ j =>
          rw [List.getElem?_cons_succ] at hx
          rw [← ih h.2 hx, Nat.add_comm j 1, ← Nat.add_assoc, ← Nat.mod_add_mod, h.1,
            Nat.mod_add_mod]

theorem countP_chain_le {ks : List Nat} (h : ks.IsChain fun k k' => (k + 1) % n = k' % n)
    (hr : r < n) (hr' : r' < n) : ks.countP (· % n = r) ≤ ks.countP (· % n = r') + 1 := by
  cases ks with
  | nil => simp
  | cons k ks =>
      -- A chain leaves the residues of a run of as many numbers, whatever its own are.
      have hcount (x : Nat) : (k :: ks).countP (· % n = x) =
          (k :: ks).length.count fun j => (k + j) % n = x := by
        refine countP_eq_count fun j y hy => ?_
        rw [mod_of_chain h hy, decide_eq_true_iff]
      rw [hcount, hcount]
      exact count_residue_le hr hr'

theorem countP_flatten_le {α : Type} {p q : α → Bool} {groups : List (List α)}
    (h : ∀ g ∈ groups, g.countP p ≤ g.countP q + 1) :
    groups.flatten.countP p ≤ groups.flatten.countP q + groups.length := by
  induction groups with
  | nil => simp
  | cons g gs ih =>
      have hg := h g List.mem_cons_self
      have hgs := ih fun g hg => h g (List.mem_cons_of_mem _ hg)
      rw [List.flatten_cons, List.countP_append, List.countP_append, List.length_cons]
      omega

theorem countP_places_le (ks : List Nat) (hr : r < n) (hr' : r' < n) :
    ks.countP (· % n = r) ≤ ks.countP (· % n = r') + (stretches n ks).length := by
  have hflat : (stretches n ks).flatten = ks := List.flatten_splitBy _ ks
  rw [← hflat]
  refine (countP_flatten_le fun g hg => ?_).trans_eq (by rw [hflat])
  have hchain := List.isChain_of_mem_splitBy hg
  simp only [beq_iff_eq] at hchain
  exact countP_chain_le hchain hr hr'

end

section

variable (s : Selector) (pairs : List (String × String))

theorem length_turns_selects_le : (s.turns (selects pairs)).length ≤ pairs.length := by
  induction pairs generalizing s with
  | nil => exact Nat.le_refl 0
  | cons pair pairs ih =>
      have hrest := ih (s.apply (.select pair.1 pair.2))
      have hone : (s.turn? (.select pair.1 pair.2)).toList.length ≤ 1 := by
        cases s.turn? (.select pair.1 pair.2) <;> simp
      rw [selects, List.map_cons, turns, List.length_append, List.length_cons]
      exact (Nat.add_le_add hone hrest).trans_eq (Nat.add_comm _ _)

/-- Selections leave those that are capable as they are. -/
theorem candidates_of_mem_turns {t : Turn} (ht : t ∈ s.turns (selects pairs)) :
    t.candidates = s.capable t.source t.destination := by
  induction pairs generalizing s with
  | nil => cases ht
  | cons pair pairs ih =>
      rw [selects, List.map_cons, turns, List.mem_append] at ht
      rcases ht with hnow | hlater
      · cases hselect : (s.select pair.1 pair.2).1 with
        | error e => simp [turn?, hselect, Except.toOption] at hnow
        | ok i =>
            simp only [turn?, hselect, Except.toOption, Option.map_some, Option.toList_some,
              List.mem_singleton] at hnow
            rw [hnow]
      · rw [ih _ hlater, capable, capable, all, all, apply, select_registry]

end

section

variable {s : Selector} {pairs : List (String × String)} {source destination : String}

/-- A turn goes to the candidate at its place, from the start of the cursor on. -/
theorem picked_iff (h : s.strategy = .roundRobin 0) (hlength : pairs.length < 2 ^ 64) {t : Turn}
    {k : Nat} (ht : (s.turns (selects pairs))[k]? = some t) {r : Nat} {i : Instance}
    (hi : (s.capable t.source t.destination)[r]? = some i) :
    t.picked = i ↔ k % (s.capable t.source t.destination).length = r := by
  obtain ⟨hnodup, hpicked⟩ := turns_getElem? h ht
  have hk := (List.getElem?_eq_some_iff.1 ht).1
  have hbound := length_turns_selects_le s pairs
  have hzero : ((0 : UInt64).toNat + k) % 2 ^ 64 = k := by
    rw [UInt64.toNat_zero, Nat.zero_add, Nat.mod_eq_of_lt (by omega)]
  rw [candidates_of_mem_turns _ _ (List.mem_of_getElem? ht)] at hnodup hpicked
  rw [hzero] at hpicked
  constructor
  · intro hsame
    have hlt := (List.getElem?_eq_some_iff.1 hi).1
    rw [hsame, ← hi] at hpicked
    exact ((List.getElem?_inj hlt hnodup).1 hpicked.symm).symm
  · rintro rfl
    rw [hi] at hpicked
    exact (Option.some.inj hpicked).symm

theorem timesPicked_share (h : s.strategy = .roundRobin 0) (hlength : pairs.length < 2 ^ 64)
    {r : Nat} {i : Instance} (hi : (s.capable source destination)[r]? = some i) :
    timesPicked (share source destination (s.turns (selects pairs))) i =
      (places source destination (s.turns (selects pairs))).countP
        (· % (s.capable source destination).length = r) := by
  have hshare : share source destination (s.turns (selects pairs)) =
      ((s.turns (selects pairs)).zipIdx.filter (·.1.isFor source destination)).map Prod.fst := by
    conv_lhs => rw [share, ← List.zipIdx_map_fst 0 (s.turns (selects pairs))]
    exact List.filter_map
  rw [timesPicked, places, hshare, List.countP_map, List.countP_map]
  refine List.countP_congr ?_
  rintro ⟨t, k⟩ hmem
  obtain ⟨hturn, hfor⟩ := List.mem_filter.1 hmem
  obtain ⟨hsource, hdestination⟩ := Bool.and_eq_true_iff.1 hfor
  obtain rfl := of_decide_eq_true hsource
  obtain rfl := of_decide_eq_true hdestination
  simpa using picked_iff h hlength (List.mem_zipIdx_iff_getElem?.1 hturn) hi

end

/-- With the cursor at its start and the registry as it is, a pair picks the `r`-th of its `n`
capable instances once for each of its turns whose number among the turns of all pairs leaves the
residue `r`. So two of them are picked equally often up to one for each stretch of its turns, and
up to one in all if other pairs never shift them. -/
theorem pair_balanced_by_stretches (registry : Registry) (pairs : List (String × String))
    (hlength : pairs.length < 2 ^ 64) (source destination : String) :
    let s : Selector := ⟨registry, .roundRobin 0⟩
    let capable := s.capable source destination
    let turns := s.turns (selects pairs)
    let own := share source destination turns
    let numbers := places source destination turns
    (∀ (r : Nat) i, capable[r]? = some i →
        timesPicked own i = numbers.countP (· % capable.length = r)) ∧
      (∀ i ∈ capable, ∀ j ∈ capable,
        timesPicked own i ≤ timesPicked own j + (stretches capable.length numbers).length) ∧
      (numbers.IsChain (fun k k' => (k + 1) % capable.length = k' % capable.length) →
        ∀ i ∈ capable, ∀ j ∈ capable, timesPicked own i ≤ timesPicked own j + 1) := by
  intro s capable turns own numbers
  have hcount (r : Nat) (i : Instance) (hi : capable[r]? = some i) :
      timesPicked own i = numbers.countP (· % capable.length = r) :=
    timesPicked_share rfl hlength hi
  have hle {b : Nat} (h : ∀ r < capable.length, ∀ r' < capable.length,
      numbers.countP (· % capable.length = r) ≤ numbers.countP (· % capable.length = r') + b) :
      ∀ i ∈ capable, ∀ j ∈ capable, timesPicked own i ≤ timesPicked own j + b := by
    intro i hi j hj
    obtain ⟨r, hr, hri⟩ := List.getElem_of_mem hi
    obtain ⟨r', hr', hrj⟩ := List.getElem_of_mem hj
    rw [hcount r i (List.getElem?_eq_some_iff.2 ⟨hr, hri⟩),
      hcount r' j (List.getElem?_eq_some_iff.2 ⟨hr', hrj⟩)]
    exact h r hr r' hr'
  exact ⟨hcount, hle fun _ hr _ hr' => countP_places_le numbers hr hr',
    fun hchain => hle fun _ hr _ hr' => countP_chain_le hchain hr hr'⟩

theorem pair_balanced_beside_narrower_pair :
    let plane (id : String) : Instance :=
      ((Instance.located id ⟨"embedded", none, ['d', 'p'], none, none⟩).allowSource
        "HttpData").allowDestination "S3"
    let a := (plane "a").allowDestination "Kafka"
    let b := plane "b"
    let s : Selector := ⟨.ofList [a, b], .roundRobin 0⟩
    let wide : String × String := ("HttpData", "S3")
    let narrow : String × String := ("HttpData", "Kafka")
    let pairs := [wide, wide, narrow, wide, wide, narrow, narrow, wide]
    let turns := s.turns (selects pairs)
    pairs.length < 2 ^ 64 ∧ s.capable "HttpData" "S3" = [a, b] ∧
      stretches 2 (places "HttpData" "S3" turns) = [[0, 1], [3, 4, 7]] ∧
      timesPicked (share "HttpData" "S3" turns) b ≤
        timesPicked (share "HttpData" "S3" turns) a + 2 := by
  intro plane a b s wide narrow pairs turns
  have hlength : pairs.length < 2 ^ 64 := by decide
  have hcapable : s.capable "HttpData" "S3" = [a, b] := by decide
  have hstretches : stretches 2 (places "HttpData" "S3" turns) = [[0, 1], [3, 4, 7]] := by
    decide +kernel
  obtain ⟨_, hbalanced, _⟩ :=
    pair_balanced_by_stretches (.ofList [a, b]) pairs hlength "HttpData" "S3"
  have ha : a ∈ s.capable "HttpData" "S3" := by rw [hcapable]; exact List.mem_cons_self
  have hb : b ∈ s.capable "HttpData" "S3" := by
    rw [hcapable]
    exact List.mem_cons_of_mem a List.mem_cons_self
  have hle := hbalanced b hb a ha
  have htwo : (stretches (s.capable "HttpData" "S3").length
      (places "HttpData" "S3" turns)).length = 2 := by
    rw [hcapable]
    exact congrArg List.length hstretches
  exact ⟨hlength, hcapable, hstretches, htwo ▸ hle⟩

/-- Two pairs that take turns, with the same two capable instances: each pair has all of its turns
with one of the two, and the other one starves. -/
theorem pair_starves_beside_another :
    let plane (id : String) : Instance :=
      (((Instance.located id ⟨"embedded", none, ['d', 'p'], none, none⟩).allowSource
        "HttpData").allowDestination "S3").allowDestination "Kafka"
    let s : Selector := ⟨.ofList [plane "a", plane "b"], .roundRobin 0⟩
    let pairs := [("HttpData", "S3"), ("HttpData", "Kafka"), ("HttpData", "S3"),
      ("HttpData", "Kafka")]
    let share := share "HttpData" "S3" (s.turns (selects pairs))
    pairs.length < 2 ^ 64 ∧ s.capable "HttpData" "S3" = [plane "a", plane "b"] ∧
      timesPicked share (plane "a") = 2 ∧ timesPicked share (plane "b") = 0 ∧
      ¬timesPicked share (plane "a") ≤ timesPicked share (plane "b") + 1 := by
  decide

end FlowBroker.Selector
