import FlowBroker.Proofs.RegistryHistory
import Mathlib.Data.Int.CardIntervalMod
import Mathlib.Data.List.Nodup

namespace FlowBroker.Selector

/-- A selection that succeeded. -/
structure Turn where
  source : String
  destination : String
  candidates : List Instance
  picked : Instance

def turn? (s : Selector) : Operation → Option Turn
  | .add _ | .remove _ => none
  | .select source destination =>
      (s.select source destination).1.toOption.map fun i =>
        ⟨source, destination, s.capable source destination, i⟩

def turns (s : Selector) : List Operation → List Turn
  | [] => []
  | op :: ops => (s.turn? op).toList ++ (s.apply op).turns ops

def timesPicked (window : List Turn) (i : Instance) : Nat := window.countP (·.picked = i)

section

variable {s : Selector} {cursor : UInt64} {t : Turn} {op : Operation}

theorem turns_snoc (s : Selector) (ops : List Operation) (op : Operation) :
    s.turns (ops ++ [op]) = s.turns ops ++ ((s.run ops).turn? op).toList := by
  induction ops generalizing s with
  | nil => simp [turns, run]
  | cons first ops ih =>
      have hrun : s.run (first :: ops) = (s.apply first).run ops := rfl
      rw [List.cons_append, turns, ih, turns, List.append_assoc, hrun]

theorem strategy_of_no_turn (h : s.turn? op = none) : (s.apply op).strategy = s.strategy := by
  cases op with
  | add _ | remove _ => rfl
  | select source destination =>
      rcases s.select_cases source destination with ⟨_, hs⟩ | ⟨i, _, _, hs⟩
      · rw [apply, hs]
      · simp [turn?, hs, Except.toOption] at h

theorem strategy_of_turn (h : s.turn? op = some t) :
    (s.apply op).strategy = s.strategy.advance ∧ t.candidates.Nodup ∧
      t.candidates[s.strategy.index t.candidates.length]? = some t.picked := by
  cases op with
  | add _ | remove _ => cases h
  | select source destination =>
      rcases s.select_cases source destination with ⟨_, hs⟩ | ⟨i, _, hindex, hs⟩
      · simp [turn?, hs, Except.toOption] at h
      · have hall : s.all.Nodup := List.Nodup.of_map _ s.registry.distinct
        simp only [turn?, hs, Except.toOption, Option.map_some, Option.some.injEq] at h
        subst h
        exact ⟨by rw [apply, hs], hall.filter _, hindex⟩

theorem toNat_cursor (cursor : UInt64) (k : Nat) :
    (cursor + UInt64.ofNat k).toNat = (cursor.toNat + k) % 2 ^ 64 := by
  rw [UInt64.toNat_add, UInt64.toNat_ofNat', Nat.add_mod_mod]

theorem cursor_run (h : s.strategy = .roundRobin cursor) (ops : List Operation) :
    (s.run ops).strategy = .roundRobin (cursor + UInt64.ofNat (s.turns ops).length) := by
  induction ops using List.reverseRecOn with
  | nil => simpa [run, turns] using h
  | append_singleton ops op ih =>
      rw [run_snoc, turns_snoc]
      cases hturn : (s.run ops).turn? op with
      | none =>
          rw [strategy_of_no_turn hturn, ih]
          simp
      | some t =>
          have hnext := (strategy_of_turn hturn).1
          rw [hnext, ih, Strategy.advance, Option.toList_some, List.length_append,
            List.length_singleton, UInt64.ofNat_add, UInt64.add_assoc]
          rfl

theorem turns_getElem? (h : s.strategy = .roundRobin cursor) {ops : List Operation} {k : Nat}
    (ht : (s.turns ops)[k]? = some t) :
    t.candidates.Nodup ∧
      t.candidates[(cursor.toNat + k) % 2 ^ 64 % t.candidates.length]? = some t.picked := by
  induction ops using List.reverseRecOn with
  | nil => simp [turns] at ht
  | append_singleton ops op ih =>
      rw [turns_snoc] at ht
      cases hturn : (s.run ops).turn? op with
      | none =>
          rw [hturn, Option.toList_none, List.append_nil] at ht
          exact ih ht
      | some u =>
          rw [hturn, Option.toList_some, List.getElem?_append] at ht
          split at ht
          · exact ih ht
          · next hk =>
            obtain ⟨hlt, rfl⟩ := List.getElem?_eq_some_iff.1 ht
            have hlast : k = (s.turns ops).length := by
              rw [List.length_singleton] at hlt
              omega
            obtain ⟨_, hnodup, hpicked⟩ := strategy_of_turn hturn
            rw [cursor_run h ops] at hpicked
            simp only [Strategy.index, toNat_cursor, ← hlast] at hpicked
            simpa using ⟨hnodup, hpicked⟩

end

section

variable {d m n r r' : Nat}

theorem count_residue (hr : r < n) :
    m.count (fun k => (d + k) % n = r) = m / n ∨
      m.count (fun k => (d + k) % n = r) = m / n + 1 := by
  have hn : 0 < n := Nat.zero_lt_of_lt hr
  have hd : d + (r + (n - d % n)) = r + n * (d / n + 1) := by
    have hlt := Nat.mod_lt d hn
    have hdiv := Nat.div_add_mod d n
    rw [Nat.mul_add]
    omega
  have hshift (k : Nat) : (d + k) % n = r ↔ k ≡ r + (n - d % n) [MOD n] := by
    have hmod : d + (r + (n - d % n)) ≡ r [MOD n] := by
      rw [hd, Nat.ModEq, Nat.add_mul_mod_self_left]
    have hresidue : (d + k) % n = r ↔ d + k ≡ r [MOD n] := by
      rw [Nat.ModEq, Nat.mod_eq_of_lt hr]
    rw [hresidue]
    exact ⟨fun h => Nat.ModEq.add_left_cancel' d (h.trans hmod.symm),
      fun h => (h.add_left d).trans hmod⟩
  simp only [hshift, Nat.count_modEq_card _ hn]
  split <;> simp

theorem count_residue_le (hr : r < n) (hr' : r' < n) :
    m.count (fun k => (d + k) % n = r) ≤ m.count (fun k => (d + k) % n = r') + 1 := by
  have h := @count_residue d m n r hr
  have h' := @count_residue d m n r' hr'
  omega

theorem count_congr {p q : Nat → Prop} [DecidablePred p] [DecidablePred q]
    (h : ∀ k < m, p k ↔ q k) : m.count p = m.count q :=
  Nat.le_antisymm (Nat.count_mono_left fun k hk => (h k hk).1)
    (Nat.count_mono_left fun k hk => (h k hk).2)

/-- As long as a cursor does not wrap, the residues that it leaves are in balance. -/
theorem count_cursor_le {N : Nat} (hwrap : d + m ≤ N) (hr : r < n) (hr' : r' < n) :
    m.count (fun k => (d + k) % N % n = r) ≤ m.count (fun k => (d + k) % N % n = r') + 1 := by
  have hsame (x : Nat) :
      m.count (fun k => (d + k) % N % n = x) = m.count (fun k => (d + k) % n = x) := by
    apply count_congr
    intro k hk
    rw [Nat.mod_eq_of_lt (by omega : d + k < N)]
  rw [hsame, hsame]
  exact count_residue_le hr hr'

theorem count_wrapped_cursor_le {N : Nat} (hd : d < N) (hm : m ≤ N) (hr : r < n) (hr' : r' < n) :
    m.count (fun k => (d + k) % N % n = r) ≤ m.count (fun k => (d + k) % N % n = r') + 2 := by
  by_cases hwrap : d + m ≤ N
  · exact (count_cursor_le hwrap hr hr').trans (Nat.le_succ _)
  · obtain ⟨rest, hrest⟩ : ∃ rest, m = (N - d) + rest := ⟨m - (N - d), by omega⟩
    have hsplit (x : Nat) : m.count (fun k => (d + k) % N % n = x) =
        (N - d).count (fun k => (d + k) % N % n = x) +
          rest.count (fun k => (0 + k) % N % n = x) := by
      rw [hrest, Nat.count_add]
      congr 1
      apply count_congr
      intro k hk
      rw [show d + (N - d + k) = k + N by omega, Nat.add_mod_right, Nat.zero_add]
    rw [hsplit, hsplit]
    have hfirst := @count_cursor_le d (N - d) n r r' N (by omega) hr hr'
    have hsecond := @count_cursor_le 0 rest n r r' N (by omega) hr hr'
    omega

end

theorem countP_eq_count {α : Type} {p : α → Bool} {q : Nat → Prop} [DecidablePred q]
    {as : List α} (h : ∀ k a, as[k]? = some a → (p a = true ↔ q k)) :
    as.countP p = as.length.count q := by
  induction as using List.reverseRecOn with
  | nil => simp
  | append_singleton as a ih =>
      have hlast : p a = true ↔ q as.length := h as.length a (by simp)
      have hinit : ∀ k b, as[k]? = some b → (p b = true ↔ q k) := by
        intro k b hb
        have hk := (List.getElem?_eq_some_iff.1 hb).1
        exact h k b (by rw [List.getElem?_append_left hk, hb])
      rw [List.countP_append, ih hinit, List.length_append, List.length_singleton, Nat.count_succ,
        List.countP_singleton]
      simp only [hlast]

theorem timesPicked_eq_count {s : Selector} {cursor : UInt64} (h : s.strategy = .roundRobin cursor)
    {ops : List Operation} {before window after : List Turn} {candidates : List Instance}
    (hturns : s.turns ops = before ++ window ++ after)
    (hsame : ∀ t ∈ window, t.candidates = candidates) {i : Instance} (hi : i ∈ candidates) :
    ∃ r < candidates.length, timesPicked window i = window.length.count fun k =>
      ((cursor.toNat + before.length) % 2 ^ 64 + k) % 2 ^ 64 % candidates.length = r := by
  obtain ⟨r, hr, hri⟩ := List.getElem_of_mem hi
  refine ⟨r, hr, countP_eq_count ?_⟩
  intro k t ht
  have hk := (List.getElem?_eq_some_iff.1 ht).1
  have hplace : (s.turns ops)[before.length + k]? = some t := by
    rw [hturns, List.append_assoc, List.getElem?_append_right (Nat.le_add_right _ _),
      Nat.add_sub_cancel_left, List.getElem?_append_left hk, ht]
  obtain ⟨hnodup, hpicked⟩ := turns_getElem? h hplace
  rw [hsame t (List.mem_of_getElem? ht), ← Nat.add_assoc, ← Nat.mod_add_mod] at hpicked
  rw [hsame t (List.mem_of_getElem? ht)] at hnodup
  obtain ⟨hlt, hentry⟩ := List.getElem?_eq_some_iff.1 hpicked
  rw [decide_eq_true_iff, ← hentry, ← hri, hnodup.getElem_inj_iff]

/-- From every cursor and along every run the `k`-th turn goes to the candidate at the index
`cursor + k`, taken modulo `2 ^ 64` and then modulo the number of candidates. So what comes between
two turns is of no matter. In a window of turns among the same candidates, two of them are picked
equally often up to one, or up to two if the cursor wraps in between. -/
theorem turns_rotate (registry : Registry) (cursor : UInt64) (ops : List Operation) :
    let s : Selector := ⟨registry, .roundRobin cursor⟩
    (∀ k t, (s.turns ops)[k]? = some t →
      t.candidates[(cursor.toNat + k) % 2 ^ 64 % t.candidates.length]? = some t.picked) ∧
    (∀ (registry' : Registry) (ops' : List Operation) (k : Nat) (t t' : Turn),
      (s.turns ops)[k]? = some t →
      (Selector.turns ⟨registry', .roundRobin cursor⟩ ops')[k]? = some t' →
      t.candidates = t'.candidates → t.picked = t'.picked) ∧
    ∀ before window after candidates, s.turns ops = before ++ window ++ after →
      window.length ≤ 2 ^ 64 → (∀ t ∈ window, t.candidates = candidates) →
      ∀ i ∈ candidates, ∀ j ∈ candidates,
        ((cursor.toNat + before.length) % 2 ^ 64 + window.length ≤ 2 ^ 64 →
          timesPicked window i ≤ timesPicked window j + 1) ∧
        timesPicked window i ≤ timesPicked window j + 2 := by
  intro s
  have hs : s.strategy = .roundRobin cursor := rfl
  refine ⟨fun k t ht => (turns_getElem? hs ht).2, ?_, ?_⟩
  · intro registry' ops' k t t' ht ht' hsame
    have hpicked := (turns_getElem? hs ht).2
    have hpicked' := (turns_getElem? rfl ht').2
    rw [hsame, hpicked'] at hpicked
    exact (Option.some.inj hpicked).symm
  · intro before window after candidates hturns hlength hsame i hi j hj
    obtain ⟨r, hr, hcount⟩ := timesPicked_eq_count hs hturns hsame hi
    obtain ⟨r', hr', hcount'⟩ := timesPicked_eq_count hs hturns hsame hj
    rw [hcount, hcount']
    exact ⟨fun hwrap => count_cursor_le hwrap hr hr',
      count_wrapped_cursor_le (Nat.mod_lt _ (Nat.two_pow_pos 64)) hlength hr hr'⟩

/-- Three candidates do not divide `2 ^ 64`, so the one that has the last turn before the cursor
wraps has the first one behind it as well. -/
theorem turns_rotate_over_wrap :
    let plane (id : String) : Instance :=
      ((Instance.located id ⟨"embedded", none, ['d', 'p'], none, none⟩).allowSource
        "HttpData").allowDestination "S3"
    let candidates := [plane "a", plane "b", plane "c"]
    let registry : Registry := .ofList candidates
    let window := Selector.turns ⟨registry, .roundRobin 18446744073709551615⟩
      [.select "HttpData" "S3", .select "S3" "S3", .select "HttpData" "S3"]
    (∀ t ∈ window, t.candidates = candidates) ∧ window.length = 2 ∧
      timesPicked window (plane "a") = 2 ∧ timesPicked window (plane "b") = 0 ∧
      timesPicked window (plane "a") ≤ timesPicked window (plane "b") + 2 := by
  intro plane candidates registry window
  have hwindow : window = [⟨"HttpData", "S3", candidates, plane "a"⟩,
      ⟨"HttpData", "S3", candidates, plane "a"⟩] := by
    dsimp only [window, registry, candidates, plane]
    rfl
  have hsame : ∀ t ∈ window, t.candidates = candidates := by
    intro t ht
    rw [hwindow] at ht
    simp only [List.mem_cons, List.not_mem_nil, or_false, or_self] at ht
    rw [ht]
  obtain ⟨_, _, hbalance⟩ := turns_rotate registry 18446744073709551615
    [.select "HttpData" "S3", .select "S3" "S3", .select "HttpData" "S3"]
  have hlength : window.length = 2 := congrArg List.length hwindow
  refine ⟨hsame, hlength, by rw [hwindow]; decide, by rw [hwindow]; decide, ?_⟩
  exact (hbalance [] window [] candidates (List.append_nil window).symm (by omega) hsame
    (plane "a") (by simp [candidates]) (plane "b") (by simp [candidates])).2

end FlowBroker.Selector
