import FlowBroker.Plane.Selector
import Mathlib.Data.Finset.Card
import Mathlib.Data.List.Nodup

namespace FlowBroker.Selector

inductive Operation where
  | add (i : Instance)
  | remove (id : String)
  | select (source destination : String)
  deriving DecidableEq

namespace Operation

def subject? : Operation → Option String
  | add i => some i.id
  | remove id => some id
  | select _ _ => none

def entry? : Operation → Option Instance
  | add i => some i
  | _ => none

end Operation

def apply (s : Selector) : Operation → Selector
  | .add i => s.add i
  | .remove id => (s.remove id).2
  | .select source destination => (s.select source destination).2

def run (s : Selector) (ops : List Operation) : Selector := ops.foldl apply s

def last? (history : List Operation) (id : String) : Option Operation :=
  history.reverse.find? (·.subject? = some id)

def stored? (history : List Operation) (id : String) : Option Instance :=
  (last? history id).bind Operation.entry?

def present (history : List Operation) : Finset String :=
  (history.filterMap (·.subject?)).toFinset.filter fun id => (stored? history id).isSome

/-- The `n`-th operation adds the id, which is absent until then and not removed afterwards. -/
def Arrived (history : List Operation) (id : String) (n : Nat) : Prop :=
  (∃ i : Instance, i.id = id ∧ history[n]? = some (.add i)) ∧
    stored? (history.take n) id = none ∧ .remove id ∉ history.drop n

def Before (history : List Operation) (id id' : String) : Prop :=
  ∃ m n, m < n ∧ Arrived history id m ∧ Arrived history id' n

theorem run_append (s : Selector) (ops ops' : List Operation) :
    s.run (ops ++ ops') = (s.run ops).run ops' :=
  List.foldl_append

theorem run_snoc (s : Selector) (ops : List Operation) (op : Operation) :
    s.run (ops ++ [op]) = (s.run ops).apply op :=
  run_append s ops [op]

theorem withInstances_eq_run (strategy : Strategy) (instances : List Instance) :
    withInstances strategy instances = (new strategy).run (instances.map .add) := by
  rw [run, List.foldl_map]
  rfl

theorem last?_snoc (history : List Operation) (op : Operation) (id : String) :
    last? (history ++ [op]) id = if op.subject? = some id then some op else last? history id := by
  simp only [last?, List.reverse_append, List.reverse_singleton, List.singleton_append,
    List.find?_cons]
  split <;> simp_all

theorem stored?_snoc (history : List Operation) (op : Operation) (id : String) :
    stored? (history ++ [op]) id =
      if op.subject? = some id then op.entry? else stored? history id := by
  rw [stored?, last?_snoc]
  split <;> rfl

theorem subject?_of_stored? {history : List Operation} {id : String} {i : Instance}
    (h : stored? history id = some i) : i.id = id ∧ .add i ∈ history := by
  obtain ⟨op, hlast, hentry⟩ := Option.bind_eq_some_iff.1 h
  have hmem := List.mem_of_find?_eq_some hlast
  have hsubject := List.find?_some hlast
  cases op with
  | add j =>
      cases hentry
      simp only [Operation.subject?, Option.some.injEq, decide_eq_true_eq] at hsubject
      exact ⟨hsubject, List.mem_reverse.1 hmem⟩
  | remove _ | select _ _ => cases hentry

theorem mem_present {history : List Operation} {id : String} :
    id ∈ present history ↔ (stored? history id).isSome := by
  rw [present, Finset.mem_filter, List.mem_toFinset, List.mem_filterMap]
  refine ⟨fun h => h.2, fun h => ⟨?_, h⟩⟩
  obtain ⟨i, hi⟩ := Option.isSome_iff_exists.1 h
  obtain ⟨hid, hmem⟩ := subject?_of_stored? hi
  exact ⟨.add i, hmem, congrArg some hid⟩

theorem Arrived.lt_length {history : List Operation} {id : String} {n : Nat}
    (h : Arrived history id n) : n < history.length := by
  obtain ⟨⟨i, _, hi⟩, _⟩ := h
  exact (List.getElem?_eq_some_iff.1 hi).1

theorem arrived_snoc {history : List Operation} {op : Operation} {id : String} {n : Nat} :
    Arrived (history ++ [op]) id n ↔
      (Arrived history id n ∧ op ≠ .remove id) ∨
        (n = history.length ∧ stored? history id = none ∧
          ∃ i : Instance, i.id = id ∧ op = .add i) := by
  rcases Nat.lt_trichotomy n history.length with hn | rfl | hn
  · have hne : n ≠ history.length := Nat.ne_of_lt hn
    rw [Arrived, List.getElem?_append_left hn, List.take_append_of_le_length hn.le,
      List.drop_append_of_le_length hn.le, List.mem_append, List.mem_singleton, not_or]
    simp only [hne, false_and, or_false, Arrived, and_assoc, ne_comm (a := op), ne_eq]
  · have hold : ¬ Arrived history id history.length := fun h => Nat.lt_irrefl _ h.lt_length
    rw [Arrived, List.getElem?_concat_length, List.take_left, List.drop_left]
    simp only [hold, false_and, false_or, true_and, Option.some.injEq, List.mem_singleton]
    constructor
    · rintro ⟨hadd, habsent, _⟩
      exact ⟨habsent, hadd⟩
    · rintro ⟨habsent, i, hid, rfl⟩
      exact ⟨⟨i, hid, rfl⟩, habsent, by simp⟩
  · have hnew : ¬ Arrived (history ++ [op]) id n := fun h => by
      have hlen := h.lt_length
      rw [List.length_append, List.length_singleton] at hlen
      omega
    have hold : ¬ Arrived history id n := fun h => Nat.lt_asymm hn h.lt_length
    simp only [hnew, hold, Nat.ne_of_gt hn, false_and, or_false]

theorem isSome_stored?_iff {history : List Operation} {id : String} :
    (stored? history id).isSome ↔ ∃ n, Arrived history id n := by
  induction history using List.reverseRecOn with
  | nil => simp [stored?, last?, Arrived]
  | append_singleton history op ih =>
      rw [stored?_snoc]
      simp only [arrived_snoc, exists_or, exists_and_right, ← ih]
      cases op with
      | add i =>
          by_cases hid : i.id = id
          · cases hs : stored? history id <;> simp [Operation.subject?, Operation.entry?, hid]
          · simp [Operation.subject?, hid]
      | remove j =>
          by_cases hid : j = id
          · simp [Operation.subject?, Operation.entry?, hid]
          · simp [Operation.subject?, hid]
      | select _ _ => simp [Operation.subject?]

theorem Arrived.unique {history : List Operation} {id : String} {m n : Nat}
    (hm : Arrived history id m) (hn : Arrived history id n) : m = n := by
  induction history using List.reverseRecOn with
  | nil => exact absurd hm.lt_length (Nat.not_lt_zero m)
  | append_singleton history op ih =>
      have hclash (k : Nat) (hk : Arrived history id k) (habsent : stored? history id = none) :
          False := by
        have hstored := isSome_stored?_iff.2 ⟨k, hk⟩
        simp [habsent] at hstored
      rcases arrived_snoc.1 hm with ⟨hm, _⟩ | ⟨rfl, hm, _⟩
      · rcases arrived_snoc.1 hn with ⟨hn, _⟩ | ⟨rfl, hn, _⟩
        · exact ih hm hn
        · exact (hclash m hm hn).elim
      · rcases arrived_snoc.1 hn with ⟨hn, _⟩ | ⟨rfl, hn, _⟩
        · exact (hclash n hn hm).elim
        · rfl

theorem Before.snoc {history : List Operation} {id id' : String} (h : Before history id id')
    {op : Operation} (hop : op ≠ .remove id) (hop' : op ≠ .remove id') :
    Before (history ++ [op]) id id' := by
  obtain ⟨m, n, hmn, hm, hn⟩ := h
  exact ⟨m, n, hmn, arrived_snoc.2 (.inl ⟨hm, hop⟩), arrived_snoc.2 (.inl ⟨hn, hop'⟩)⟩

theorem before_added {history : List Operation} {id : String} {i : Instance}
    (hid : (stored? history id).isSome) (hi : stored? history i.id = none) :
    Before (history ++ [.add i]) id i.id := by
  obtain ⟨m, hm⟩ := isSome_stored?_iff.1 hid
  exact ⟨m, history.length, hm.lt_length, arrived_snoc.2 (.inl ⟨hm, by simp⟩),
    arrived_snoc.2 (.inr ⟨rfl, hi, i, rfl, rfl⟩)⟩

theorem find?_apply (s : Selector) (op : Operation) (id : String) :
    (s.apply op).find? id = if op.subject? = some id then op.entry? else s.find? id := by
  cases op with
  | add i => simp [apply, add, find?, Operation.subject?, Operation.entry?, eq_comm]
  | remove j => simp [apply, remove, find?, Operation.subject?, Operation.entry?, eq_comm]
  | select source destination => simp [apply, find?, select_registry, Operation.subject?]

theorem mem_ids_iff {s : Selector} {id : String} :
    id ∈ s.all.map (·.id) ↔ (s.find? id).isSome := by
  rw [← Option.ne_none_iff_isSome]
  exact (not_iff_comm.1 Roster.find?_eq_none_iff.symm).symm

/-- No operation brings two ids out of the order in which they arrived. -/
theorem ordered_apply {s : Selector} {history : List Operation}
    (h : ∀ id, s.find? id = stored? history id)
    (ho : (s.all.map (·.id)).Pairwise (Before history)) (op : Operation) :
    ((s.apply op).all.map (·.id)).Pairwise (Before (history ++ [op])) := by
  cases op with
  | add i =>
      have hkept : (s.all.map (·.id)).Pairwise (Before (history ++ [.add i])) :=
        ho.imp fun hb => hb.snoc (by simp) (by simp)
      change ((Roster.place Instance.id i s.all).map Instance.id).Pairwise _
      rw [Roster.map_key_place]
      split
      · exact hkept
      · next habsent =>
        rw [mem_ids_iff, h, Bool.not_eq_true, Option.isSome_eq_false_iff, Option.isNone_iff_eq_none]
          at habsent
        refine List.pairwise_append.2 ⟨hkept, List.pairwise_singleton _ _, ?_⟩
        intro id hid _ hlast
        rw [List.mem_singleton.1 hlast]
        exact before_added (h id ▸ mem_ids_iff.1 hid) habsent
  | remove j =>
      have hids : ((s.apply (.remove j)).all.map (·.id)).Sublist (s.all.map (·.id)) :=
        List.filter_sublist.map _
      have hne : ∀ id ∈ (s.apply (.remove j)).all.map (·.id), Operation.remove j ≠ .remove id := by
        intro id hid hj
        cases hj
        rw [mem_ids_iff, find?_apply] at hid
        simp [Operation.subject?, Operation.entry?] at hid
      exact (ho.sublist hids).imp_of_mem fun ha hb hab => hab.snoc (hne _ ha) (hne _ hb)
  | select source destination =>
      have hall : (s.apply (.select source destination)).all = s.all :=
        congrArg Roster.toList (select_registry s source destination)
      rw [hall]
      exact ho.imp fun hb => hb.snoc (by simp) (by simp)

theorem find?_run (strategy : Strategy) (history : List Operation) (id : String) :
    ((new strategy).run history).find? id = stored? history id := by
  induction history using List.reverseRecOn generalizing id with
  | nil => rfl
  | append_singleton history op ih =>
      rw [run_snoc, find?_apply, ih, stored?_snoc]

theorem ordered_run (strategy : Strategy) (history : List Operation) :
    (((new strategy).run history).all.map (·.id)).Pairwise (Before history) := by
  induction history using List.reverseRecOn with
  | nil => exact List.Pairwise.nil
  | append_singleton history op ih =>
      rw [run_snoc]
      exact ordered_apply (find?_run strategy history) ih op

/-- The registry is the insertion-ordered map of a history, and its next addition or removal is one
of that map: an entry that is there already is renewed at its place, a new one comes last, and the
removal of an entry leaves all others where they are. -/
structure Mirrors (history : List Operation) (s : Selector) : Prop where
  distinct : (s.all.map (·.id)).Nodup
  listed : ∀ id, id ∈ s.all.map (·.id) ↔ ∃ i, last? history id = some (.add i)
  mem_all : ∀ i, i ∈ s.all ↔ last? history i.id = some (.add i)
  find? : ∀ id, s.find? id = stored? history id
  arrived : ∀ i ∈ s.all, ∃! n, Arrived history i.id n
  ordered : (s.all.map (·.id)).Pairwise (Before history)
  size : s.size = (present history).card
  isEmpty : s.isEmpty = true ↔ present history = ∅
  add : ∀ i, (s.add i).all =
    if stored? history i.id = none then s.all ++ [i]
    else s.all.map fun j => if j.id = i.id then i else j
  removed : ∀ id, (s.remove id).1 = stored? history id
  remaining : ∀ before i after, s.all = before ++ i :: after →
    (s.remove i.id).2.all = before ++ after
  remove_absent : ∀ id, stored? history id = none → s.remove id = (none, s)

theorem stored?_eq_some_iff {history : List Operation} {id : String} {i : Instance} :
    stored? history id = some i ↔ last? history id = some (.add i) := by
  rw [stored?, Option.bind_eq_some_iff]
  constructor
  · rintro ⟨op, hlast, hentry⟩
    cases op with
    | add j =>
        cases hentry
        exact hlast
    | remove _ | select _ _ => cases hentry
  · exact fun hlast => ⟨_, hlast, rfl⟩

theorem toFinset_ids {s : Selector} {history : List Operation}
    (h : ∀ id, s.find? id = stored? history id) :
    (s.all.map (·.id)).toFinset = present history := by
  ext id
  rw [List.mem_toFinset, mem_ids_iff, mem_present, h]

theorem size_eq_card {s : Selector} {history : List Operation}
    (h : ∀ id, s.find? id = stored? history id) : s.size = (present history).card := by
  have hd : (s.all.map (·.id)).Nodup := s.registry.distinct
  rw [← toFinset_ids h, List.toFinset_card_of_nodup hd, List.length_map]
  rfl

theorem all_remove_of_split {s : Selector} {before after : List Instance} {i : Instance}
    (h : s.all = before ++ i :: after) : (s.remove i.id).2.all = before ++ after := by
  have hd := s.registry.distinct
  change (s.all.map (·.id)).Nodup at hd
  rw [h, List.map_append, List.map_cons, List.nodup_middle, List.nodup_cons, ← List.map_append]
    at hd
  have hkept : (before ++ after).filter (fun j => j.id ≠ i.id) = before ++ after := by
    rw [List.filter_eq_self]
    intro j hj
    exact decide_eq_true fun hji => hd.1 (hji ▸ List.mem_map_of_mem hj)
  change s.all.filter (fun j => j.id ≠ i.id) = before ++ after
  rw [h, List.filter_append, List.filter_cons_of_neg (by simp), ← List.filter_append, hkept]

/-- The registry of a selector that was filled with instances and then went through any operations
is the insertion-ordered map of what was added and removed. -/
theorem run_mirrors_history (strategy : Strategy) (seeds : List Instance) (ops : List Operation) :
    Mirrors (seeds.map .add ++ ops) ((withInstances strategy seeds).run ops) := by
  rw [withInstances_eq_run, ← run_append]
  generalize seeds.map .add ++ ops = history
  have h := find?_run strategy history
  have ho := ordered_run strategy history
  generalize (new strategy).run history = s at h ho
  have hmem (i : Instance) : i ∈ s.all ↔ stored? history i.id = some i := by
    rw [← h]
    exact ⟨fun hi => Roster.find?_eq_some_iff.2 ⟨hi, rfl⟩,
      fun hi => (Roster.find?_eq_some_iff.1 hi).1⟩
  refine
    { distinct := s.registry.distinct
      listed := ?_
      mem_all := fun i => (hmem i).trans stored?_eq_some_iff
      find? := h
      arrived := ?_
      ordered := ho
      size := size_eq_card h
      isEmpty := ?_
      add := ?_
      removed := h
      remaining := fun _ _ _ => all_remove_of_split
      remove_absent := ?_ }
  · intro id
    rw [mem_ids_iff, h, Option.isSome_iff_exists]
    exact exists_congr fun i => stored?_eq_some_iff
  · intro i hi
    have hs : (stored? history i.id).isSome := by rw [(hmem i).1 hi]; rfl
    obtain ⟨n, hn⟩ := isSome_stored?_iff.1 hs
    exact ⟨n, hn, fun m hm => hm.unique hn⟩
  · rw [← Finset.card_eq_zero, ← size_eq_card h]
    exact List.isEmpty_iff_length_eq_zero
  · intro i
    split
    · next habsent => exact Roster.toList_put_of_absent ((h i.id).trans habsent)
    · next hpresent =>
      exact Roster.toList_put_of_present fun hi => hpresent ((h i.id).symm.trans hi)
  · intro id habsent
    have hf : s.registry.find? id = none := (h id).trans habsent
    rw [remove, hf, Roster.erase_of_absent hf]

end FlowBroker.Selector
