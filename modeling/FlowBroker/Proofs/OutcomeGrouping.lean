import FlowBroker.Proofs.OutcomeReduction

namespace FlowBroker

theorem Status.worse_assoc (s t u : Status) : (s.worse t).worse u = s.worse (t.worse u) := by
  cases s <;> rfl

theorem Status.eq_of_fatal_iff {s t : Status} (h : s = .fatalError ↔ t = .fatalError) : s = t := by
  cases s <;> cases t <;> simp_all

theorem Failure.combine_assoc (f g h : Failure) :
    (f.combine g).combine h = f.combine (g.combine h) := by
  simp only [combine, Status.worse_assoc, List.append_assoc]

namespace Outcome

variable {α : Type}

theorem merge_assoc (a b c : Outcome α) : (a.merge b).merge c = a.merge (b.merge c) := by
  cases a with
  | ok a => cases b <;> cases c <;> rfl
  | error f =>
      cases b with
      | ok b => cases c <;> rfl
      | error g =>
          cases c with
          | ok c => rfl
          | error h => exact congrArg Except.error (f.combine_assoc g h)

instance : Std.Associative (merge (α := α)) := ⟨merge_assoc⟩

theorem ok_merge (o : Outcome Unit) : merge (.ok ()) o = o := by
  cases o <;> rfl

theorem merge_ok (o : Outcome Unit) : o.merge (.ok ()) = o := by
  cases o <;> rfl

inductive Grouping (α : Type) where
  | alone (o : Outcome α)
  | pair (left right : Grouping α)

namespace Grouping

def outcomes : Grouping α → List (Outcome α)
  | alone o => [o]
  | pair left right => left.outcomes ++ right.outcomes

def merged : Grouping α → Outcome α
  | alone o => o
  | pair left right => left.merged.merge right.merged

theorem merged_eq_foldl (g : Grouping α) :
    ∃ o os, g.outcomes = o :: os ∧ g.merged = os.foldl merge o := by
  induction g with
  | alone o => exact ⟨o, [], rfl, rfl⟩
  | pair left right ihl ihr =>
      obtain ⟨o, os, hleft, hl⟩ := ihl
      obtain ⟨p, ps, hright, hr⟩ := ihr
      refine ⟨o, os ++ p :: ps, by rw [outcomes, hleft, hright, List.cons_append], ?_⟩
      rw [merged, hl, hr, List.foldl_append, List.foldl_cons, List.foldl_assoc]

theorem merged_eq_reduce (g : Grouping Unit) : g.merged = reduce g.outcomes := by
  obtain ⟨o, os, houtcomes, hmerged⟩ := g.merged_eq_foldl
  rw [hmerged, houtcomes, reduce, List.foldl_cons, ok_merge]

end Grouping

theorem reduce_append (xs ys : List (Outcome Unit)) :
    reduce (xs ++ ys) = (reduce xs).merge (reduce ys) := by
  calc reduce (xs ++ ys)
    _ = ys.foldl merge (reduce xs) := List.foldl_append
    _ = ys.foldl merge ((reduce xs).merge (.ok ())) := by rw [merge_ok]
    _ = (reduce xs).merge (reduce ys) := List.foldl_assoc

theorem reduce_flatten (xss : List (List (Outcome Unit))) :
    reduce xss.flatten = reduce (xss.map reduce) := by
  induction xss with
  | nil => rfl
  | cons xs xss ih =>
      have hhead : reduce [reduce xs] = reduce xs := ok_merge _
      rw [List.flatten_cons, reduce_append, ih, List.map_cons, ← List.singleton_append,
        reduce_append, hhead]

/-- The same verdict, with the same category and the same reasons in some order. -/
inductive Agrees : Outcome Unit → Outcome Unit → Prop
  | ok : Agrees (.ok ()) (.ok ())
  | error (status : Status) {reasons reasons' : List String} (h : reasons.Perm reasons') :
      Agrees (.error ⟨status, reasons⟩) (.error ⟨status, reasons'⟩)

theorem reduce_agrees_of_perm {xs ys : List (Outcome Unit)} (h : xs.Perm ys) :
    Agrees (reduce xs) (reduce ys) := by
  have hfailures : (failures xs).Perm (failures ys) := h.filterMap _
  rcases reduce_cases xs with ⟨hx, hnone⟩ | ⟨f, hf, hsome, hreasons, hfatal⟩
  · have hy : reduce ys = .ok () :=
      reduce_eq_ok_iff.2 fun o ho => reduce_eq_ok_iff.1 hx o (h.mem_iff.2 ho)
    rw [hx, hy]
    exact .ok
  · rcases reduce_cases ys with ⟨_, hnone⟩ | ⟨g, hg, _, hreasons', hfatal'⟩
    · rw [hnone] at hfailures
      exact absurd hfailures.eq_nil hsome
    · have hstatus : f.status = g.status := by
        apply Status.eq_of_fatal_iff
        simp only [hfatal, hfatal', hfailures.mem_iff]
      have hperm : f.reasons.Perm g.reasons := by
        rw [hreasons, hreasons']
        exact hfailures.flatMap_right _
      obtain ⟨status, reasons⟩ := f
      obtain ⟨status', reasons'⟩ := g
      obtain rfl : status = status' := hstatus
      rw [hf, hg]
      exact .error status hperm

/-- What independent calls come to does not depend on how their outcomes are split and merged, and
on the order of the outcomes only in the order of the reasons. -/
theorem reduce_regardless_of_grouping :
    (∀ outcomes : List (Outcome Unit),
      (reduce outcomes = .ok () ↔ ∀ o ∈ outcomes, o = .ok ()) ∧
      ∀ f, reduce outcomes = .error f →
        (f.status = .fatalError ↔ ∃ g, .error g ∈ outcomes ∧ g.status = .fatalError) ∧
        f.reasons = (failures outcomes).flatMap (·.reasons)) ∧
      (∀ (α : Type) (a b c : Outcome α), (a.merge b).merge c = a.merge (b.merge c)) ∧
      (∀ (α : Type) (g : Grouping α), ∃ o os, g.outcomes = o :: os ∧ g.merged = os.foldl merge o) ∧
      (∀ g : Grouping Unit, g.merged = reduce g.outcomes) ∧
      (∀ xs ys, reduce (xs ++ ys) = (reduce xs).merge (reduce ys)) ∧
      (∀ xss : List (List (Outcome Unit)), reduce xss.flatten = reduce (xss.map reduce)) ∧
      ∀ xs ys, xs.Perm ys → Agrees (reduce xs) (reduce ys) := by
  refine ⟨fun outcomes => ⟨reduce_eq_ok_iff, fun f hf => ?_⟩, fun _ => merge_assoc,
    fun _ g => g.merged_eq_foldl, Grouping.merged_eq_reduce, reduce_append, reduce_flatten,
    fun _ _ => reduce_agrees_of_perm⟩
  obtain ⟨hreasons, hfatal⟩ := of_reduce_eq_error hf
  simp only [mem_failures] at hfatal
  exact ⟨hfatal, hreasons⟩

theorem reduce_regardless_of_grouping_of_mixed_outcomes :
    let busy : Outcome Unit := .error ⟨.errorRetry, ["busy", "slow"]⟩
    let silent : Outcome Unit := .error ⟨.fatalError, []⟩
    let outcomes := [busy, .ok (), silent, busy]
    let shuffled := [silent, busy, busy, .ok ()]
    let grouping : Grouping Unit :=
      .pair (.pair (.alone busy) (.pair (.alone (.ok ())) (.alone silent))) (.alone busy)
    let f : Failure := ⟨.fatalError, ["busy", "slow", "busy", "slow"]⟩
    reduce outcomes = .error f ∧ grouping.outcomes = outcomes ∧ grouping.merged = .error f ∧
      (∃ g, .error g ∈ outcomes ∧ g.status = .fatalError) ∧
      f.reasons = (failures outcomes).flatMap (·.reasons) ∧ outcomes.Perm shuffled ∧
      Agrees (.error f) (reduce shuffled) := by
  intro busy silent outcomes shuffled grouping f
  have hreduce : reduce outcomes = .error f := by decide
  have hperm : outcomes.Perm shuffled := by decide
  obtain ⟨hverdict, -, -, hgrouping, -, -, hagrees⟩ := reduce_regardless_of_grouping
  obtain ⟨hfatal, hreasons⟩ := (hverdict outcomes).2 f hreduce
  have hmerged : grouping.merged = .error f := (hgrouping grouping).trans hreduce
  exact ⟨hreduce, rfl, hmerged, hfatal.1 rfl, hreasons, hperm, hreduce ▸ hagrees _ _ hperm⟩

end Outcome

end FlowBroker
