import FlowBroker.Status
import Mathlib.Data.List.Induction

namespace FlowBroker

theorem Status.worse_eq_fatalError_iff {s s' : Status} :
    s.worse s' = .fatalError ↔ s = .fatalError ∨ s' = .fatalError := by
  cases s <;> simp [worse]

theorem Failure.isRetryable_iff {f : Failure} : f.isRetryable = true ↔ f.status ≠ .fatalError := by
  rw [isRetryable]
  cases f.status <;> simp

namespace Outcome

def failures {α : Type} (outcomes : List (Outcome α)) : List Failure :=
  outcomes.filterMap fun
    | .ok _ => none
    | .error f => some f

theorem mem_failures {α : Type} {outcomes : List (Outcome α)} {f : Failure} :
    f ∈ failures outcomes ↔ .error f ∈ outcomes := by
  rw [failures, List.mem_filterMap]
  constructor
  · rintro ⟨o, ho, hf⟩
    cases o with
    | ok _ => cases hf
    | error g =>
        cases hf
        exact ho
  · exact fun hf => ⟨_, hf, rfl⟩

theorem reduce_snoc (outcomes : List (Outcome Unit)) (o : Outcome Unit) :
    reduce (outcomes ++ [o]) = (reduce outcomes).merge o :=
  List.foldl_append

theorem failures_eq_nil_iff {outcomes : List (Outcome Unit)} :
    failures outcomes = [] ↔ ∀ o ∈ outcomes, o = .ok () := by
  rw [failures, List.filterMap_eq_nil_iff]
  refine forall₂_congr fun o _ => ?_
  cases o with
  | ok _ => simp
  | error f => simp

/-- The failure that many come to has all of their reasons, and is final if one of them is. -/
theorem reduce_cases (outcomes : List (Outcome Unit)) :
    (reduce outcomes = .ok () ∧ failures outcomes = []) ∨
      ∃ f, reduce outcomes = .error f ∧ failures outcomes ≠ [] ∧
        f.reasons = (failures outcomes).flatMap (·.reasons) ∧
        (f.status = .fatalError ↔ ∃ g ∈ failures outcomes, g.status = .fatalError) := by
  induction outcomes using List.reverseRecOn with
  | nil => exact .inl ⟨rfl, rfl⟩
  | append_singleton outcomes o ih =>
      rw [reduce_snoc, failures, List.filterMap_append, ← failures]
      cases o with
      | ok _ =>
          rcases ih with ⟨hok, hnone⟩ | ⟨f, hf, hsome, hreasons, hfatal⟩
          · exact .inl ⟨by rw [hok]; rfl, by simpa using hnone⟩
          · refine .inr ⟨f, by rw [hf]; rfl, ?_⟩
            simpa using ⟨hsome, hreasons, hfatal⟩
      | error g =>
          rcases ih with ⟨hok, hnone⟩ | ⟨f, hf, hsome, hreasons, hfatal⟩
          · exact .inr ⟨g, by rw [hok]; rfl, by simp [hnone]⟩
          · refine .inr ⟨f.combine g, by rw [hf]; rfl, by simp, ?_, ?_⟩
            · simp [Failure.combine, hreasons]
            · simp [Failure.combine, Status.worse_eq_fatalError_iff, hfatal, or_and_right,
                exists_or]

theorem reduce_eq_ok_iff {outcomes : List (Outcome Unit)} :
    reduce outcomes = .ok () ↔ ∀ o ∈ outcomes, o = .ok () := by
  rw [← failures_eq_nil_iff]
  rcases reduce_cases outcomes with ⟨hok, hnone⟩ | ⟨f, hf, hsome, _⟩
  · simp [hok, hnone]
  · simp [hf, hsome]

theorem of_reduce_eq_error {outcomes : List (Outcome Unit)} {f : Failure}
    (h : reduce outcomes = .error f) :
    f.reasons = (failures outcomes).flatMap (·.reasons) ∧
      (f.status = .fatalError ↔ ∃ g ∈ failures outcomes, g.status = .fatalError) := by
  rcases reduce_cases outcomes with ⟨hok, _⟩ | ⟨g, hg, _, hkept⟩
  · rw [hok] at h
    cases h
  · rw [hg] at h
    cases h
    exact hkept

end Outcome

end FlowBroker
