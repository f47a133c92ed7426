import FlowBroker.Transfer.Type
import Mathlib.Data.List.Basic

namespace FlowBroker

namespace FlowType

variable {s : String}

theorem parse_eq_ok_iff {f : FlowType} : parse s = .ok f ↔ f.name = s := by
  constructor
  · exact name_of_parse
  · rintro rfl
    exact parse_name f

theorem parse_eq_error_iff {e : TransferTypeError} :
    parse s = .error e ↔ e = .unknownFlow s ∧ ∀ f : FlowType, f.name ≠ s := by
  constructor
  · intro h
    refine ⟨?_, fun f hf => ?_⟩
    · rw [parse] at h
      split_ifs at h
      exact (Except.error.inj h).symm
    · rw [parse_eq_ok_iff.2 hf] at h
      cases h
  · rintro ⟨rfl, hno⟩
    have hpush : s ≠ "PUSH" := (hno .push).symm
    have hpull : s ≠ "PULL" := (hno .pull).symm
    rw [parse, if_neg hpush, if_neg hpull]

end FlowType

namespace TransferType

/-- What a text is read as, by the parts that it is made of. -/
inductive Says : String → Except TransferTypeError TransferType → Prop
  | dashless {s : String} (h : '-' ∉ s.toList) : Says s (.error (.missingFlow s))
  | kindless {flow : String} (h : '-' ∉ flow.toList) :
      Says ("-" ++ flow) (.error (.emptyKind ("-" ++ flow)))
  | flowless {kind flow : String} (hkind : kind ≠ "") (h : '-' ∉ flow.toList)
      (hflow : ∀ f : FlowType, f.name ≠ flow) :
      Says (kind ++ "-" ++ flow) (.error (.unknownFlow flow))
  | whole {kind : String} (hkind : kind ≠ "") (f : FlowType) :
      Says (kind ++ "-" ++ f.name) (.ok ⟨kind, f⟩)

theorem exists_cut {s : String} (h : '-' ∈ s.toList) :
    ∃ kind flow : String, '-' ∉ flow.toList ∧ s = kind ++ "-" ++ flow := by
  -- The last dash is the first one from behind.
  obtain ⟨behind, before, hs, hno⟩ := List.eq_append_cons_of_mem (List.mem_reverse.2 h)
  refine ⟨String.ofList before.reverse, String.ofList behind.reverse, by simpa using hno, ?_⟩
  rw [← String.toList_inj, ← List.reverse_inj, hs]
  simp

theorem parse_of_dashless {s : String} (h : '-' ∉ s.toList) :
    parse s = .error (.missingFlow s) := by
  rw [parse, splitLast?_eq_none_iff.2 h]

theorem parse_append {kind flow : String} (h : '-' ∉ flow.toList) :
    parse (kind ++ "-" ++ flow) =
      if kind = "" then .error (.emptyKind (kind ++ "-" ++ flow))
      else (FlowType.parse flow).map (TransferType.mk kind) := by
  have htext : (kind ++ "-" ++ flow).toList = kind.toList ++ '-' :: flow.toList := by simp
  rw [parse, htext, splitLast?_append h]
  cases hkind : kind.toList with
  | nil => rw [if_pos (String.toList_eq_nil_iff.1 hkind)]
  | cons c cs =>
      have hne : kind ≠ "" := by
        rintro rfl
        cases hkind
      rw [if_neg hne]
      simp only [← hkind, String.ofList_toList]
      cases FlowType.parse flow <;> rfl

theorem says_parse (s : String) : Says s (parse s) := by
  by_cases hdash : '-' ∈ s.toList
  · obtain ⟨kind, flow, hno, rfl⟩ := exists_cut hdash
    rw [parse_append hno]
    by_cases hkind : kind = ""
    · rw [if_pos hkind, hkind]
      exact .kindless hno
    · rw [if_neg hkind]
      cases hflow : FlowType.parse flow with
      | error e =>
          obtain ⟨rfl, hunknown⟩ := FlowType.parse_eq_error_iff.1 hflow
          exact .flowless hkind hno hunknown
      | ok f =>
          obtain rfl := FlowType.parse_eq_ok_iff.1 hflow
          exact .whole hkind f
  · rw [parse_of_dashless hdash]
    exact .dashless hdash

theorem parse_of_says {s : String} {r : Except TransferTypeError TransferType} (h : Says s r) :
    parse s = r := by
  cases h with
  | dashless h => exact parse_of_dashless h
  | @kindless flow h => exact @parse_append "" flow h
  | flowless hkind h hflow =>
      rw [parse_append h, if_neg hkind, FlowType.parse_eq_error_iff.2 ⟨rfl, hflow⟩]
      rfl
  | whole hkind f =>
      rw [parse_append f.dash_not_mem_name, if_neg hkind, FlowType.parse_name]
      rfl

theorem parse_eq_iff {s : String} {r : Except TransferTypeError TransferType} :
    parse s = r ↔ Says s r :=
  ⟨fun h => h ▸ says_parse s, parse_of_says⟩

/-- A text is a transfer type exactly if it is written as one with a kind, and reading and writing
undo each other. Any other text lacks a direction, a kind, or a direction that is known, in this
order. -/
theorem parse_inverts_toString (s : String) :
    (∀ kind flow, parse s = .ok ⟨kind, flow⟩ ↔ kind ≠ "" ∧ s = kind ++ "-" ++ flow.name) ∧
      (∀ t, parse s = .ok t → t.toString = s) ∧
      (∀ t : TransferType, parse t.toString = .ok t ↔ t.kind ≠ "") ∧
      (∀ text, parse s = .error (.missingFlow text) ↔ '-' ∉ s.toList ∧ text = s) ∧
      (∀ text, parse s = .error (.emptyKind text) ↔
        (∃ rest : String, s = "-" ++ rest ∧ '-' ∉ rest.toList) ∧ text = s) ∧
      ∀ flow, parse s = .error (.unknownFlow flow) ↔
        (∃ kind, kind ≠ "" ∧ s = kind ++ "-" ++ flow) ∧ '-' ∉ flow.toList ∧
          ∀ f : FlowType, f.name ≠ flow := by
  simp only [parse_eq_iff (s := s)]
  refine ⟨fun kind flow => ⟨?_, ?_⟩, ?_, fun t => ⟨?_, parse_toString⟩, fun text => ⟨?_, ?_⟩,
    fun text => ⟨?_, ?_⟩, fun flow => ⟨?_, ?_⟩⟩
  · rintro ⟨⟩
    exact ⟨‹_›, rfl⟩
  · rintro ⟨hkind, rfl⟩
    exact .whole hkind flow
  · rintro t ⟨⟩
    rfl
  · exact fun h => (toString_of_parse h).1
  · rintro ⟨⟩
    exact ⟨‹_›, rfl⟩
  · rintro ⟨hno, rfl⟩
    exact .dashless hno
  · rintro ⟨⟩
    exact ⟨⟨_, rfl, ‹_›⟩, rfl⟩
  · rintro ⟨⟨rest, rfl, hno⟩, rfl⟩
    exact .kindless hno
  · rintro ⟨⟩
    exact ⟨⟨_, ‹_›, rfl⟩, ‹_›, ‹_›⟩
  · rintro ⟨⟨kind, hkind, rfl⟩, hno, hunknown⟩
    exact .flowless hkind hno hunknown

theorem parse_inverts_toString_of_dashed_kind :
    let t := TransferType.pull "-Azure-"
    parse "-Azure--PULL" = .ok t ∧ t.toString = "-Azure--PULL" ∧ parse t.toString = .ok t ∧
      parse "-pull" = .error (.emptyKind "-pull") ∧
      parse "-Azure-" = .error (.unknownFlow "") := by
  intro t
  have hparse : parse "-Azure--PULL" = .ok t := by decide
  obtain ⟨_, hback, hagain, _⟩ := parse_inverts_toString "-Azure--PULL"
  obtain ⟨_, _, _, _, hkindless, _⟩ := parse_inverts_toString "-pull"
  obtain ⟨_, _, _, _, _, hflowless⟩ := parse_inverts_toString "-Azure-"
  refine ⟨hparse, hback t hparse, (hagain t).2 (by decide), ?_, ?_⟩
  · exact (hkindless "-pull").2 ⟨⟨"pull", by decide, by decide⟩, rfl⟩
  · exact (hflowless "").2 ⟨⟨"-Azure", by decide, by decide⟩, by decide, by rintro ⟨⟩ <;> decide⟩

end TransferType

end FlowBroker
