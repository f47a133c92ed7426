import FlowBroker.Json.Source

namespace FlowBroker

inductive FlowType where
  | push
  | pull
  deriving DecidableEq, Repr

def FlowType.name : FlowType → String
  | push => "PUSH"
  | pull => "PULL"

structure TransferType where
  kind : String
  flow : FlowType
  deriving DecidableEq, Repr

inductive TransferTypeError where
  | missingFlow (text : String)
  | emptyKind (text : String)
  | unknownFlow (flow : String)
  deriving DecidableEq, Repr

def TransferTypeError.message : TransferTypeError → String
  | missingFlow text => "Transfer type `" ++ text ++ "` has no flow suffix"
  | emptyKind text => "Transfer type `" ++ text ++ "` has an empty kind"
  | unknownFlow flow => "Unknown flow type `" ++ flow ++ "`"

def FlowType.parse (s : String) : Except TransferTypeError FlowType :=
  if s = "PUSH" then .ok .push else if s = "PULL" then .ok .pull else .error (.unknownFlow s)

@[simp] theorem FlowType.parse_name (f : FlowType) : parse f.name = .ok f := by
  cases f <;> rfl

theorem FlowType.name_of_parse {s : String} {f : FlowType} (h : parse s = .ok f) : f.name = s := by
  rw [parse] at h
  split at h
  · next hs =>
    cases h
    exact hs.symm
  · split at h
    · next hs =>
      cases h
      exact hs.symm
    · cases h

theorem FlowType.dash_not_mem_name (f : FlowType) : '-' ∉ f.name.toList := by
  cases f <;> decide

def FlowType.decode (j : Json) : Decoded FlowType := j.variant ("PUSH", push) ("PULL", pull)

/-- Cuts a text at the last occurrence of a character. -/
def splitLast? (separator : Char) : List Char → Option (List Char × List Char)
  | [] => none
  | c :: cs =>
      match splitLast? separator cs with
      | some (before, behind) => some (c :: before, behind)
      | none => if c = separator then some ([], cs) else none

section

variable {separator : Char} {cs before behind : List Char}

theorem splitLast?_eq_none_iff : splitLast? separator cs = none ↔ separator ∉ cs := by
  induction cs with
  | nil => simp [splitLast?]
  | cons c cs ih =>
      rw [splitLast?, List.mem_cons, not_or, ← ih, eq_comm (a := separator)]
      cases splitLast? separator cs with
      | none => by_cases hc : c = separator <;> simp [hc]
      | some parts => simp

theorem splitLast?_append (h : separator ∉ behind) :
    splitLast? separator (before ++ separator :: behind) = some (before, behind) := by
  induction before with
  | nil => simp [splitLast?, splitLast?_eq_none_iff.2 h]
  | cons c before ih => simp [splitLast?, ih]

theorem eq_append_of_splitLast? (h : splitLast? separator cs = some (before, behind)) :
    cs = before ++ separator :: behind := by
  induction cs generalizing before with
  | nil => cases h
  | cons c cs ih =>
      rw [splitLast?] at h
      cases hrest : splitLast? separator cs with
      | some parts =>
          simp only [hrest, Option.some.injEq, Prod.mk.injEq] at h
          obtain ⟨rfl, rfl⟩ := h
          exact congrArg (c :: ·) (ih hrest)
      | none =>
          simp only [hrest] at h
          split at h
          · next hc =>
            cases h
            exact congrArg (· :: behind) hc
          · cases h

end

namespace TransferType

def push (kind : String) : TransferType := ⟨kind, .push⟩

def pull (kind : String) : TransferType := ⟨kind, .pull⟩

def toString (t : TransferType) : String := t.kind ++ "-" ++ t.flow.name

instance : ToString TransferType := ⟨toString⟩

def parse (s : String) : Except TransferTypeError TransferType :=
  match splitLast? '-' s.toList with
  | none => .error (.missingFlow s)
  | some ([], _) => .error (.emptyKind s)
  | some (kind, flow) => do pure ⟨String.ofList kind, ← FlowType.parse (String.ofList flow)⟩

theorem toString_push (kind : String) : (push kind).toString = kind ++ "-PUSH" :=
  String.append_assoc

theorem toString_pull (kind : String) : (pull kind).toString = kind ++ "-PULL" :=
  String.append_assoc

theorem toString_push_injective {kind kind' : String}
    (h : (push kind).toString = (push kind').toString) : kind = kind' := by
  rw [toString_push, toString_push] at h
  exact (String.append_left_inj "-PUSH").1 h

theorem toList_toString (t : TransferType) :
    t.toString.toList = t.kind.toList ++ '-' :: t.flow.name.toList := by
  simp [toString]

theorem toString_of_parse {s : String} {t : TransferType} (h : parse s = .ok t) :
    t.kind ≠ "" ∧ t.toString = s := by
  rw [parse] at h
  split at h
  · cases h
  · cases h
  · next kind flow hempty hsplit =>
    cases hflow : FlowType.parse (String.ofList flow) with
    | error e => simp [hflow, bind, Except.bind] at h
    | ok f =>
        simp only [hflow, bind, Except.bind, pure, Except.pure, Except.ok.injEq] at h
        subst h
        constructor
        · intro hkind
          exact hempty (String.ofList_eq_empty_iff.1 hkind)
        · rw [← String.toList_inj, toList_toString, FlowType.name_of_parse hflow,
            eq_append_of_splitLast? hsplit, String.toList_ofList, String.toList_ofList]

theorem parse_toString {t : TransferType} (h : t.kind ≠ "") : parse t.toString = .ok t := by
  have hsplit : splitLast? '-' t.toString.toList =
      some (t.kind.toList, t.flow.name.toList) := by
    rw [toList_toString]
    exact splitLast?_append t.flow.dash_not_mem_name
  rw [parse, hsplit]
  cases hkind : t.kind.toList with
  | nil => exact absurd (String.toList_eq_nil_iff.1 hkind) h
  | cons c cs =>
      simp only [← hkind, String.ofList_toList, FlowType.parse_name]
      rfl

/-- The texts that are transfer types are those that one with a kind is written as. -/
theorem parse_eq_ok_iff {s : String} {t : TransferType} :
    parse s = .ok t ↔ t.kind ≠ "" ∧ t.toString = s :=
  ⟨toString_of_parse, fun ⟨hkind, hs⟩ => hs ▸ parse_toString hkind⟩

end TransferType

end FlowBroker
