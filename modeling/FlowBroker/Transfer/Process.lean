import FlowBroker.Transfer.Address
import FlowBroker.Transfer.Type

namespace FlowBroker

/-- The destination type of transfers that the destination fetches itself, through a proxy. -/
def proxyType : String := "HttpProxy"

structure TransferProcess where
  id : String
  transferType : Option String
  destinationType : String
  source : Address
  destination : Address
  deriving DecidableEq

namespace TransferProcess

variable {δ : Type} [Source δ]

def between (id : String) (source destination : Address) : TransferProcess :=
  ⟨id, none, destination.type, source, destination⟩

def withTransferType (p : TransferProcess) (transferType : String) : TransferProcess :=
  { p with transferType := some transferType }

def withDestinationType (p : TransferProcess) (destinationType : String) : TransferProcess :=
  { p with destinationType := destinationType }

def transferType? (p : TransferProcess) : Option TransferType :=
  p.transferType.bind fun t => (TransferType.parse t).toOption

theorem transferType?_eq_some_iff {p : TransferProcess} {t : TransferType} :
    p.transferType? = some t ↔ t.kind ≠ "" ∧ p.transferType = some t.toString := by
  rw [transferType?, Option.bind_eq_some_iff]
  constructor
  · rintro ⟨text, htext, hparse⟩
    cases hread : TransferType.parse text with
    | error e => simp [hread, Except.toOption] at hparse
    | ok u =>
        simp only [hread, Except.toOption, Option.some.injEq] at hparse
        obtain ⟨hkind, rfl⟩ := TransferType.parse_eq_ok_iff.1 (hparse ▸ hread)
        exact ⟨hkind, htext⟩
  · rintro ⟨hkind, htext⟩
    exact ⟨t.toString, htext, by rw [TransferType.parse_toString hkind]; rfl⟩

def idField : Field δ String := ⟨"id", [], Source.string⟩

def transferTypeField : Field δ (Option String) :=
  ⟨"transferType", [], Source.option Source.string⟩

def destinationTypeField : Field δ String := ⟨"destinationType", [], Source.string⟩

def sourceField : Field δ Address := ⟨"contentDataAddress", [], Address.decode⟩

def destinationField : Field δ Address := ⟨"dataDestination", [], Address.decode⟩

def fields : List (Field δ Unit) :=
  [idField.check, transferTypeField.check, destinationTypeField.check, sourceField.check,
    destinationField.check]

def decode (d : δ) : Decoded TransferProcess := do
  let s ← Record.read "TransferProcess" fields d
  pure { id := ← Record.required idField s
         transferType := ← Record.defaulted transferTypeField none s
         destinationType := ← Record.required destinationTypeField s
         source := ← Record.required sourceField s
         destination := ← Record.required destinationField s }

def encode (p : TransferProcess) : Json :=
  .object [("id", .string p.id), ("transferType", .ofOption .string p.transferType),
    ("destinationType", .string p.destinationType), ("contentDataAddress", p.source.encode),
    ("dataDestination", p.destination.encode)]

end TransferProcess

/-- A contract policy: any JSON value. Flow control passes it on and never looks inside. -/
structure Policy where
  value : Json
  deriving Inhabited

namespace Policy

def none : Policy := ⟨.null⟩

/-- The most arrays and objects that may lie inside one another. -/
def maxDepth : Nat := 127

def place (name : String) (value : Json) : List (String × Json) → List (String × Json)
  | [] => [(name, value)]
  | m :: ms =>
      if name < m.1 then (name, value) :: m :: ms
      else if name = m.1 then (name, value) :: ms
      else m :: place name value ms

mutual

def normalise : Nat → Json → Decoded Json
  | _, .null => pure .null
  | _, .bool b => pure (.bool b)
  | _, .number n => pure (.number n)
  | _, .string s => pure (.string s)
  | 0, _ => throw .malformed
  | depth + 1, .array items => .array <$> normaliseItems depth items
  | depth + 1, .object members => .object <$> normaliseMembers depth [] members
  | _, .fault _ => throw .malformed
  | _, .torn _ _ => throw .malformed

def normaliseItems : Nat → List Json → Decoded (List Json)
  | _, [] => pure []
  | depth, j :: js => do pure ((← normalise depth j) :: (← normaliseItems depth js))

def normaliseMembers : Nat → List (String × Json) → List (String × Json) →
    Decoded (List (String × Json))
  | _, done, [] => pure done
  | depth, done, m :: ms => do
      let value ← normalise depth m.2
      normaliseMembers depth (place m.1 value done) ms

end

def decode (j : Json) : Decoded Policy := Policy.mk <$> normalise maxDepth j

end Policy

end FlowBroker
