import FlowBroker.Record.Source
import FlowBroker.Json.Reader

namespace FlowBroker

def Properties.encode (p : Properties) : Json :=
  .object (p.toList.map fun e => (e.1, .string e.2))

def TypeSet.encode (s : TypeSet) : Json := .array (s.toList.map .string)

namespace Json

def ofOption {α : Type} (encode : α → Json) : Option α → Json
  | none => .null
  | some a => encode a

def optionalMember {α : Type} (name : String) (encode : α → Json) : Option α → List (String × Json)
  | none => []
  | some a => [(name, encode a)]

def ofNat (n : Nat) : Json := .number (.integer n)

def found : Json → Decoded Found
  | null => pure .null
  | bool b => pure (.bool b)
  | number n => pure (.number n)
  | string s => pure (.string s)
  | array _ => pure .sequence
  | object _ | torn _ _ => pure .map
  | fault _ => throw .malformed

def unexpected {α : Type} (expected : String) (j : Json) : Decoded α := do
  throw (.wrongType (← j.found) expected)

def text (expected : String) : Json → Decoded String
  | string s => pure s
  | j => j.unexpected expected

def flag : Json → Decoded Bool
  | bool b => pure b
  | j => j.unexpected "a boolean"

def natural : Json → Decoded UInt64
  | number (.integer n) =>
      if 0 ≤ n then pure n.toNat.toUInt64 else throw (.wrongValue (.number (.integer n)) "u64")
  | j => j.unexpected "u64"

def optional : Json → Decoded (Option Json)
  | null => pure none
  | j => pure (some j)

def items : Json → Decoded (List Json)
  | array js => pure js
  | j => j.unexpected "a sequence"

def entries : Json → Decoded (Shown Json)
  | object ms => pure ⟨ms, none, .missingField⟩
  | torn ms _ => pure ⟨ms, some .malformed, .missingField⟩
  | j => j.unexpected "a map"

def arrayOf (record : String) (n : Nat) : String :=
  "struct " ++ record ++ " with " ++ toString n ++ (if n = 1 then " element" else " elements")

def fields (record : String) (names : List String) : Json → Decoded (Shown Json)
  | object ms => pure ⟨ms, none, .missingField⟩
  | torn ms _ => pure ⟨ms, some .malformed, .missingField⟩
  | array js => pure {
      members := names.zip js
      fault := if names.length < js.length then some (.tooManyItems js.length) else none
      missing := fun name => .wrongLength (names.idxOf name) (arrayOf record names.length) }
  | j => j.unexpected ("struct " ++ record)

def skip (j : Json) : Decoded Unit := if j.skippable then pure () else throw .malformed

instance : Source Json := ⟨text, flag, natural, optional, items, entries, fields, skip⟩

/-- One of two names, alone or as the only key of an object whose value is `null`. -/
def variant {α : Type} (first second : String × α) (j : Json) : Decoded α := do
  let named (name : String) : Decoded α :=
    if name = first.1 then pure first.2
    else if name = second.1 then pure second.2
    else throw (.unknownVariant name first.1 second.1)
  match j with
  | string s => named s
  | object ((name, value) :: ms) =>
      let v ← named name
      match value with
      | null => if ms.isEmpty then pure v else throw .malformed
      | j => j.unexpected "unit"
  | torn ((name, value) :: _) _ =>
      let _ ← named name
      match value with
      | null => throw .malformed
      | j => j.unexpected "unit"
  | _ => throw .malformed

/-- Decodes a whole text. Anything but blanks behind the value is a fault, met last. -/
def decodeText {α : Type} (decode : Json → Decoded α) (text : String) : Decoded α := do
  let document := read text
  let v ← decode document.root
  if document.ended then pure v else throw .malformed

end Json

end FlowBroker
