import FlowBroker.Json.Source

namespace FlowBroker

structure Address where
  type : String
  properties : Properties
  deriving DecidableEq

structure Asset where
  id : String
  address : Address
  deriving DecidableEq

namespace Address

variable {δ : Type} [Source δ]

def ofType (type : String) : Address := ⟨type, .empty⟩

def withProperty (a : Address) (key value : String) : Address :=
  { a with properties := a.properties.insert key value }

def property? (a : Address) (key : String) : Option String := a.properties.get? key

def typeField : Field δ String := ⟨"type", [], Source.string⟩

def propertiesField : Field δ Properties := ⟨"properties", [], Source.properties⟩

def fields : List (Field δ Unit) := [typeField.check, propertiesField.check]

def decode (d : δ) : Decoded Address := do
  let s ← Record.read "DataAddress" fields d
  pure { type := ← Record.required typeField s
         properties := ← Record.defaulted propertiesField .empty s }

def encode (a : Address) : Json :=
  .object [("type", .string a.type), ("properties", Properties.encode a.properties)]

end Address

namespace Asset

variable {δ : Type} [Source δ]

def idField : Field δ String := ⟨"id", [], Source.string⟩

def addressField : Field δ Address := ⟨"dataAddress", [], Address.decode⟩

def fields : List (Field δ Unit) := [idField.check, addressField.check]

def decode (d : δ) : Decoded Asset := do
  let s ← Record.read "Asset" fields d
  pure { id := ← Record.required idField s, address := ← Record.required addressField s }

def encode (a : Asset) : Json :=
  .object [("id", .string a.id), ("dataAddress", a.address.encode)]

end Asset

end FlowBroker
