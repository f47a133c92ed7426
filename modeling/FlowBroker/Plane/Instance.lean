import FlowBroker.Json.Source

namespace FlowBroker

structure Instance where
  id : String
  url : Url
  sourceTypes : TypeSet
  destinationTypes : TypeSet
  properties : Properties
  deriving DecidableEq

def embeddedScheme : String := "embedded"

namespace Instance

variable {δ : Type} [Source δ]

def located (id : String) (url : Url) : Instance := ⟨id, url, .empty, .empty, .empty⟩

def allowSource (i : Instance) (type : String) : Instance :=
  { i with sourceTypes := i.sourceTypes.insert type }

def allowDestination (i : Instance) (type : String) : Instance :=
  { i with destinationTypes := i.destinationTypes.insert type }

def withProperty (i : Instance) (key value : String) : Instance :=
  { i with properties := i.properties.insert key value }

def acceptsSource (i : Instance) (type : String) : Bool := type ∈ i.sourceTypes

def acceptsDestination (i : Instance) (type : String) : Bool := type ∈ i.destinationTypes

def canMove (i : Instance) (source destination : String) : Bool :=
  i.acceptsSource source && i.acceptsDestination destination

theorem canMove_iff {i : Instance} {source destination : String} :
    i.canMove source destination = true ↔
      source ∈ i.sourceTypes ∧ destination ∈ i.destinationTypes := by
  simp [canMove, acceptsSource, acceptsDestination]

def isEmbedded (i : Instance) : Bool := i.url.scheme = embeddedScheme

def idField : Field δ String := ⟨"id", [], Source.string⟩

def urlField : Field δ Url := ⟨"url", [], Source.url⟩

def sourceTypesField : Field δ TypeSet :=
  ⟨"allowedSourceTypes", ["allowed_source_types"], Source.typeSet⟩

def destinationTypesField : Field δ TypeSet :=
  ⟨"allowedDestTypes", ["allowed_dest_types"], Source.typeSet⟩

def propertiesField : Field δ Properties := ⟨"properties", [], Source.properties⟩

def fields : List (Field δ Unit) :=
  [idField.check, urlField.check, sourceTypesField.check, destinationTypesField.check,
    propertiesField.check]

def decode (d : δ) : Decoded Instance := do
  let s ← Record.read "DataPlaneInstance" fields d
  pure { id := ← Record.required idField s
         url := ← Record.required urlField s
         sourceTypes := ← Record.defaulted sourceTypesField .empty s
         destinationTypes := ← Record.defaulted destinationTypesField .empty s
         properties := ← Record.defaulted propertiesField .empty s }

def encode (i : Instance) : Json :=
  .object [("id", .string i.id), ("url", .string i.url.toString),
    ("allowedSourceTypes", i.sourceTypes.encode), ("allowedDestTypes", i.destinationTypes.encode),
    ("properties", i.properties.encode)]

end Instance

end FlowBroker
