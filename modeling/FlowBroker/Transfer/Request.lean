import FlowBroker.Transfer.Process

namespace FlowBroker

structure Request where
  id : Uuid
  processId : String
  trackable : Bool
  source : Address
  destination : Address
  transferType : Option String
  callback : Option Url
  deriving DecidableEq

namespace Request

variable {δ : Type} [Source δ]

def forProcess (id : Uuid) (p : TransferProcess) (callback : Option Url) : Request :=
  ⟨id, p.id, true, p.source, p.destination, p.transferType, callback⟩

def idField : Field δ Uuid := ⟨"requestId", [], Source.uuid⟩

def processIdField : Field δ String := ⟨"processId", [], Source.string⟩

def trackableField : Field δ Bool := ⟨"trackable", [], Source.flag⟩

def sourceField : Field δ Address := ⟨"sourceDataAddress", [], Address.decode⟩

def destinationField : Field δ Address := ⟨"destinationDataAddress", [], Address.decode⟩

def transferTypeField : Field δ (Option String) :=
  ⟨"transferType", [], Source.option Source.string⟩

def callbackField : Field δ (Option Url) := ⟨"callbackAddress", [], Source.option Source.url⟩

def fields : List (Field δ Unit) :=
  [idField.check, processIdField.check, trackableField.check, sourceField.check,
    destinationField.check, transferTypeField.check, callbackField.check]

def decode (d : δ) : Decoded Request := do
  let s ← Record.read "DataFlowRequest" fields d
  pure { id := ← Record.required idField s
         processId := ← Record.required processIdField s
         trackable := ← Record.required trackableField s
         source := ← Record.required sourceField s
         destination := ← Record.required destinationField s
         transferType := ← Record.defaulted transferTypeField none s
         callback := ← Record.defaulted callbackField none s }

def encode (r : Request) : Json :=
  .object ([("requestId", .string r.id.toString), ("processId", .string r.processId),
      ("trackable", .bool r.trackable), ("sourceDataAddress", r.source.encode),
      ("destinationDataAddress", r.destination.encode)] ++
    Json.optionalMember "transferType" .string r.transferType ++
    Json.optionalMember "callbackAddress" (fun u => .string u.toString) r.callback)

end Request

/-- The answer to a flow that has been started. Flows that are pulled answer with the address to
pull from. -/
structure Response where
  address : Option Address
  deriving DecidableEq

namespace Response

variable {δ : Type} [Source δ]

def empty : Response := ⟨none⟩

def addressField : Field δ (Option Address) :=
  ⟨"dataAddress", [], Source.option Address.decode⟩

def fields : List (Field δ Unit) := [addressField.check]

def decode (d : δ) : Decoded Response := do
  let s ← Record.read "DataFlowResponse" fields d
  pure { address := ← Record.defaulted addressField none s }

def encode (r : Response) : Json :=
  .object (Json.optionalMember "dataAddress" Address.encode r.address)

end Response

end FlowBroker
