import FlowBroker.Properties
import FlowBroker.Record.Error
import FlowBroker.TypeSet
import FlowBroker.Url.Parser
import FlowBroker.Uuid

namespace FlowBroker

/-- The members that a document shows for a record or a table. -/
structure Shown (δ : Type) where
  members : List (String × δ)
  fault : Option DecodeError
  missing : String → DecodeError

/-- A notation with values of type `δ`. -/
class Source (δ : Type) where
  text : String → δ → Decoded String
  flag : δ → Decoded Bool
  natural : δ → Decoded UInt64
  /-- Nothing if the value says that there is none. -/
  optional : δ → Decoded (Option δ)
  items : δ → Decoded (List δ)
  entries : δ → Decoded (Shown δ)
  fields : String → List String → δ → Decoded (Shown δ)
  skip : δ → Decoded Unit

/-- A field of a record: its name, other spellings of it, and how its value is read. -/
structure Field (δ α : Type) where
  name : String
  aliases : List String
  decode : δ → Decoded α

namespace Field

variable {δ α : Type}

def names (f : Field δ α) : List String := f.name :: f.aliases

def check (f : Field δ α) : Field δ Unit :=
  ⟨f.name, f.aliases, fun d => (f.decode d).map fun _ => ()⟩

end Field

namespace Record

variable {δ α : Type} [Source δ]

def checkMembers (fields : List (Field δ Unit)) : List String → List (String × δ) → Decoded Unit
  | _, [] => pure ()
  | seen, (name, value) :: ms =>
      match fields.find? (fun f => f.names.contains name) with
      | none => do Source.skip value; checkMembers fields seen ms
      | some f =>
          if seen.contains f.name then throw (.duplicateField f.name)
          else do f.decode value; checkMembers fields (f.name :: seen) ms

def fault (s : Shown δ) : Decoded Unit :=
  match s.fault with
  | none => pure ()
  | some e => throw e

/-- The members of a record, all of them sound. They are looked at in the order of the document, and
the first fault wins. -/
def read (name : String) (fields : List (Field δ Unit)) (d : δ) : Decoded (Shown δ) := do
  let s ← Source.fields name (fields.map (·.name)) d
  checkMembers fields [] s.members
  fault s
  pure s

def member? (f : Field δ α) (s : Shown δ) : Option δ :=
  (s.members.find? fun m => f.names.contains m.1).map (·.2)

def required (f : Field δ α) (s : Shown δ) : Decoded α :=
  match member? f s with
  | some d => f.decode d
  | none => throw (s.missing f.name)

def defaulted (f : Field δ α) (default : α) (s : Shown δ) : Decoded α :=
  match member? f s with
  | some d => f.decode d
  | none => pure default

end Record

namespace Source

variable {δ α : Type} [Source δ]

def string (d : δ) : Decoded String := text "a string" d

def url (d : δ) : Decoded Url := do
  let t ← text "a string representing an URL" d
  match Url.parse t with
  | .ok u => pure u
  | .error e => throw (.badUrl e t)

def uuid (d : δ) : Decoded Uuid := do
  match Uuid.parse? (← text "a formatted UUID string" d) with
  | some u => pure u
  | none => throw .badUuid

def option (decode : δ → Decoded α) (d : δ) : Decoded (Option α) := do
  match ← optional d with
  | none => pure none
  | some d => some <$> decode d

def list (decode : δ → Decoded α) (d : δ) : Decoded (List α) := do
  (← items d).mapM decode

def typeSet (d : δ) : Decoded TypeSet := TypeSet.ofList <$> list string d

def properties (d : δ) : Decoded Properties := do
  let s ← entries d
  let es ← s.members.mapM fun m => (m.1, ·) <$> string m.2
  Record.fault s
  pure (Properties.ofList es)

end Source

end FlowBroker
