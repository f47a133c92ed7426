import FlowBroker.Config
import FlowBroker.Flow.Manager
import FlowBroker.Flow.Push

namespace FlowBroker.CommandLine

/-- The word behind the first of the given flags that has one behind it. -/
def argument? (flags : List String) : List String → Option String
  | [] | [_] => none
  | flag :: word :: words =>
      if flags.contains flag then some word else argument? flags (word :: words)

section

variable {flags words : List String} {word : String}

theorem argument?_cons_of_mem (h : word ∈ flags) (value : String) :
    argument? flags (word :: value :: words) = some value := by
  rw [argument?, if_pos (by simpa using h)]

theorem argument?_cons_of_not_mem (h : word ∉ flags) :
    argument? flags (word :: words) = argument? flags words := by
  cases words with
  | nil => rfl
  | cons next words => rw [argument?, if_neg (by simpa using h)]

end

def environment (words : List String) : String := (argument? ["--env", "-e"] words).getD "dev"

def processPath? (words : List String) : Option String := argument? ["--process", "-p"] words

def terminates (words : List String) : Bool := words.contains "--terminate"

structure Complaint where
  what : String
  causes : List String
  /-- Whether a document is at fault; where in it is not told. -/
  ofNotation : Bool

namespace Complaint

def plain (what : String) : Complaint := ⟨what, [], false⟩

def indented (first rest text : String) : String :=
  first ++ ("\n" ++ rest).intercalate (text.splitOn "\n")

def causeText (causes : List String) : String :=
  match causes with
  | [cause] => indented "    " "    " cause
  | causes => "\n".intercalate (causes.zipIdx.map fun c =>
      indented ("    " ++ toString c.2 ++ ": ") "       " c.1)

def text (c : Complaint) : String :=
  "Error: " ++ c.what ++
    (if c.ofNotation then ""
     else (if c.causes.isEmpty then "" else "\n\nCaused by:\n" ++ causeText c.causes) ++ "\n")

def ofConfig (e : ConfigError) : Complaint :=
  match e with
  | .unreadable _ fault => ⟨"loading configuration", [e.message, fault.message], false⟩
  | .malformed => ⟨"loading configuration", [], true⟩
  | e => ⟨"loading configuration", [e.message], false⟩

end Complaint

structure Report where
  exit : UInt32
  out : String
  err : String
  events : List Event

def Report.failed (c : Complaint) : Report := ⟨1, "", c.text, []⟩

structure Session where
  environment : String
  config : Config
  strategy : Dice → Strategy
  callback : Option Url
  processPath : Option String
  terminates : Bool

namespace Session

def load (words : List String) (files : String → Except FileFault String) :
    Except Complaint Session := do
  let environment := CommandLine.environment words
  let loaded : Except ConfigError Session := do
    let config ← Config.ofFile files (Config.path environment)
    let strategy ← Strategy.ofName config.control.strategy
    let callback ← config.control.callbackUrl
    pure { environment, config, strategy, callback
           processPath := processPath? words
           terminates := CommandLine.terminates words }
  loaded.mapError .ofConfig

def manager (s : Session) (network : Http.Network) : Manager (Control Planes) :=
  let push : Push := ⟨s.callback, s.config.control.requireCallback⟩
  Manager.new.register (push.controller (Planes.transport network))

def setUp (s : Session) : Run (Control Planes) Unit := do
  Run.emit (.started s.environment)
  let _ ← Run.each Control.add s.config.planes
  Run.emit (.controllerRegistered Push.name)
  Run.emit .ready

/-- For each source type that some data plane accepts, the transfer types. -/
def listing (m : Manager (Control Planes)) (c : Control Planes) : String :=
  let sources := TypeSet.ofList (c.selector.all.flatMap (·.sourceTypes.toList))
  String.join (sources.toList.map fun type =>
    let types := m.transferTypes c ⟨type, .ofType type⟩
    type ++ ": " ++ ", ".intercalate types.toList ++ "\n")

def failureText (p : TransferProcess) (e : FlowError) : String :=
  p.id ++ ": " ++ e.code ++ " (" ++ e.message ++ ")\n" ++
    String.join (e.reasons.map fun reason => "  - " ++ reason ++ "\n") ++
    (if e.failedInstances.isEmpty then ""
     else "  failed on: " ++ ", ".intercalate e.failedInstances ++ "\n")

def serve (s : Session) (m : Manager (Control Planes)) (p : TransferProcess) :
    Run (Control Planes) (String × Option FlowError) := do
  let outcome ← if s.terminates then do
      pure ((← m.terminate p).map fun _ => "terminated")
    else do pure ((← m.initiate p .none).map fun _ => "dispatched")
  match outcome with
  | .ok verdict => pure (p.id ++ ": " ++ verdict ++ "\n", none)
  | .error e =>
      Run.emit .requestFailed
      pure (failureText p e, some e)

def readProcess (files : String → Except FileFault String) (path : String) :
    Except Complaint TransferProcess := do
  match files path with
  | .error fault => throw ⟨"reading transfer process " ++ path, [fault.message], false⟩
  | .ok text =>
      match Json.decodeText TransferProcess.decode text with
      | .ok p => pure p
      | .error _ => throw ⟨"parsing " ++ path, [], true⟩

/-- The whole run. `series` distinguishes its request ids from those of other runs. -/
def run (s : Session) (files : String → Except FileFault String) (network : Http.Network)
    (dice : Dice) (series : Nat) : Report :=
  let m := s.manager network
  let ready := s.setUp ⟨.new (s.strategy dice), default, series, 0⟩
  match s.processPath with
  | none => ⟨0, listing m ready.state, "", ready.events⟩
  | some path =>
      match readProcess files path with
      | .error c => { Report.failed c with events := ready.events }
      | .ok p =>
          let served := s.serve m p ready.state
          let events := ready.events ++ served.events
          match served.result with
          | (out, none) => ⟨0, out, "", events⟩
          | (out, some e) => ⟨1, out, (Complaint.plain e.message).text, events⟩

end Session

end FlowBroker.CommandLine
