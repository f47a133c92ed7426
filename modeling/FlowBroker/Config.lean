import FlowBroker.FileTree
import FlowBroker.Json.Source
import FlowBroker.Log
import FlowBroker.Plane.Selector
import FlowBroker.Yaml.Source

namespace FlowBroker

structure ControlConfig where
  callback : Option String
  requireCallback : Bool
  strategy : String
  timeout : UInt64
  deriving DecidableEq

structure Config where
  logLevel : String
  logDirectory : String
  logFile : String
  jsonLog : Bool
  rotation : String
  control : ControlConfig
  planes : List Instance
  deriving DecidableEq

inductive ConfigError where
  | unreadable (path : String) (fault : FileFault)
  | malformed
  | unknownRotation (name : String)
  | badCallback (text : String) (error : UrlError)
  | unknownStrategy (name : String)
  | noTimeout
  | namelessPlane (url : Url)
  | duplicatePlane (id : String)
  deriving DecidableEq

namespace ConfigError

def objection? : ConfigError → Option String
  | unknownRotation name =>
      some ("rotation `" ++ name ++ "` (expected hourly, daily or never)")
  | badCallback text error => some ("callback_url `" ++ text ++ "`: " ++ error.message)
  | unknownStrategy name => some ("unknown selection strategy `" ++ name ++ "`")
  | noTimeout => some "client_timeout_ms must be > 0"
  | namelessPlane url => some ("data plane at " ++ url.toString ++ " has an empty id")
  | duplicatePlane id => some ("duplicate data plane id `" ++ id ++ "`")
  | unreadable _ _ | malformed => none

/-- What a reader of the error is told. On faults of notation there is more to say than this. -/
def message (e : ConfigError) : String :=
  match e with
  | unreadable path fault => "Failed to read config file " ++ path ++ ": " ++ fault.message
  | malformed => "Failed to parse config yaml"
  | e => "Invalid configuration: " ++ e.objection?.getD ""

end ConfigError

namespace ControlConfig

variable {δ : Type} [Source δ]

def callbackField : Field δ (Option String) := ⟨"callback_url", [], Source.option Source.string⟩

def requireCallbackField : Field δ Bool := ⟨"require_callback", [], Source.flag⟩

def strategyField : Field δ String := ⟨"selection_strategy", [], Source.string⟩

def timeoutField : Field δ UInt64 := ⟨"client_timeout_ms", [], Source.natural⟩

def default : ControlConfig := ⟨none, false, (Strategy.roundRobin 0).name, 30000⟩

def fields : List (Field δ Unit) :=
  [callbackField.check, requireCallbackField.check, strategyField.check, timeoutField.check]

def decode (d : δ) : Decoded ControlConfig := do
  let s ← Record.read "ControlConfig" fields d
  pure { callback := ← Record.defaulted callbackField default.callback s
         requireCallback := ← Record.defaulted requireCallbackField default.requireCallback s
         strategy := ← Record.defaulted strategyField default.strategy s
         timeout := ← Record.defaulted timeoutField default.timeout s }

def encode (c : ControlConfig) : Json :=
  .object [("callback_url", Json.ofOption .string c.callback),
    ("require_callback", .bool c.requireCallback), ("selection_strategy", .string c.strategy),
    ("client_timeout_ms", Json.ofNat c.timeout.toNat)]

def callbackUrl (c : ControlConfig) : Except ConfigError (Option Url) :=
  match c.callback with
  | none => .ok none
  | some text =>
      match Url.parse text with
      | .ok u => .ok (some u)
      | .error e => .error (.badCallback text e)

end ControlConfig

def Strategy.ofName (name : String) : Except ConfigError (Dice → Strategy) :=
  match ofName? name with
  | some s => .ok s
  | none => .error (.unknownStrategy name)

def Rotation.ofName (name : String) : Except ConfigError Rotation :=
  match ofName? name with
  | some r => .ok r
  | none => .error (.unknownRotation name)

namespace Config

variable {δ : Type} [Source δ]

def logLevelField : Field δ String := ⟨"log_level", [], Source.string⟩

def logDirectoryField : Field δ String := ⟨"log_dir", [], Source.string⟩

def logFileField : Field δ String := ⟨"log_file", [], Source.string⟩

def jsonLogField : Field δ Bool := ⟨"use_json", [], Source.flag⟩

def rotationField : Field δ String := ⟨"rotation", [], Source.string⟩

def controlField : Field δ ControlConfig := ⟨"control", [], ControlConfig.decode⟩

def planesField : Field δ (List Instance) := ⟨"data_planes", [], Source.list Instance.decode⟩

def fields : List (Field δ Unit) :=
  [logLevelField.check, logDirectoryField.check, logFileField.check, jsonLogField.check,
    rotationField.check, controlField.check, planesField.check]

def decode (d : δ) : Decoded Config := do
  let s ← Record.read "AppConfig" fields d
  pure { logLevel := ← Record.required logLevelField s
         logDirectory := ← Record.required logDirectoryField s
         logFile := ← Record.required logFileField s
         jsonLog := ← Record.required jsonLogField s
         rotation := ← Record.required rotationField s
         control := ← Record.defaulted controlField .default s
         planes := ← Record.defaulted planesField [] s }

def encode (c : Config) : Json :=
  .object [("log_level", .string c.logLevel), ("log_dir", .string c.logDirectory),
    ("log_file", .string c.logFile), ("use_json", .bool c.jsonLog),
    ("rotation", .string c.rotation), ("control", c.control.encode),
    ("data_planes", .array (c.planes.map Instance.encode))]

def checkPlanes : (seen : List String) → List Instance → Except ConfigError Unit
  | _, [] => .ok ()
  | seen, i :: is =>
      if i.id = "" then .error (.namelessPlane i.url)
      else if seen.contains i.id then .error (.duplicatePlane i.id)
      else checkPlanes (i.id :: seen) is

def validate (c : Config) : Except ConfigError Unit := do
  let _ ← Rotation.ofName c.rotation
  let _ ← c.control.callbackUrl
  let _ ← Strategy.ofName c.control.strategy
  if c.control.timeout = 0 then throw .noTimeout
  checkPlanes [] c.planes

def ofYaml (text : String) : Except ConfigError Config := do
  match (Yaml.read text).map decode with
  | some (.ok c) =>
      c.validate
      pure c
  | _ => throw .malformed

def ofFile (files : String → Except FileFault String) (path : String) : Except ConfigError Config :=
  match files path with
  | .ok text => ofYaml text
  | .error fault => .error (.unreadable path fault)

def path (environment : String) : String := "config/" ++ environment ++ ".yaml"

def selector (c : Config) (dice : Dice) : Except ConfigError Selector := do
  let strategy ← Strategy.ofName c.control.strategy
  pure (.withInstances (strategy dice) c.planes)

/-- How often a new log file is begun; without a valid choice, never. -/
def logRotation (c : Config) : Rotation := (Rotation.ofName? c.rotation).getD .never

def logPath (c : Config) (hour : Nat) : String :=
  c.logDirectory ++ "/" ++ c.logRotation.fileName c.logFile hour

def logFilter (c : Config) : LogFilter × List String :=
  LogFilter.parse (LogFilter.defaultDirectives c.logLevel)

end Config

end FlowBroker
