import FlowBroker.CommandLine
import Std.Time.DateTime.Timestamp

namespace FlowBroker

open CommandLine (Report)

/-- The fault behind an error code of the system, which may come with a minus sign. -/
def FileFault.ofCode (code : UInt32) : FileFault :=
  let code := min code (-code)
  if code = 20 then notDirectory
  else if code = 21 then isDirectory
  else if code = 36 then nameTooLong
  else if code = 22 then nulInName
  else notFound

def FileFault.ofError : IO.Error → FileFault
  | .noFileOrDirectory _ code _ | .inappropriateType _ code _ | .invalidArgument _ code _ =>
      ofCode code
  | _ => notFound

def readFile (path : String) : IO (Except FileFault String) := do
  try
    let bytes ← IO.FS.readBinFile path
    return match Utf8.strict? bytes.toList with
      | some text => .ok text
      | none => .error .notText
  catch e => return .error (.ofError e)

def LogLine.text (l : LogLine) (json : Bool) : String :=
  if json then
    Json.render (.object [("level", .string l.level.name),
      ("fields", .object [("message", .string l.message)]), ("target", .string l.target)])
  else l.level.name ++ " " ++ l.target ++ ": " ++ l.message

def appendLog (c : Config) (hour : Nat) (lines : List LogLine) : IO Unit := do
  IO.FS.createDirAll c.logDirectory
  let log ← IO.FS.Handle.mk (c.logPath hour) .append
  for l in lines do log.putStrLn (l.text c.jsonLog)

def finish (r : Report) : IO UInt32 := do
  IO.print r.out
  IO.eprint r.err
  return r.exit

end FlowBroker

open FlowBroker in
def main (args : List String) : IO UInt32 := do
  let words := (← IO.appPath).toString :: args
  let config ← readFile (Config.path (CommandLine.environment words))
  match CommandLine.Session.load words fun _ => config with
  | .error c => finish (.failed c)
  | .ok session =>
      let (filter, notes) := session.config.logFilter
      for note in notes do IO.eprintln note
      let hour := (← Std.Time.Timestamp.now).toSecondsSinceUnixEpoch.val.toNat / 3600
      appendLog session.config hour []
      let process ← readFile (session.processPath.getD "")
      let dice := Dice.spread (← IO.rand 0 0x1000000000000000)
      let series ← IO.rand 0 0x1000000000000000
      let report := session.run (fun _ => process) Http.unreachable dice series
      appendLog session.config hour (logLines filter report.events)
      finish report
