import FlowBroker.Json.Source

namespace FlowBroker

inductive Status where
  | errorRetry
  | fatalError
  deriving DecidableEq, Repr

namespace Status

def name : Status → String
  | errorRetry => "ERROR_RETRY"
  | fatalError => "FATAL_ERROR"

def decode (j : Json) : Decoded Status :=
  j.variant ("ERROR_RETRY", errorRetry) ("FATAL_ERROR", fatalError)

def worse : Status → Status → Status
  | errorRetry, s => s
  | fatalError, _ => fatalError

end Status

structure Failure where
  status : Status
  reasons : List String
  deriving DecidableEq, Repr

namespace Failure

def retry (reason : String) : Failure := ⟨.errorRetry, [reason]⟩

def fatal (reason : String) : Failure := ⟨.fatalError, [reason]⟩

def isRetryable (f : Failure) : Bool := f.status = .errorRetry

def combine (f g : Failure) : Failure := ⟨f.status.worse g.status, f.reasons ++ g.reasons⟩

def message (f : Failure) : String := f.status.name ++ ": " ++ "; ".intercalate f.reasons

end Failure

abbrev Outcome (α : Type) := Except Failure α

namespace Outcome

variable {α : Type}

/-- Of two successes the first; a failure otherwise. -/
def merge : Outcome α → Outcome α → Outcome α
  | .ok a, .ok _ => .ok a
  | .ok _, .error g => .error g
  | .error f, .ok _ => .error f
  | .error f, .error g => .error (f.combine g)

def reduce (outcomes : List (Outcome Unit)) : Outcome Unit := outcomes.foldl merge (.ok ())

end Outcome

end FlowBroker
