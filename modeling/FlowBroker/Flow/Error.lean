import FlowBroker.Status

namespace FlowBroker

inductive FlowError where
  | noCapableWorker (source destination : String)
  | noMatchingController (process : String)
  | dispatchFailure (failure : Failure)
  | terminationPartialFailure (failure : Failure) (instances : List String)
  | configurationMissing (what : String)
  deriving DecidableEq, Repr

namespace FlowError

def code : FlowError → String
  | noCapableWorker _ _ => "NO_CAPABLE_WORKER"
  | noMatchingController _ => "NO_MATCHING_CONTROLLER"
  | dispatchFailure _ => "DISPATCH_FAILURE"
  | terminationPartialFailure _ _ => "TERMINATION_PARTIAL_FAILURE"
  | configurationMissing _ => "CONFIGURATION_MISSING"

def message : FlowError → String
  | noCapableWorker source destination =>
      "No data plane can move data from `" ++ source ++ "` to `" ++ destination ++ "`"
  | noMatchingController process => "No flow controller can handle transfer process " ++ process
  | dispatchFailure failure => "Dispatch to data plane failed: " ++ failure.message
  | terminationPartialFailure failure instances =>
      "Termination failed on data planes [" ++ ", ".intercalate instances ++ "]: " ++
        failure.message
  | configurationMissing what => "Missing configuration: " ++ what

/-- Whether trying again later may help; a capable data plane may join at any time. -/
def isRetryable : FlowError → Bool
  | noCapableWorker _ _ => true
  | dispatchFailure failure => failure.isRetryable
  | terminationPartialFailure failure _ => failure.isRetryable
  | noMatchingController _ => false
  | configurationMissing _ => false

def reasons : FlowError → List String
  | dispatchFailure failure => failure.reasons
  | terminationPartialFailure failure _ => failure.reasons
  | e => [e.message]

def failedInstances : FlowError → List String
  | terminationPartialFailure _ instances => instances
  | _ => []

def status (e : FlowError) : Status := if e.isRetryable then .errorRetry else .fatalError

end FlowError

end FlowBroker
