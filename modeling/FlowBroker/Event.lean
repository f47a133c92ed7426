import FlowBroker.Http
import FlowBroker.Log
import FlowBroker.Transfer.Request

namespace FlowBroker

inductive Event where
  | started (environment : String)
  | ready
  | instanceRegistered (instanceId : String)
  | instanceUpdated (instanceId : String)
  | instanceRemoved (instanceId : String)
  | controllerRegistered (controller : String)
  | controllerMatched (controller process : String)
  | noControllerMatched (process : String)
  | planeSelected (instanceId : String)
  | clientCreated (instanceId : String)
  | transferAsked (instanceId : String) (request : Request)
  | terminationAsked (instanceId process : String)
  | requestPrepared (instanceId : String)
  | requestSent (request : Http.Request)
  | transferRejected (instanceId : String)
  | flowNotFound (instanceId process : String)
  | flowAccepted (process : String)
  | flowRenewed (process : String)
  | flowEnded (process : String)
  | flowUnknown (process : String)
  | flowDispatched (process : String)
  | dispatchFailed (process : String)
  | terminationBegun (process : String)
  | terminationIncomplete (process : String)
  | initiationDelegated (controller process : String) (policy : Policy)
  | terminationDelegated (controller process : String)
  | requestFailed

/-- The HTTP requests among events. -/
def requestsSent (events : List Event) : List Http.Request :=
  events.filterMap fun
    | .requestSent request => some request
    | _ => none

@[simp] theorem requestsSent_append (events events' : List Event) :
    requestsSent (events ++ events') = requestsSent events ++ requestsSent events' :=
  List.filterMap_append

def Event.logLine? : Event → Option LogLine
  | started environment => some ⟨.info, "dataflow_control",
      "Starting data flow control plane in " ++ environment ++ " mode"⟩
  | ready => some ⟨.info, "dataflow_control", "Flow control ready"⟩
  | instanceRegistered _ =>
      some ⟨.info, "dataflow_control::selector", "Data plane instance registered"⟩
  | instanceUpdated _ => some ⟨.info, "dataflow_control::selector", "Data plane instance updated"⟩
  | instanceRemoved _ => some ⟨.info, "dataflow_control::selector", "Data plane instance removed"⟩
  | planeSelected _ => some ⟨.debug, "dataflow_control::selector", "Data plane selected"⟩
  | controllerRegistered _ =>
      some ⟨.info, "dataflow_control::flow::manager", "Flow controller registered"⟩
  | controllerMatched _ _ =>
      some ⟨.debug, "dataflow_control::flow::manager", "Flow controller matched"⟩
  | noControllerMatched _ =>
      some ⟨.warn, "dataflow_control::flow::manager", "No flow controller matched"⟩
  | requestPrepared _ => some ⟨.debug, "dataflow_control::client::remote", "Dispatching data flow"⟩
  | transferRejected _ =>
      some ⟨.warn, "dataflow_control::client::remote", "Data plane rejected transfer"⟩
  | flowNotFound _ _ => some ⟨.warn, "dataflow_control::client::remote",
      "Data plane answered 404 on terminate, treating as no flow for process"⟩
  | flowAccepted _ => some ⟨.info, "dataflow_control::client::embedded", "Embedded flow accepted"⟩
  | flowRenewed _ =>
      some ⟨.debug, "dataflow_control::client::embedded", "Embedded flow re-dispatched"⟩
  | flowEnded _ => some ⟨.info, "dataflow_control::client::embedded", "Embedded flow terminated"⟩
  | flowUnknown _ =>
      some ⟨.debug, "dataflow_control::client::embedded", "No embedded flow to terminate"⟩
  | flowDispatched _ => some ⟨.info, "dataflow_control::flow::push", "Push flow dispatched"⟩
  | dispatchFailed _ => some ⟨.warn, "dataflow_control::flow::push", "Push flow dispatch failed"⟩
  | terminationBegun _ => some ⟨.debug, "dataflow_control::flow::push",
      "Terminating push flow on all data planes"⟩
  | terminationIncomplete _ =>
      some ⟨.warn, "dataflow_control::flow::push", "Push flow termination incomplete"⟩
  | requestFailed => some ⟨.error, "dataflow_control", "Flow request failed"⟩
  | clientCreated _ | transferAsked _ _ | terminationAsked _ _ | requestSent _
  | initiationDelegated _ _ _ | terminationDelegated _ _ => none

def logLines (filter : LogFilter) (events : List Event) : List LogLine :=
  (events.filterMap Event.logLine?).filter filter.keeps

end FlowBroker
