import FlowBroker.Plane.Instance
import FlowBroker.Run
import FlowBroker.Status
import FlowBroker.Url.Path

namespace FlowBroker.Remote

def transferSegment : String := "transfer"

def endpoint (base : Url) (segments : List String) : Outcome Url :=
  match base.extend? segments with
  | some u => .ok u
  | none => .error (.fatal ("data plane url " ++ base.toString ++ " cannot be a base"))

def transferEndpoint (base : Url) : Outcome Url := endpoint base [transferSegment]

def processEndpoint (base : Url) (process : String) : Outcome Url :=
  endpoint base [transferSegment, process]

/-- The characters that a URL may have in its host and a request may not. -/
def isUnsendable (c : Char) : Bool := ['"', '\x60', '\x7b', '\x7d'].contains c

def isRequestable (u : Url) : Bool :=
  (u.scheme = "http" || u.scheme = "https") &&
    !u.authority.any fun a => a.host.toString.toList.any isUnsendable

def invalidRequest (u : Url) : Failure :=
  .fatal ("invalid request: builder error for url (" ++ u.withoutCredentials.toString ++ ")")

def transportFailure (u : Url) : Failure :=
  .retry ("transport error: error sending request for url (" ++
    u.withoutCredentials.toString ++ ")")

def statusFailure (r : Http.Response) : Failure :=
  let reason := "data plane responded " ++ Http.statusText r.status ++
    (if r.text = "" then "" else ": " ++ r.text)
  if Http.isServerError r.status then .retry reason else .fatal reason

/-- Has the HTTP client send a request. The state counts the requests that it was asked to send. -/
def send (network : Http.Network) (request : Http.Request) : Run Nat (Outcome Http.Response) :=
  fun sent =>
    if isRequestable request.url then
      match network sent request with
      | some r => ⟨.ok r, sent + 1, [.requestSent request]⟩
      | none => ⟨.error (transportFailure request.url), sent + 1, [.requestSent request]⟩
    else ⟨.error (invalidRequest request.url), sent, []⟩

def transfer (network : Http.Network) (i : Instance) (r : Request) : Run Nat (Outcome Unit) := do
  match transferEndpoint i.url with
  | .error f => pure (.error f)
  | .ok url =>
      Run.emit (.requestPrepared i.id)
      match ← send network ⟨.post, url, some r.encode⟩ with
      | .error f => pure (.error f)
      | .ok response =>
          if Http.isSuccess response.status then pure (.ok ())
          else do
            Run.emit (.transferRejected i.id)
            pure (.error (statusFailure response))

def terminate (network : Http.Network) (i : Instance) (process : String) :
    Run Nat (Outcome Unit) := do
  match processEndpoint i.url process with
  | .error f => pure (.error f)
  | .ok url =>
      match ← send network ⟨.delete, url, none⟩ with
      | .error f => pure (.error f)
      | .ok response =>
          if Http.isSuccess response.status then pure (.ok ())
          else if response.status = 404 then do
            Run.emit (.flowNotFound i.id process)
            pure (.ok ())
          else pure (.error (statusFailure response))

def sendable? (method : Http.Method) (body : Option Json) : Outcome Url → Option Http.Request
  | .ok url => if isRequestable url then some ⟨method, url, body⟩ else none
  | .error _ => none

theorem of_sendable?_eq_some {method : Http.Method} {body : Option Json} {url : Outcome Url}
    {h : Http.Request} (hsendable : sendable? method body url = some h) :
    url = .ok h.url ∧ h.method = method ∧ h.body = body := by
  cases url with
  | error f => cases hsendable
  | ok u =>
      rw [sendable?] at hsendable
      split at hsendable
      · cases hsendable
        exact ⟨rfl, rfl, rfl⟩
      · cases hsendable

section

variable {network : Http.Network} {sent : Nat}

theorem requestsSent_send {method : Http.Method} {body : Option Json} {url : Url} :
    requestsSent (send network ⟨method, url, body⟩ sent).events =
      (sendable? method body (.ok url)).toList := by
  rw [send, sendable?]
  split
  · cases network sent ⟨method, url, body⟩ <;> rfl
  · rfl

theorem requestsSent_transfer {i : Instance} {r : Request} :
    requestsSent (transfer network i r sent).events =
      (sendable? .post (some r.encode) (transferEndpoint i.url)).toList := by
  rw [transfer]
  cases transferEndpoint i.url with
  | error f => rfl
  | ok url =>
      rw [← @requestsSent_send network sent]
      simp only [Run.bind_apply, Run.emit, requestsSent_append]
      cases (send network ⟨.post, url, some r.encode⟩ sent).result with
      | error f => exact List.append_nil _
      | ok response =>
          simp only
          split <;> exact List.append_nil _

theorem requestsSent_terminate {i : Instance} {process : String} :
    requestsSent (terminate network i process sent).events =
      (sendable? .delete none (processEndpoint i.url process)).toList := by
  rw [terminate]
  cases processEndpoint i.url process with
  | error f => rfl
  | ok url =>
      rw [← @requestsSent_send network sent]
      simp only [Run.bind_apply, requestsSent_append]
      cases (send network ⟨.delete, url, none⟩ sent).result with
      | error f => exact List.append_nil _
      | ok response =>
          simp only
          split
          · exact List.append_nil _
          · split <;> exact List.append_nil _

end

end FlowBroker.Remote
