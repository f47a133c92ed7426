import FlowBroker.Plane.Remote
import FlowBroker.Proofs.Utf8Reading
import Mathlib.Data.List.Basic

namespace FlowBroker

def Outcome.category? {α : Type} : Outcome α → Option Status
  | .ok _ => none
  | .error f => some f.status

namespace Http

def byteOrderMark : List UInt8 := [0xEF, 0xBB, 0xBF]

def withoutMark (bytes : List UInt8) : List UInt8 :=
  if byteOrderMark.isPrefixOf bytes then bytes.drop 3 else bytes

theorem withoutMark_append (bytes : List UInt8) : withoutMark (byteOrderMark ++ bytes) = bytes := by
  rfl

theorem withoutMark_of_unmarked {bytes : List UInt8} (h : ¬byteOrderMark <+: bytes) :
    withoutMark bytes = bytes := by
  rw [withoutMark, if_neg (mt List.isPrefixOf_iff_prefix.1 h)]

theorem Response.text_eq {r : Response} {bytes : List UInt8} (h : r.body = some bytes) :
    r.text = Utf8.lossy (withoutMark bytes) := by
  rw [text, h]
  split
  · next rest hbytes =>
      cases hbytes
      rfl
  · next bytes' hno hbytes =>
      cases hbytes
      rw [withoutMark_of_unmarked]
      rintro ⟨rest, rfl⟩
      exact hno rest rfl
  · next hnone => cases hnone

theorem unmarked_encode {cs : List Char} (h : cs.head? ≠ some '\uFEFF') :
    ¬byteOrderMark <+: Utf8.encode cs := by
  rintro ⟨rest, hbytes⟩
  have hmark : byteOrderMark = Utf8.encode ['\uFEFF'] := by decide
  have hchars : Utf8.chars (Utf8.encode cs) = cs.map some := by
    simpa [Utf8.chars] using Utf8.chars_encode_append cs []
  rw [← hbytes, hmark, Utf8.chars_encode_append] at hchars
  cases cs with
  | nil => cases hchars
  | cons c cs =>
      simp only [List.map_cons, List.map_nil, List.singleton_append, List.cons.injEq,
        Option.some.injEq] at hchars
      exact h (congrArg some hchars.1.symm)

structure Response.QuotedBy (r : Response) (reason : String) : Prop where
  lossily : ∀ bytes, r.body = some bytes → Utf8.lossy (withoutMark bytes) ≠ "" →
    ∃ before, reason = before ++ Utf8.lossy (withoutMark bytes)
  verbatim : ∀ text : String, text ≠ "" → text.toList.head? ≠ some '\uFEFF' →
    (r.body = some (Utf8.encode text.toList) ∨
      r.body = some (byteOrderMark ++ Utf8.encode text.toList)) →
    ∃ before, reason = before ++ text

theorem Response.quotedBy_of_text {r : Response} {reason : String}
    (h : r.text ≠ "" → ∃ before, reason = before ++ r.text) : r.QuotedBy reason := by
  constructor
  · intro bytes hbytes
    rw [← text_eq hbytes]
    exact h
  · intro text hne hmark hbytes
    have htext : r.text = text := by
      rcases hbytes with hbytes | hbytes
      · rw [text_eq hbytes, withoutMark_of_unmarked (unmarked_encode hmark), Utf8.lossy_encode,
          String.ofList_toList]
      · rw [text_eq hbytes, withoutMark_append, Utf8.lossy_encode, String.ofList_toList]
    exact htext ▸ h (htext ▸ hne)

end Http

namespace Remote

theorem endpoint_of_isOpaque {base : Url} (h : base.isOpaque = true) (segments : List String) :
    endpoint base segments =
      .error (.fatal ("data plane url " ++ base.toString ++ " cannot be a base")) := by
  rw [endpoint, Url.extend?, if_pos h]

theorem exists_endpoint {base : Url} (h : base.isOpaque = false) (segments : List String) :
    ∃ url, endpoint base segments = .ok url ∧ url.scheme = base.scheme := by
  rw [endpoint, Url.extend?, if_neg (by simp [h])]
  exact ⟨_, rfl, rfl⟩

theorem isSuccess_iff {status : Nat} :
    Http.isSuccess status = true ↔ 200 ≤ status ∧ status ≤ 299 := by
  simp [Http.isSuccess]

theorem isServerError_iff {status : Nat} :
    Http.isServerError status = true ↔ 500 ≤ status ∧ status ≤ 599 := by
  simp [Http.isServerError]

theorem isRequestable_of_scheme {url : Url} (hhttp : url.scheme ≠ "http")
    (hhttps : url.scheme ≠ "https") : isRequestable url = false := by
  simp [isRequestable, hhttp, hhttps]

inductive Demand where
  | transfer (r : Request)
  | terminate (process : String)

namespace Demand

def run (network : Http.Network) (i : Instance) : Demand → Run Nat (Outcome Unit)
  | transfer r => Remote.transfer network i r
  | terminate process => Remote.terminate network i process

def segments : Demand → List String
  | transfer _ => [transferSegment]
  | terminate process => [transferSegment, process]

def request (url : Url) : Demand → Http.Request
  | transfer r => ⟨.post, url, some r.encode⟩
  | terminate _ => ⟨.delete, url, none⟩

/-- The statuses that say that it is done. A flow that is not found needs no ending. -/
def IsMetBy (status : Nat) : Demand → Prop
  | transfer _ => 200 ≤ status ∧ status ≤ 299
  | terminate _ => 200 ≤ status ∧ status ≤ 299 ∨ status = 404

instance (status : Nat) (d : Demand) : Decidable (d.IsMetBy status) :=
  match d with
  | transfer _ => inferInstanceAs (Decidable (_ ∧ _))
  | terminate _ => inferInstanceAs (Decidable (_ ∨ _))

def settle (d : Demand) (response : Http.Response) : Outcome Unit :=
  if d.IsMetBy response.status then .ok () else .error (statusFailure response)

variable {network : Http.Network} {i : Instance} {d : Demand} {sent : Nat} {url : Url}

theorem run_of_unaddressed {f : Failure} (h : endpoint i.url d.segments = .error f) :
    d.run network i sent = ⟨.error f, sent, []⟩ := by
  cases d with
  | transfer r =>
      have hurl : transferEndpoint i.url = .error f := h
      rw [run, Remote.transfer, hurl]
      rfl
  | terminate process =>
      have hurl : processEndpoint i.url process = .error f := h
      rw [run, Remote.terminate, hurl]
      rfl

theorem requestsSent_run (h : endpoint i.url d.segments = .ok url) :
    requestsSent (d.run network i sent).events =
      if isRequestable url then [d.request url] else [] := by
  cases d with
  | transfer r =>
      have hurl : transferEndpoint i.url = .ok url := h
      rw [run, requestsSent_transfer, hurl, sendable?]
      split <;> rfl
  | terminate process =>
      have hurl : processEndpoint i.url process = .ok url := h
      rw [run, requestsSent_terminate, hurl, sendable?]
      split <;> rfl

theorem run_of_addressed (h : endpoint i.url d.segments = .ok url) :
    (d.run network i sent).result = (send network (d.request url) sent).result >>= d.settle ∧
      (d.run network i sent).state = (send network (d.request url) sent).state := by
  cases d with
  | transfer r =>
      have hurl : transferEndpoint i.url = .ok url := h
      rw [run, Remote.transfer, hurl, request]
      simp only [Run.bind_apply, Run.emit]
      cases (send network ⟨.post, url, some r.encode⟩ sent).result with
      | error f => exact ⟨rfl, rfl⟩
      | ok response =>
          by_cases hsuccess : Http.isSuccess response.status = true
          · have hmet : (transfer r).IsMetBy response.status := isSuccess_iff.1 hsuccess
            simp only [if_pos hsuccess]
            exact ⟨(if_pos hmet).symm, rfl⟩
          · have hunmet : ¬(transfer r).IsMetBy response.status := mt isSuccess_iff.2 hsuccess
            simp only [if_neg hsuccess]
            exact ⟨(if_neg hunmet).symm, rfl⟩
  | terminate process =>
      have hurl : processEndpoint i.url process = .ok url := h
      rw [run, Remote.terminate, hurl, request]
      simp only [Run.bind_apply]
      cases (send network ⟨.delete, url, none⟩ sent).result with
      | error f => exact ⟨rfl, rfl⟩
      | ok response =>
          by_cases hsuccess : Http.isSuccess response.status = true
          · have hmet : (terminate process).IsMetBy response.status :=
              .inl (isSuccess_iff.1 hsuccess)
            simp only [if_pos hsuccess]
            exact ⟨(if_pos hmet).symm, rfl⟩
          · by_cases hmissing : response.status = 404
            · have hmet : (terminate process).IsMetBy response.status := .inr hmissing
              simp only [if_neg hsuccess, if_pos hmissing]
              exact ⟨(if_pos hmet).symm, rfl⟩
            · have hunmet : ¬(terminate process).IsMetBy response.status :=
                not_or.2 ⟨mt isSuccess_iff.2 hsuccess, hmissing⟩
              simp only [if_neg hsuccess, if_neg hmissing]
              exact ⟨(if_neg hunmet).symm, rfl⟩

theorem request_url (d : Demand) (url : Url) : (d.request url).url = url := by
  cases d <;> rfl

theorem run_of_unsendable (h : endpoint i.url d.segments = .ok url)
    (hurl : isRequestable url = false) :
    (d.run network i sent).result = .error (invalidRequest url) ∧
      (d.run network i sent).state = sent := by
  rw [(run_of_addressed h).1, (run_of_addressed h).2, send, request_url, if_neg (by simp [hurl])]
  exact ⟨rfl, rfl⟩

theorem run_of_silence (h : endpoint i.url d.segments = .ok url) (hurl : isRequestable url = true)
    (hanswer : network sent (d.request url) = none) :
    (d.run network i sent).result = .error (transportFailure url) := by
  rw [(run_of_addressed h).1, send, request_url, if_pos hurl, hanswer]
  rfl

theorem run_of_answer (h : endpoint i.url d.segments = .ok url) (hurl : isRequestable url = true)
    {response : Http.Response} (hanswer : network sent (d.request url) = some response) :
    (d.run network i sent).result = d.settle response := by
  rw [(run_of_addressed h).1, send, request_url, if_pos hurl, hanswer]
  rfl

theorem state_run (h : endpoint i.url d.segments = .ok url) (hurl : isRequestable url = true) :
    (d.run network i sent).state = sent + 1 := by
  rw [(run_of_addressed h).2, send, request_url, if_pos hurl]
  cases network sent (d.request url) <;> rfl

theorem settle_eq_ok_iff {response : Http.Response} :
    d.settle response = .ok () ↔ d.IsMetBy response.status := by
  rw [settle]
  split <;> simp_all

theorem category?_settle_congr {response response' : Http.Response}
    (h : response'.status = response.status) :
    (d.settle response').category? = (d.settle response).category? := by
  rw [settle, settle, h]
  split
  · rfl
  · simp only [Outcome.category?, statusFailure, h]
    split <;> rfl

end Demand

theorem statusFailure_status (r : Http.Response) :
    (statusFailure r).status = .errorRetry ↔ 500 ≤ r.status ∧ r.status ≤ 599 := by
  rw [statusFailure, ← isServerError_iff]
  split <;> simp_all [Failure.retry, Failure.fatal]

theorem statusFailure_reasons (r : Http.Response) :
    ∃ reason, (statusFailure r).reasons = [reason] ∧ r.QuotedBy reason := by
  let reason := "data plane responded " ++ Http.statusText r.status ++
    (if r.text = "" then "" else ": " ++ r.text)
  have hreasons : (statusFailure r).reasons = [reason] := by
    rw [statusFailure]
    split <;> rfl
  have hquoted : r.text ≠ "" → ∃ before, reason = before ++ r.text := by
    intro hne
    refine ⟨"data plane responded " ++ Http.statusText r.status ++ ": ", ?_⟩
    simp only [reason, if_neg hne, String.append_assoc]
  exact ⟨reason, hreasons, r.quotedBy_of_text hquoted⟩

/-- A call fails for good, for one reason, before a request is sent. -/
structure Withheld (sent : Nat) (ran : Ran Nat (Outcome Unit)) : Prop where
  result : ∃ reason, ran.result = .error (.fatal reason)
  requests : requestsSent ran.events = []
  state : ran.state = sent

structure Judged (d : Demand) (response : Http.Response) (result : Outcome Unit) : Prop where
  ok_iff : result = .ok () ↔ d.IsMetBy response.status
  retry_iff : ∀ f, result = .error f →
    (f.status = .errorRetry ↔ 500 ≤ response.status ∧ response.status ≤ 599)
  reasons : ∀ f, result = .error f → ∃ reason, f.reasons = [reason] ∧ response.QuotedBy reason

/-- A call sends its one request, and what comes back is judged by its status. -/
structure Exchanged (network : Http.Network) (i : Instance) (d : Demand) (sent : Nat) (url : Url)
    (ran : Ran Nat (Outcome Unit)) : Prop where
  requests : requestsSent ran.events = [d.request url]
  state : ran.state = sent + 1
  silent : network sent (d.request url) = none → ∃ reason, ran.result = .error (.retry reason)
  judged : ∀ response, network sent (d.request url) = some response →
    Judged d response ran.result
  category_eq : ∀ response, network sent (d.request url) = some response →
    ∀ network' sent' response', network' sent' (d.request url) = some response' →
      response'.status = response.status →
      (d.run network' i sent').result.category? = ran.result.category?

theorem judged_settle (d : Demand) (response : Http.Response) :
    Judged d response (d.settle response) := by
  have hfailed {f : Failure} (hf : d.settle response = .error f) : f = statusFailure response := by
    rw [Demand.settle] at hf
    split at hf <;> cases hf
    rfl
  refine ⟨Demand.settle_eq_ok_iff, ?_, ?_⟩
  · intro f hf
    rw [hfailed hf]
    exact statusFailure_status response
  · intro f hf
    rw [hfailed hf]
    exact statusFailure_reasons response

section

variable {network : Http.Network} {i : Instance} {d : Demand} {sent : Nat} {url : Url}

theorem withheld_of_isOpaque (h : i.url.isOpaque = true) :
    Withheld sent (d.run network i sent) := by
  rw [Demand.run_of_unaddressed (endpoint_of_isOpaque h d.segments)]
  exact ⟨⟨_, rfl⟩, rfl, rfl⟩

theorem withheld_of_unsendable (h : endpoint i.url d.segments = .ok url)
    (hurl : isRequestable url = false) : Withheld sent (d.run network i sent) := by
  have hran : (d.run network i sent).result = .error (invalidRequest url) ∧
      (d.run network i sent).state = sent := Demand.run_of_unsendable h hurl
  refine ⟨⟨_, hran.1⟩, ?_, hran.2⟩
  rw [Demand.requestsSent_run h, hurl]
  rfl

theorem exchanged_of_sendable (h : endpoint i.url d.segments = .ok url)
    (hurl : isRequestable url = true) : Exchanged network i d sent url (d.run network i sent) := by
  refine ⟨?_, Demand.state_run h hurl, fun hnone => ⟨_, Demand.run_of_silence h hurl hnone⟩, ?_, ?_⟩
  · rw [Demand.requestsSent_run h, hurl]
    rfl
  · intro response hanswer
    rw [Demand.run_of_answer h hurl hanswer]
    exact judged_settle d response
  · intro response hanswer network' sent' response' hanswer' hstatus
    rw [Demand.run_of_answer h hurl hanswer, Demand.run_of_answer h hurl hanswer']
    exact Demand.category?_settle_congr hstatus

end

/-- A call sends at most one request, and none for a URL without segments, with a scheme that is
not one of HTTP or with a host that HTTP does not know; then it fails for good. Without an answer it
may be tried again. With one, the status decides, whatever the body. -/
theorem call_judged_by_status (network : Http.Network) (i : Instance) (d : Demand) (sent : Nat) :
    let ran := d.run network i sent
    (requestsSent ran.events).length ≤ 1 ∧
      (i.url.isOpaque = true → Withheld sent ran) ∧
      (i.url.scheme ≠ "http" → i.url.scheme ≠ "https" → Withheld sent ran) ∧
      (i.url.isOpaque = false → ∃ url, endpoint i.url d.segments = .ok url ∧
        (isRequestable url = false → Withheld sent ran) ∧
        (isRequestable url = true → Exchanged network i d sent url ran)) := by
  intro ran
  cases hbase : i.url.isOpaque with
  | true =>
      have hwithheld : Withheld sent ran := withheld_of_isOpaque hbase
      refine ⟨?_, fun _ => hwithheld, fun _ _ => hwithheld, nofun⟩
      rw [hwithheld.requests]
      exact Nat.zero_le 1
  | false =>
      obtain ⟨url, hurl, hscheme⟩ := exists_endpoint hbase d.segments
      have hwithheld : isRequestable url = false → Withheld sent ran := withheld_of_unsendable hurl
      have hexchanged : isRequestable url = true → Exchanged network i d sent url ran :=
        exchanged_of_sendable hurl
      refine ⟨?_, nofun, fun hhttp hhttps => ?_, fun _ => ⟨url, hurl, hwithheld, hexchanged⟩⟩
      · cases hrequestable : isRequestable url with
        | false =>
            rw [(hwithheld hrequestable).requests]
            exact Nat.zero_le 1
        | true =>
            rw [(hexchanged hrequestable).requests]
            exact Nat.le_refl 1
      · rw [← hscheme] at hhttp hhttps
        exact hwithheld (isRequestable_of_scheme hhttp hhttps)

theorem call_judged_by_status_of_cut_body :
    let base : Url :=
      ⟨"http", some ⟨"", none, .domain "dp", some 9192⟩, "/control".toList, none, none⟩
    let i := Instance.located "dp-1" base
    let d := Demand.terminate "tp-1"
    let url : Url := { base with path := "/control/transfer/tp-1".toList }
    let down : Http.Response := ⟨503, some (Http.byteOrderMark ++ Utf8.encode "down".toList)⟩
    let cut : Http.Response := ⟨503, none⟩
    let ran := d.run (fun _ _ => some down) i 0
    requestsSent ran.events = [⟨.delete, url, none⟩] ∧ ran.result ≠ .ok () ∧
      (∀ f, ran.result = .error f → f.status = .errorRetry ∧
        ∃ before, f.reasons = [before ++ "down"]) ∧
      (d.run (fun _ _ => some cut) i 0).result.category? = ran.result.category? := by
  intro base i d url down cut ran
  have hurl : endpoint i.url d.segments = .ok url := by decide +kernel
  have hrequestable : isRequestable url = true := by decide +kernel
  obtain ⟨-, -, -, hopen⟩ := call_judged_by_status (fun _ _ => some down) i d 0
  obtain ⟨url', hurl', -, hexchanged⟩ := hopen (by decide)
  obtain rfl : url = url' := Except.ok.inj (hurl.symm.trans hurl')
  have hdone := hexchanged hrequestable
  have hjudged : Judged d down ran.result := hdone.judged down rfl
  refine ⟨hdone.requests, mt hjudged.ok_iff.1 (by decide), ?_,
    hdone.category_eq down rfl (fun _ _ => some cut) 0 cut rfl rfl⟩
  intro f hf
  obtain ⟨reason, hreasons, hquoted⟩ := hjudged.reasons f hf
  obtain ⟨before, rfl⟩ := hquoted.verbatim "down" (by decide) (by decide) (.inr rfl)
  exact ⟨(hjudged.retry_iff f hf).2 (by decide), before, hreasons⟩

end Remote

end FlowBroker
