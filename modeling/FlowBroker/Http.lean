import FlowBroker.Json
import FlowBroker.Text.Basic
import FlowBroker.Url.Basic

namespace FlowBroker.Http

inductive Method where
  /-- What a client that follows a redirect may make of another method. -/
  | get
  | post
  | delete
  deriving DecidableEq, Repr

structure Request where
  method : Method
  url : Url
  body : Option Json

structure Response where
  status : Nat
  /-- The bytes of the body; none if the connection ends before the body does. -/
  body : Option (List UInt8)
  deriving DecidableEq, Repr

/-- What the HTTP client hands back for the requests it is asked to send in a run, by the number of
requests before each. Where an answer redirects, that is what it finds at the end. Nothing comes
back where an exchange fails. -/
abbrev Network := Nat → Request → Option Response

def unreachable : Network := fun _ _ => none

def phrases : List (Nat × String) := [
  (100, "Continue"), (101, "Switching Protocols"), (102, "Processing"), (103, "Early Hints"),
  (200, "OK"), (201, "Created"), (202, "Accepted"), (203, "Non Authoritative Information"),
  (204, "No Content"), (205, "Reset Content"), (206, "Partial Content"), (207, "Multi-Status"),
  (208, "Already Reported"), (226, "IM Used"), (300, "Multiple Choices"),
  (301, "Moved Permanently"), (302, "Found"), (303, "See Other"), (304, "Not Modified"),
  (305, "Use Proxy"), (307, "Temporary Redirect"), (308, "Permanent Redirect"),
  (400, "Bad Request"), (401, "Unauthorized"), (402, "Payment Required"), (403, "Forbidden"),
  (404, "Not Found"), (405, "Method Not Allowed"), (406, "Not Acceptable"),
  (407, "Proxy Authentication Required"), (408, "Request Timeout"), (409, "Conflict"),
  (410, "Gone"), (411, "Length Required"), (412, "Precondition Failed"),
  (413, "Payload Too Large"), (414, "URI Too Long"), (415, "Unsupported Media Type"),
  (416, "Range Not Satisfiable"), (417, "Expectation Failed"), (418, "I'm a teapot"),
  (421, "Misdirected Request"), (422, "Unprocessable Entity"), (423, "Locked"),
  (424, "Failed Dependency"), (425, "Too Early"), (426, "Upgrade Required"),
  (428, "Precondition Required"), (429, "Too Many Requests"),
  (431, "Request Header Fields Too Large"), (451, "Unavailable For Legal Reasons"),
  (500, "Internal Server Error"), (501, "Not Implemented"), (502, "Bad Gateway"),
  (503, "Service Unavailable"), (504, "Gateway Timeout"), (505, "HTTP Version Not Supported"),
  (506, "Variant Also Negotiates"), (507, "Insufficient Storage"), (508, "Loop Detected"),
  (510, "Not Extended"), (511, "Network Authentication Required")]

def statusText (status : Nat) : String :=
  toString status ++ " " ++ (phrases.lookup status).getD "<unknown status code>"

def isSuccess (status : Nat) : Bool := 200 ≤ status && status ≤ 299

def isServerError (status : Nat) : Bool := 500 ≤ status && status ≤ 599

/-- A body as text, without a leading byte order mark. A body that cannot be read has none. It is
taken to be UTF-8: no header names another charset, and no mark of UTF-16 is at its front. -/
def Response.text (r : Response) : String :=
  match r.body with
  | some (0xEF :: 0xBB :: 0xBF :: bytes) => Utf8.lossy bytes
  | some bytes => Utf8.lossy bytes
  | none => ""

end FlowBroker.Http
