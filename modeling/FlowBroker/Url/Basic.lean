import FlowBroker.Url.Host

namespace FlowBroker

/-- Who and where: the part of a URL behind `//`. Name and password are percent-encoded. -/
structure Authority where
  user : String
  password : Option String
  host : Host
  port : Option UInt16
  deriving DecidableEq, Repr

/-- An absolute URL. Path, query and fragment are percent-encoded. A path that starts with `/` is
a list of segments; any other nonempty path is opaque. -/
structure Url where
  scheme : String
  authority : Option Authority
  path : List Char
  query : Option String
  fragment : Option String
  deriving DecidableEq, Repr

inductive SchemeKind where
  | file
  | special
  | other
  deriving DecidableEq, Repr

def SchemeKind.ofScheme (scheme : String) : SchemeKind :=
  if scheme = "file" then .file
  else if ["http", "https", "ws", "wss", "ftp"].contains scheme then .special
  else .other

def SchemeKind.isSpecial (k : SchemeKind) : Bool := k != .other

namespace Url

def defaultPort? (scheme : String) : Option UInt16 :=
  if scheme = "http" || scheme = "ws" then some 80
  else if scheme = "https" || scheme = "wss" then some 443
  else if scheme = "ftp" then some 21
  else none

def kind (u : Url) : SchemeKind := .ofScheme u.scheme

def credentials (a : Authority) : String :=
  match a.user, a.password with
  | "", none => ""
  | user, none => user ++ "@"
  | user, some password => user ++ ":" ++ password ++ "@"

def authorityText (a : Authority) : String :=
  "//" ++ credentials a ++ a.host.toString ++
    match a.port with
    | none => ""
    | some p => ":" ++ toString p.toNat

/-- A path that begins with two slashes is kept apart from an authority by `/.`. -/
def pathText (u : Url) : List Char :=
  match u.authority, u.path with
  | none, '/' :: '/' :: cs => '/' :: '.' :: '/' :: '/' :: cs
  | _, cs => cs

def toString (u : Url) : String :=
  u.scheme ++ ":" ++ (u.authority.elim "" authorityText) ++ String.ofList u.pathText ++
    (u.query.elim "" ("?" ++ ·)) ++ (u.fragment.elim "" ("#" ++ ·))

instance : ToString Url := ⟨toString⟩

def isOpaque (u : Url) : Bool := u.authority.isNone && u.path.head? != some '/'

def decoded? (s : String) : Option String := Utf8.strict? (Percent.decode s.toList)

/-- Whether name and password can be sent: there is one, and the name is a text. -/
def hasCredentials (a : Authority) : Bool :=
  (decoded? a.user).any fun user => user ≠ "" || (a.password.bind decoded?).isSome

def withoutCredentials (u : Url) : Url :=
  { u with authority := u.authority.map fun a =>
      if hasCredentials a then { a with user := "", password := none } else a }

end Url

end FlowBroker
