import FlowBroker.Url.Basic

namespace FlowBroker.Path

def isIgnored (c : Char) : Bool := c = '\t' || c = '\n' || c = '\r'

def dot? : List Char → Option (List Char)
  | '.' :: cs => some cs
  | '%' :: '2' :: 'e' :: cs => some cs
  | '%' :: '2' :: 'E' :: cs => some cs
  | _ => none

def isSingleDot (cs : List Char) : Bool := dot? cs == some []

def isDoubleDot (cs : List Char) : Bool := (dot? cs).any isSingleDot

def isDriveLetter : List Char → Bool
  | [c, d] => c.isAlpha && (d = ':' || d = '|')
  | _ => false

def kept (kind : SchemeKind) (cs : List Char) : List Char :=
  match kind, cs with
  | .file, [c, d] => if isDriveLetter [c, d] then [c, ':'] else [c, d]
  | _, cs => cs

/-- Takes the last of the segments away, listed last first. A lone drive letter stays. -/
def shorten (kind : SchemeKind) : List (List Char) → List (List Char)
  | [] => []
  | [s] => if kind = .file && isDriveLetter s then [s] else []
  | _ :: ss => ss

def text (segments : List (List Char)) : List Char := segments.flatMap ('/' :: ·)

/-- Adds the segments of `cs` to those in `done`, which are listed last first. `pending` is the
segment being read, its characters last first. -/
def collect (kind : SchemeKind) (done : List (List Char)) (pending : List Char) :
    List Char → List (List Char)
  | [] =>
      let s := pending.reverse
      if isDoubleDot s then ([] :: shorten kind done).reverse
      else if isSingleDot s then ([] :: done).reverse
      else (kept kind s :: done).reverse
  | c :: cs =>
      if c = '/' || (kind.isSpecial && c = '\\') then
        let s := pending.reverse
        if isDoubleDot s then collect kind (shorten kind done) [] cs
        else if isSingleDot s then collect kind done [] cs
        else collect kind (kept kind s :: done) [] cs
      else collect kind done ((Percent.encodeChar Percent.path c).reverse ++ pending) cs

def trimFile (kind : SchemeKind) (segments : List (List Char)) : List (List Char) :=
  match kind with
  | .file => match segments.dropWhile List.isEmpty with
      | [] => [[]]
      | ss => ss
  | _ => segments

def ofChars (kind : SchemeKind) (cs : List Char) : List Char :=
  text (trimFile kind (collect kind [] [] cs))

def upToSlash (cs : List Char) : List Char := (cs.reverse.dropWhile (· ≠ '/')).reverse

def parent (path : List Char) : List Char :=
  if path = ['/'] then path else upToSlash path.dropLast

def dropTrailingSlash : List Char → List Char
  | [] => []
  | ['/'] => ['/']
  | cs => if cs.getLast? = some '/' then cs.dropLast else cs

def opened (path : List Char) : List Char := if path = ['/'] then path else path ++ ['/']

def segmentEscapes (kind : SchemeKind) : Percent.Escapes :=
  if kind.isSpecial then Percent.specialSegment else Percent.segment

def segmentText (kind : SchemeKind) (s : List Char) : List Char :=
  Percent.encode (segmentEscapes kind) (s.filter (!isIgnored ·))

/-- A path with one more segment. The segments `.` and `..` are passed over; a segment that is one
of them only after its tabs and line breaks are dropped acts as it does in a path that is read. -/
def push (kind : SchemeKind) (path s : List Char) : List Char :=
  if s = ['.'] || s = ['.', '.'] then path
  else
    let t := segmentText kind s
    if isDoubleDot t then parent (opened path)
    else if isSingleDot t then opened path
    else opened path ++ kept kind t

end FlowBroker.Path

namespace FlowBroker.Url

/-- The URL with the segments added behind its path, less one trailing slash of it. A URL with an
opaque path has no such URL. -/
def extend? (u : Url) (segments : List String) : Option Url :=
  if u.isOpaque then none
  else some { u with
    path := segments.foldl (fun p s => Path.push u.kind p s.toList)
      (Path.dropTrailingSlash u.path) }

end FlowBroker.Url
