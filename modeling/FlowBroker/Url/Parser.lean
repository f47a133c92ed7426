import FlowBroker.Url.Path

namespace FlowBroker.Url

def isTrimmed (c : Char) : Bool := c ≤ ' '

def trim (cs : List Char) : List Char :=
  ((cs.dropWhile isTrimmed).reverse.dropWhile isTrimmed).reverse

def isSchemeChar (c : Char) : Bool := c.isAlphanum || c = '+' || c = '-' || c = '.'

def scheme? (cs : List Char) : Option (String × List Char) :=
  match cs.head?.any Char.isAlpha, cs.dropWhile isSchemeChar with
  | true, ':' :: rest => some (String.ofList ((cs.takeWhile isSchemeChar).map Char.toLower), rest)
  | _, _ => none

def endsAuthority (k : SchemeKind) (c : Char) : Bool :=
  c = '/' || c = '?' || c = '#' || (k.isSpecial && c = '\\')

def splitLastAt (cs : List Char) : Option (List Char × List Char) :=
  let behind := (cs.reverse.takeWhile (· ≠ '@')).reverse
  if behind.length = cs.length then none
  else some (cs.take (cs.length - behind.length - 1), behind)

def userinfo (cs : List Char) : String × Option String :=
  let escape (cs : List Char) := String.ofList (Percent.encode Percent.userinfo cs)
  let name := cs.takeWhile (· ≠ ':')
  match cs.dropWhile (· ≠ ':') with
  | [] | [_] => (escape name, none)
  | _ :: password => (escape name, some (escape password))

def hostLength : Bool → List Char → Nat
  | _, [] => 0
  | inside, c :: cs =>
      if c = ':' && !inside then 0
      else hostLength (if c = '[' then true else if c = ']' then false else inside) cs + 1

/-- The port behind its colon: nothing if it is empty or the one that the scheme implies. -/
def port (scheme : String) (cs : List Char) : Except UrlError (Option UInt16) :=
  if cs.all Char.isDigit then
    let n := cs.foldl (fun n c => n * 10 + (c.toNat - 48)) 0
    if 65535 < n then .error .badPort
    else if cs.isEmpty || defaultPort? scheme = some n.toUInt16 then .ok none
    else .ok (some n.toUInt16)
  else .error .badPort

def hostAndPort (scheme : String) (cs : List Char) : Except UrlError (Host × Option UInt16) := do
  let k := SchemeKind.ofScheme scheme
  let n := hostLength false cs
  let name := cs.take n
  let behind := cs.drop n
  if name.isEmpty then
    if k.isSpecial || !behind.isEmpty then throw .emptyHost
    pure (.domain "", none)
  else
    let host ← if k.isSpecial then Host.special name else Host.opaqueHost name
    match behind with
    | _ :: digits => pure (host, ← port scheme (digits.takeWhile (· ≠ '\\')))
    | [] => pure (host, none)

def authorityOf (scheme : String) (cs : List Char) : Except UrlError Authority := do
  match splitLastAt cs with
  | none =>
      let (host, port) ← hostAndPort scheme cs
      pure ⟨"", none, host, port⟩
  | some (info, rest) =>
      let (user, password) := userinfo info
      let (host, port) ← hostAndPort scheme rest
      if host = .domain "" && (user ≠ "" || password.isSome) then throw .emptyHost
      pure ⟨user, password, host, port⟩

def splitTail (cs : List Char) : List Char × List Char :=
  (cs.takeWhile (fun c => c ≠ '?' && c ≠ '#'), cs.dropWhile (fun c => c ≠ '?' && c ≠ '#'))

def tail (k : SchemeKind) (cs : List Char) : Option String × Option String :=
  let fragment : List Char → Option String
    | '#' :: cs => some (String.ofList (Percent.encode Percent.fragment cs))
    | _ => none
  match cs with
  | '?' :: cs =>
      let set := if k.isSpecial then Percent.specialQuery else Percent.query
      (some (String.ofList (Percent.encode set (cs.takeWhile (· ≠ '#')))),
        fragment (cs.dropWhile (· ≠ '#')))
  | cs => (none, fragment cs)

def assemble (scheme : String) (authority : Option Authority) (path rest : List Char) : Url :=
  let (query, fragment) := tail (.ofScheme scheme) rest
  ⟨scheme, authority, path, query, fragment⟩

def pathAfterHost (k : SchemeKind) (cs : List Char) : List Char :=
  match cs with
  | [] => if k.isSpecial then ['/'] else []
  | c :: rest =>
      if c = '/' || (k.isSpecial && c = '\\') then Path.ofChars k rest else Path.ofChars k cs

/-- A URL whose authority begins at the front of `cs`. An `@` alone is no authority of a path. -/
def afterSlashes (scheme : String) (cs : List Char) : Except UrlError Url := do
  let k := SchemeKind.ofScheme scheme
  let name := cs.takeWhile (!endsAuthority k ·)
  let behind := cs.dropWhile (!endsAuthority k ·)
  if name = ['@'] && !behind.isEmpty then throw .emptyHost
  let authority ← authorityOf scheme name
  let (path, rest) := splitTail behind
  pure (assemble scheme (some authority) (pathAfterHost k path) rest)

def isSlash (c : Char) : Bool := c = '/' || c = '\\'

def noHost : Authority := ⟨"", none, .domain "", none⟩

/-- A `file` URL: its host may be missing, and `localhost` is the same as none. -/
def fileUrl (cs : List Char) : Except UrlError Url := do
  let local_ (path : List Char) : Url :=
    let (path, rest) := splitTail path
    let path := match path with
      | c :: cs => if isSlash c then cs else c :: cs
      | [] => []
    assemble "file" (some noHost) (Path.ofChars .file path) rest
  match cs with
  | a :: b :: cs =>
      if isSlash a && isSlash b then
        let name := cs.takeWhile (!endsAuthority .file ·)
        if name.isEmpty || Path.isDriveLetter name then pure (local_ cs)
        else
          let host ← Host.special name
          let (path, rest) := splitTail (cs.dropWhile (!endsAuthority .file ·))
          let authority := if host = .domain "localhost" then noHost else ⟨"", none, host, none⟩
          pure (assemble "file" (some authority) (pathAfterHost .file path) rest)
      else pure (local_ (a :: b :: cs))
  | cs => pure (local_ cs)

def withoutAuthority (scheme : String) (cs : List Char) : Url :=
  let (path, rest) := splitTail cs
  match path with
  | '/' :: path => assemble scheme none (Path.ofChars .other path) rest
  | path => assemble scheme none (Percent.encode Percent.opaquePath path) rest

def parse (text : String) : Except UrlError Url :=
  match scheme? ((trim text.toList).filter (!Path.isIgnored ·)) with
  | none => .error .noScheme
  | some (scheme, rest) =>
      match SchemeKind.ofScheme scheme with
      | .file => fileUrl rest
      | .special => afterSlashes scheme (rest.dropWhile isSlash)
      | .other =>
          match rest with
          | '/' :: '/' :: rest => afterSlashes scheme rest
          | rest => .ok (withoutAuthority scheme rest)

theorem of_afterSlashes {scheme : String} {cs : List Char} {u : Url}
    (h : afterSlashes scheme cs = .ok u) : u.scheme = scheme ∧ u.authority.isSome := by
  unfold afterSlashes at h
  simp only [bind, Except.bind] at h
  split at h
  · cases h
  · split at h <;> cases h
    exact ⟨rfl, rfl⟩

theorem scheme_of_fileUrl {cs : List Char} {u : Url} (h : fileUrl cs = .ok u) :
    u.scheme = "file" := by
  simp only [fileUrl, bind, Except.bind] at h
  split at h
  · split at h
    · split at h
      · cases h
        rfl
      · split at h <;> cases h
        rfl
    · cases h
      rfl
  · cases h
    rfl

theorem scheme_withoutAuthority (scheme : String) (cs : List Char) :
    (withoutAuthority scheme cs).scheme = scheme := by
  unfold withoutAuthority
  split
  split <;> rfl

theorem authority_isSome_of_parse {text : String} {u : Url} (h : parse text = .ok u)
    (hkind : u.kind = .special) : u.authority.isSome := by
  unfold parse at h
  split at h
  · cases h
  · next scheme rest _ =>
    cases hscheme : SchemeKind.ofScheme scheme with
    | file =>
        rw [hscheme] at h
        rw [kind, scheme_of_fileUrl h] at hkind
        cases hkind
    | special =>
        rw [hscheme] at h
        exact (of_afterSlashes h).2
    | other =>
        simp only [hscheme] at h
        split at h
        · exact (of_afterSlashes h).2
        · cases h
          rw [kind, scheme_withoutAuthority, hscheme] at hkind
          cases hkind

end FlowBroker.Url
