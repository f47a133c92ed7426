import FlowBroker.Yaml.Lexer

namespace FlowBroker.Yaml

/-- Anchored nodes are numbered in the order in which they begin. An alias holds the number of the
node it stands for, and it may lie inside of that node. -/
inductive Node where
  | scalar (text : String) (style : Style) (tag : Option String)
  | sequence (items : List Node)
  | mapping (entries : List (Node × Node))
  | alias (number : Nat)
  deriving Inhabited

def Node.absent : Node := .scalar "" .plain none

structure Parsing where
  tokens : List Token
  handles : List (String × String)
  names : List (String × Nat)
  anchored : List (Nat × Node)

abbrev Parser := StateT Parsing Option

namespace Parser

def peek? : Parser (Option Token) := do return (← get).tokens.head?

def skip : Parser Unit := modify fun p => { p with tokens := p.tokens.tail }

def accept (t : Token) : Parser Bool := do
  if (← peek?) = some t then do
    skip
    return true
  else return false

def expect (t : Token) : Parser Unit := do
  if !(← accept t) then failure

def isNext (ts : List Token) : Parser Bool := do return (← peek?).any ts.contains

def tagName (handle suffix : String) : Parser String := do
  if handle = "" then return suffix
  match (← get).handles.lookup handle with
  | some start => return start ++ suffix
  | none => failure

def takeAnchor? : Parser (Option String) := do
  match ← peek? with
  | some (.anchor name) =>
      skip
      return some name
  | _ => return none

def takeTag? : Parser (Option String) := do
  match ← peek? with
  | some (.tag handle suffix) =>
      skip
      return some (← tagName handle suffix)
  | _ => return none

def properties : Parser (Option String × Option String) := do
  match ← takeAnchor? with
  | some name => return (some name, ← takeTag?)
  | none =>
      let tag ← takeTag?
      if tag.isSome then return (← takeAnchor?, tag) else return (none, none)

def number (name : String) : Parser Nat := do
  let n := (← get).names.length
  modify fun p => { p with names := (name, n) :: p.names }
  return n

def keep (n : Nat) (node : Node) : Parser Unit :=
  modify fun p => { p with anchored := (n, node) :: p.anchored }

mutual

/-- A node. The fuel bounds the depth of the calls. -/
def node : Nat → (block indentless : Bool) → Parser Node
  | 0, _, _ => failure
  | fuel + 1, block, indentless => do
      match ← peek? with
      | some (.alias name) =>
          skip
          match (← get).names.lookup name with
          | some n => return .alias n
          | none => failure
      | _ =>
          let (anchor, tag) ← properties
          match anchor with
          | none => content fuel tag false block indentless
          | some name =>
              let n ← number name
              let node ← content fuel tag true block indentless
              keep n node
              return node

def content : Nat → Option String → (anchored block indentless : Bool) → Parser Node
  | 0, _, _, _, _ => failure
  | fuel + 1, tag, anchored, block, indentless => do
      match ← peek?, block, indentless with
      | some .dash, _, true => .sequence <$> indentlessItems fuel
      | some (.scalar text style), _, _ =>
          skip
          return .scalar text style tag
      | some .openSequence, _, _ =>
          skip
          .sequence <$> flowItems fuel true
      | some .openMapping, _, _ =>
          skip
          .mapping <$> flowEntries fuel true
      | some .blockSequence, true, _ =>
          skip
          .sequence <$> blockItems fuel
      | some .blockMapping, true, _ =>
          skip
          .mapping <$> blockEntries fuel
      | _, _, _ =>
          if anchored || tag.isSome then return .scalar "" .plain tag else failure

def nodeUnless : Nat → List Token → (block indentless : Bool) → Parser Node
  | 0, _, _, _ => failure
  | fuel + 1, stops, block, indentless => do
      if ← isNext stops then return .absent else node fuel block indentless

def blockItems : Nat → Parser (List Node)
  | 0 => failure
  | fuel + 1 => do
      if ← accept .blockEnd then return []
      expect .dash
      let item ← nodeUnless fuel [.dash, .blockEnd] true false
      return item :: (← blockItems fuel)

def indentlessItems : Nat → Parser (List Node)
  | 0 => failure
  | fuel + 1 => do
      if ← accept .dash then
        let item ← nodeUnless fuel [.dash, .key, .value, .blockEnd] true false
        return item :: (← indentlessItems fuel)
      else return []

def blockEntries : Nat → Parser (List (Node × Node))
  | 0 => failure
  | fuel + 1 => do
      if ← accept .blockEnd then return []
      expect .key
      let stops := [.key, .value, .blockEnd]
      let key ← nodeUnless fuel stops true true
      let value ← if ← accept .value then nodeUnless fuel stops true true else pure .absent
      return (key, value) :: (← blockEntries fuel)

def flowItems : Nat → (first : Bool) → Parser (List Node)
  | 0, _ => failure
  | fuel + 1, first => do
      if ← accept .closeSequence then return []
      if !first then
        expect .comma
        if ← accept .closeSequence then return []
      let item ← if ← accept .key then flowPair fuel else node fuel false false
      return item :: (← flowItems fuel false)

/-- A single entry as an item of a sequence. Where it has no key, the token in the key's place is
passed over. -/
def flowPair : Nat → Parser Node
  | 0 => failure
  | fuel + 1 => do
      let stops := [.value, .comma, .closeSequence]
      let noKey ← isNext stops
      let key ← nodeUnless fuel stops false false
      if noKey then skip
      let value ← flowValue fuel .closeSequence
      return .mapping [(key, value)]

def flowEntries : Nat → (first : Bool) → Parser (List (Node × Node))
  | 0, _ => failure
  | fuel + 1, first => do
      if ← accept .closeMapping then return []
      if !first then
        expect .comma
        if ← accept .closeMapping then return []
      let entry ← if ← accept .key then do
          let key ← nodeUnless fuel [.value, .comma, .closeMapping] false false
          pure (key, ← flowValue fuel .closeMapping)
        else do pure (← node fuel false false, .absent)
      return entry :: (← flowEntries fuel false)

def flowValue : Nat → (close : Token) → Parser Node
  | 0, _ => failure
  | fuel + 1, close => do
      if ← accept .value then nodeUnless fuel [.comma, close] false false else return .absent

end

/-- The directives of a document, of which `seen` says whether there was one of the version: what
tag handles stand for. -/
def directives : Nat → (seen : Bool) → List (String × String) → Parser (List (String × String))
  | 0, _, _ => failure
  | fuel + 1, seen, handles => do
      match ← peek? with
      | some (.version major minor) =>
          if seen || major ≠ 1 || (minor ≠ 1 && minor ≠ 2) then failure
          skip
          directives fuel true handles
      | some (.tagHandle handle start) =>
          if (handles.lookup handle).isSome then failure
          skip
          directives fuel seen ((handle, start) :: handles)
      | _ => return handles

def defaultHandles : List (String × String) := [("!", "!"), ("!!", "tag:yaml.org,2002:")]

def atDocumentEnd : Parser Bool := do
  match ← peek? with
  | none | some .documentStart | some .documentEnd => return true
  | some (.version _ _) | some (.tagHandle _ _) => return true
  | _ => return false

def document (fuel : Nat) : Parser Node := do
  let bare := !(← atDocumentEnd)
  let handles ← directives fuel false []
  modify fun p => { p with handles := handles ++ defaultHandles }
  if !bare then expect .documentStart
  let root ← if !bare && (← atDocumentEnd) then pure .absent else node fuel true false
  modify fun p => { p with tokens := p.tokens.dropWhile (· = .documentEnd) }
  if (← peek?).isSome then failure
  return root

end Parser

/-- A node and all nodes of its document that have a number. -/
structure Tree where
  node : Node
  anchored : List (Nat × Node)

def read (text : String) : Option Tree := do
  let ts ← tokens text
  let (root, p) ← (Parser.document (4 * ts.length + 8)).run ⟨ts, [], [], []⟩
  pure ⟨root, p.anchored⟩

end FlowBroker.Yaml
