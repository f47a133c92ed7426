import FlowBroker.Text.Basic
import FlowBroker.Yaml.Scalar

namespace FlowBroker.Yaml

inductive Style where
  | plain
  | quoted
  | literal
  | folded
  deriving DecidableEq, Repr

inductive Token where
  | version (major minor : Nat)
  | tagHandle (handle start : String)
  | documentStart
  | documentEnd
  | blockSequence
  | blockMapping
  | blockEnd
  | openSequence
  | closeSequence
  | openMapping
  | closeMapping
  | dash
  | comma
  | key
  | value
  | alias (name : String)
  | anchor (name : String)
  | tag (handle suffix : String)
  | scalar (text : String) (style : Style)
  deriving DecidableEq, Repr

def isWord (c : Char) : Bool := c.isAlphanum || c = '-' || c = '_'

def word (c : Cursor) : String × Cursor :=
  (String.ofList (c.rest.takeWhile isWord), c.skipWhile isWord)

def anchorName (c : Cursor) : Option (String × Cursor) :=
  let (name, c) := word c.skip
  if name ≠ "" && (c.gapAt 0 || c.peek?.any "?:,]\x7d%@`".toList.contains) then some (name, c)
  else none

def isUriChar (brackets : Bool) (c : Char) : Bool :=
  isWord c || ";/?:@&=+$.!~*'()%".toList.contains c ||
    (brackets && (c = ',' || c = '[' || c = ']'))

def unescape? : List Char → Option (List UInt8)
  | [] => some []
  | '%' :: a :: b :: cs => do pure ((← Digit.byte? a b) :: (← unescape? cs))
  | c :: cs => if c = '%' then none else (unescape? cs).map (Utf8.encode [c] ++ ·)

def uri (brackets : Bool) (c : Cursor) : Option (String × Cursor) := do
  let text ← Utf8.strict? (← unescape? (c.rest.takeWhile (isUriChar brackets)))
  pure (text, c.skipWhile (isUriChar brackets))

def tagStart (c : Cursor) : String × Cursor :=
  let (name, c) := word c.skip
  if c.isAt '!' then ("!" ++ name ++ "!", c.skip) else ("!" ++ name, c)

def isHandle (start : String) : Bool := 2 ≤ start.length && start.endsWith "!"

def tag (c : Cursor) : Option (Token × Cursor) :=
  if c.peekAt? 1 = some '<' then do
    let (name, c) ← uri true (c.skipMany 2)
    if name = "" || !c.isAt '>' then none else pure (.tag "" name, c.skip)
  else do
    let (start, c) := tagStart c
    let (suffix, c) ← uri false c
    if isHandle start then
      if suffix = "" then none else pure (.tag start suffix, c)
    else
      let name := (start.drop 1).toString ++ suffix
      pure (if name = "" then .tag "" "!" else .tag "!" name, c)

def shortNumber (c : Cursor) : Option (Nat × Cursor) :=
  let digits := c.rest.takeWhile Char.isDigit
  if 1 ≤ digits.length && digits.length ≤ 9 then
    (Digit.number? 10 digits).map fun n => (n, c.skipMany digits.length)
  else none

def versionDirective (c : Cursor) : Option (Token × Cursor) := do
  let (major, c) ← shortNumber (c.skipWhile isBlank)
  if !c.isAt '.' then none
  let (minor, c) ← shortNumber c.skip
  pure (.version major minor, c)

def tagDirective (c : Cursor) : Option (Token × Cursor) := do
  let c := c.skipWhile isBlank
  if !c.isAt '!' then none
  let (handle, c) := tagStart c
  if (handle ≠ "!" && !isHandle handle) || !c.blankHere then none
  let (start, c) ← uri true (c.skipWhile isBlank)
  if start = "" || !c.gapAt 0 then none
  pure (.tagHandle handle start, c)

def directive (c : Cursor) : Option (Token × Cursor) := do
  let (name, c) := word c.skip
  if !c.gapAt 0 then none
  let (token, c) ← if name = "YAML" then versionDirective c
    else if name = "TAG" then tagDirective c else none
  let c := (c.skipWhile isBlank).skipComment
  if c.lineEndAt 0 then pure (token, c.skipLine) else none

end FlowBroker.Yaml
