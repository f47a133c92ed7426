namespace FlowBroker.Yaml

def isBreak (c : Char) : Bool :=
  c = '\n' || c = '\r' || c = '\u0085' || c = '\u2028' || c = '\u2029'

def isBlank (c : Char) : Bool := c = ' ' || c = '\t'

def isPrintable (c : Char) : Bool :=
  let n := c.toNat
  n = 0x9 || n = 0xA || n = 0xD || n = 0x85 || (0x20 ≤ n && n ≤ 0x7E) ||
    (0xA0 ≤ n && n ≤ 0xFFFD) || 0x10000 ≤ n

structure Cursor where
  rest : List Char
  index : Nat
  line : Nat
  column : Nat

namespace Cursor

def start (cs : List Char) : Cursor := ⟨cs, 0, 0, 0⟩

def peek? (c : Cursor) : Option Char := c.rest.head?

def peekAt? (c : Cursor) (n : Nat) : Option Char := c.rest[n]?

def isAt (c : Cursor) (x : Char) : Bool := c.peek? = some x

def atEnd (c : Cursor) : Bool := c.rest.isEmpty

def gapAt (c : Cursor) (n : Nat) : Bool :=
  match c.peekAt? n with
  | none => true
  | some x => isBlank x || isBreak x

def lineEndAt (c : Cursor) (n : Nat) : Bool :=
  match c.peekAt? n with
  | none => true
  | some x => isBreak x

def blankHere (c : Cursor) : Bool := c.peek?.any isBlank

def breakHere (c : Cursor) : Bool := c.peek?.any isBreak

def skip (c : Cursor) : Cursor := ⟨c.rest.tail, c.index + 1, c.line, c.column + 1⟩

def skipMany (c : Cursor) (n : Nat) : Cursor := ⟨c.rest.drop n, c.index + n, c.line, c.column + n⟩

/-- Past a line break, which is one character or a return and a line feed. -/
def skipLine (c : Cursor) : Cursor :=
  match c.rest with
  | '\r' :: '\n' :: r => ⟨r, c.index + 2, c.line + 1, 0⟩
  | _ :: r => ⟨r, c.index + 1, c.line + 1, 0⟩
  | [] => c

def lineBreak (c : Cursor) : Char :=
  match c.peek? with
  | some '\u2028' => '\u2028'
  | some '\u2029' => '\u2029'
  | _ => '\n'

/-- Past the characters that a test accepts, none of which may be a line break. -/
def skipWhile (c : Cursor) (p : Char → Bool) : Cursor :=
  c.skipMany (c.rest.takeWhile p).length

def skipComment (c : Cursor) : Cursor :=
  if c.isAt '#' then c.skipWhile (!isBreak ·) else c

def atDocumentMark (c : Cursor) : Bool :=
  c.column = 0 && (c.rest.take 3 = ['-', '-', '-'] || c.rest.take 3 = ['.', '.', '.']) && c.gapAt 3

end Cursor

end FlowBroker.Yaml
