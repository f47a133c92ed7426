import FlowBroker.Json.Numeral
import FlowBroker.Text.Basic

namespace FlowBroker.Json

/-- A text as a tree, and whether only blanks follow it. Reading never fails: a fault becomes a node
of the tree, in the place where it is met, and nothing behind it is read. -/
structure Document where
  root : Json
  ended : Bool

def isBlank (c : Char) : Bool := c = ' ' || c = '\n' || c = '\t' || c = '\r'

def skipBlanks (cs : List Char) : List Char := cs.dropWhile isBlank

def isHigh (n : Nat) : Bool := 0xD800 ≤ n && n ≤ 0xDBFF

def isLow (n : Nat) : Bool := 0xDC00 ≤ n && n ≤ 0xDFFF

def pair (high low : Nat) : Char := Char.ofNat (0x10000 + (high - 0xD800) * 0x400 + (low - 0xDC00))

def escape? : Char → Option Char
  | '"' => some '"'
  | '\\' => some '\\'
  | '/' => some '/'
  | 'b' => some '\x08'
  | 'f' => some '\x0c'
  | 'n' => some '\n'
  | 'r' => some '\r'
  | 't' => some '\t'
  | _ => none

structure Partial where
  done : List Char
  high : Option Nat
  sound : Bool

namespace Partial

def empty : Partial := ⟨[], none, true⟩

def push (p : Partial) (c : Char) : Partial := ⟨c :: p.done, none, p.sound && p.high.isNone⟩

def unit (p : Partial) (n : Nat) : Partial :=
  match p.high with
  | some h => if isLow n then ⟨pair h n :: p.done, none, p.sound⟩ else ⟨p.done, none, false⟩
  | none =>
      if isHigh n then ⟨p.done, some n, p.sound⟩
      else if isLow n then ⟨p.done, none, false⟩
      else p.push (Char.ofNat n)

def text? (p : Partial) : Option String :=
  if p.sound && p.high.isNone then some (String.ofList p.done.reverse) else none

end Partial

/-- Reads on behind an opening quote: nothing if the text breaks, no string if half a surrogate
pair stands alone. -/
def readString (p : Partial) : List Char → Option (Option String × List Char)
  | [] => none
  | ['\\'] => none
  | '\\' :: 'u' :: a :: b :: c :: d :: r =>
      match Digit.number? 16 [a, b, c, d] with
      | some n => readString (p.unit n) r
      | none => none
  | '\\' :: e :: r =>
      match escape? e with
      | some c => readString (p.push c) r
      | none => none
  | c :: r =>
      if c = '"' then some (p.text?, r) else if c < ' ' then none else readString (p.push c) r

def expect? : List Char → List Char → Option (List Char)
  | [], cs => some cs
  | w :: ws, c :: cs => if w = c then expect? ws cs else none
  | _ :: _, [] => none

def word (w : List Char) (j : Json) (cs : List Char) : Json × Option (List Char) :=
  match expect? w cs with
  | some r => (j, some r)
  | none => (.fault .broken, none)

structure Members where
  read : List (String × Json)
  fault : Option Fault
  rest : Option (List Char)

def Members.toJson (m : Members) : Json :=
  match m.fault with
  | none => .object m.read
  | some f => .torn m.read f

/-- Puts a member in front. Behind a key that has no value, only whether the rest can be skipped
is of interest. -/
def Members.cons (key : Option String) (value : Json) (m : Members) : Members :=
  match key with
  | some k => ⟨(k, value) :: m.read, m.fault, m.rest⟩
  | none =>
      let skips := skippable value && skippableMembers m.read && m.fault != some .broken
      ⟨[], some (if skips then .valueless else .broken), m.rest⟩

mutual

/-- A value and the text behind it. The fuel bounds the calls: two for each character suffice. -/
def readValue : Nat → List Char → Json × Option (List Char)
  | 0, _ => (.fault .broken, none)
  | fuel + 1, cs =>
      match skipBlanks cs with
      | [] => (.fault .broken, none)
      | c :: r =>
          if c = '"' then
            match readString .empty r with
            | some (some s, r) => (.string s, some r)
            | some (none, r) => (.fault .valueless, some r)
            | none => (.fault .broken, none)
          else if c = '[' then
            match skipBlanks r with
            | ']' :: r => (.array [], some r)
            | r => let (js, rest) := readItems fuel r; (.array js, rest)
          else if c = '{' then
            match skipBlanks r with
            | '}' :: r => (.object [], some r)
            | r => let m := readMembers fuel r; (m.toJson, m.rest)
          else if c = 'n' then word ['u', 'l', 'l'] .null r
          else if c = 't' then word ['r', 'u', 'e'] (.bool true) r
          else if c = 'f' then word ['a', 'l', 's', 'e'] (.bool false) r
          else
            match Numeral.read (c :: r) with
            | some (n, r) => (n.value?.elim (.fault .valueless) .number, some r)
            | none => (.fault .broken, none)

def readItems : Nat → List Char → List Json × Option (List Char)
  | 0, _ => ([.fault .broken], none)
  | fuel + 1, cs =>
      match readValue fuel cs with
      | (j, none) => ([j], none)
      | (j, some r) =>
          match skipBlanks r with
          | ']' :: r => ([j], some r)
          | ',' :: r =>
              match skipBlanks r with
              | ']' :: _ => ([j, .fault .broken], none)
              | r => let (js, rest) := readItems fuel r; (j :: js, rest)
          | _ => ([j, .fault .broken], none)

def readMembers : Nat → List Char → Members
  | 0, _ => ⟨[], some .broken, none⟩
  | fuel + 1, cs =>
      match cs with
      | '"' :: r =>
          match readString .empty r with
          | none => ⟨[], some .broken, none⟩
          | some (key, r) =>
              match skipBlanks r with
              | ':' :: r =>
                  match readValue fuel r with
                  | (j, none) => Members.cons key j ⟨[], none, none⟩
                  | (j, some r) =>
                      match skipBlanks r with
                      | '}' :: r => Members.cons key j ⟨[], none, some r⟩
                      | ',' :: r => Members.cons key j (readMembers fuel (skipBlanks r))
                      | _ => Members.cons key j ⟨[], some .broken, none⟩
              | _ => Members.cons key (.fault .broken) ⟨[], none, none⟩
      | _ => ⟨[], some .broken, none⟩

end

def read (text : String) : Document :=
  let cs := text.toList
  match readValue (2 * cs.length + 2) cs with
  | (j, none) => ⟨j, false⟩
  | (j, some r) => ⟨j, (skipBlanks r).isEmpty⟩

end FlowBroker.Json
