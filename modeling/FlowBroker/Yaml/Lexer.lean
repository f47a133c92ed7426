import FlowBroker.Yaml.Token

namespace FlowBroker.Yaml

/-- A place where a key may have begun. Whether it has shows only at the colon behind it, and then
tokens are put in there. -/
structure KeyPlace where
  tokens : Nat
  cursor : Cursor
  /-- Whether nothing but a key can stand there. -/
  required : Bool

structure Lexer where
  cursor : Cursor
  tokens : Array Token
  columns : List Nat
  keyAllowed : Bool
  key : Option KeyPlace
  outer : List (Option KeyPlace)

namespace Lexer

def start (cs : List Char) : Lexer := ⟨.start cs, #[], [], true, none, []⟩

def inFlow (l : Lexer) : Bool := !l.outer.isEmpty

def indent (l : Lexer) : Int :=
  match l.columns with
  | [] => -1
  | n :: _ => n

def emit (l : Lexer) (t : Token) : Lexer := { l with tokens := l.tokens.push t }

def take (l : Lexer) (t : Token) (length : Nat) : Lexer :=
  { l.emit t with cursor := l.cursor.skipMany length }

/-- Begins a block collection if the column is deeper than the innermost one. -/
def roll (l : Lexer) (column place : Nat) (t : Token) : Lexer :=
  if l.inFlow || column ≤ l.indent then l
  else { l with columns := column :: l.columns, tokens := l.tokens.insertIdxIfInBounds place t }

def unroll (l : Lexer) (column : Int) : Lexer :=
  if l.inFlow then l
  else
    let ended := l.columns.takeWhile fun n : Nat => column < n
    { l with
      columns := l.columns.drop ended.length
      tokens := l.tokens ++ ended.map fun _ => Token.blockEnd }

def dropKey (l : Lexer) : Option Lexer :=
  if l.key.any (·.required) then none else some { l with key := none }

def markKey (l : Lexer) : Option Lexer :=
  if l.keyAllowed then do
    let l ← l.dropKey
    let required := !l.inFlow && l.indent = l.cursor.column
    pure { l with key := some ⟨l.tokens.size, l.cursor, required⟩ }
  else some l

def isPast (l : Lexer) (k : KeyPlace) : Bool :=
  k.cursor.line < l.cursor.line || k.cursor.index + 1024 < l.cursor.index

def forget (l : Lexer) : Option Lexer :=
  if (l.key :: l.outer).any fun k => k.any fun k => k.required && l.isPast k then none
  else some { l with
    key := l.key.filter (!l.isPast ·)
    outer := l.outer.map (·.filter (!l.isPast ·)) }

/-- Past blanks, comments and line breaks. The fuel is the number of characters. -/
def skipGap : Nat → Lexer → Lexer
  | 0, l => l
  | fuel + 1, l =>
      let isGap := fun x => x = ' ' || (x = '\t' && (l.inFlow || !l.keyAllowed))
      let c := (l.cursor.skipWhile isGap).skipComment
      if c.breakHere then
        skipGap fuel { l with cursor := c.skipLine, keyAllowed := l.keyAllowed || !l.inFlow }
      else { l with cursor := c }

def leaveAll (l : Lexer) : Option Lexer := do
  let l ← (l.unroll (-1)).dropKey
  pure { l with keyAllowed := false }

def directive (l : Lexer) : Option Lexer := do
  let l ← l.leaveAll
  let (t, c) ← Yaml.directive l.cursor
  pure { l.emit t with cursor := c }

def documentMark (l : Lexer) (t : Token) : Option Lexer := do
  let l ← l.leaveAll
  pure (l.take t 3)

def openFlow (l : Lexer) (t : Token) : Option Lexer := do
  let l ← l.markKey
  pure { l.take t 1 with key := none, outer := l.key :: l.outer, keyAllowed := true }

def closeFlow (l : Lexer) (t : Token) : Option Lexer := do
  let l ← l.dropKey
  pure { l.take t 1 with
    key := l.outer.head?.join
    outer := l.outer.tail
    keyAllowed := false }

def comma (l : Lexer) : Option Lexer := do
  let l ← l.dropKey
  pure { l.take .comma 1 with keyAllowed := true }

def beginHere (l : Lexer) (t : Token) : Option Lexer :=
  if l.inFlow then some l
  else if l.keyAllowed then some (l.roll l.cursor.column l.tokens.size t)
  else none

def dash (l : Lexer) : Option Lexer := do
  let l ← (← l.beginHere .blockSequence).dropKey
  pure { l.take .dash 1 with keyAllowed := true }

def questionMark (l : Lexer) : Option Lexer := do
  let l ← (← l.beginHere .blockMapping).dropKey
  pure { l.take .key 1 with keyAllowed := !l.inFlow }

def colon (l : Lexer) : Option Lexer :=
  match l.key with
  | some k =>
      let l := { l with tokens := l.tokens.insertIdxIfInBounds k.tokens .key, key := none }
      let l := l.roll k.cursor.column k.tokens .blockMapping
      some { l.take .value 1 with keyAllowed := false }
  | none => do
      let l ← l.beginHere .blockMapping
      pure { l.take .value 1 with keyAllowed := !l.inFlow }

def anchor (l : Lexer) (t : String → Token) : Option Lexer := do
  let l ← l.markKey
  let (name, c) ← anchorName l.cursor
  pure { l.emit (t name) with cursor := c, keyAllowed := false }

def tag (l : Lexer) : Option Lexer := do
  let l ← l.markKey
  let (t, c) ← Yaml.tag l.cursor
  if c.gapAt 0 || (l.inFlow && c.isAt ',') then
    pure { l.emit t with cursor := c, keyAllowed := false }
  else none

def blockScalar (l : Lexer) (style : Style) : Option Lexer := do
  let l ← l.dropKey
  let (text, c) ← block (style = .literal) l.indent l.cursor.skip
  pure { l.emit (.scalar text style) with cursor := c, keyAllowed := true }

def quotedScalar (l : Lexer) (single : Bool) : Option Lexer := do
  let l ← l.markKey
  let c := l.cursor.skip
  let (f, c) ← quoted single (c.rest.length + 1) .empty c
  pure { l.emit (.scalar f.text .quoted) with cursor := c, keyAllowed := false }

/-- A scalar that ends where a line starts leaves room for a key. -/
def plainScalar (l : Lexer) : Option Lexer := do
  let l ← l.markKey
  let (f, c) ← plain l.inFlow l.indent (l.cursor.rest.length + 1) .empty l.cursor
  pure { l.emit (.scalar f.text .plain) with cursor := c, keyAllowed := f.multiline }

def isPlainStart (c : Char) : Bool :=
  !(isBlank c || isBreak c || "-?:,[]\x7b\x7d#&*!|>'\"%@`".toList.contains c)

def atPlain (l : Lexer) : Bool :=
  let c := l.cursor
  c.peek?.any isPlainStart ||
    (c.isAt '-' && !(c.peekAt? 1).any isBlank) ||
    (!l.inFlow && (c.isAt '?' || c.isAt ':') && !c.gapAt 1)

def next (l : Lexer) : Option Lexer :=
  let c := l.cursor
  if c.column = 0 && c.isAt '%' then l.directive
  else if c.atDocumentMark then l.documentMark (if c.isAt '-' then .documentStart else .documentEnd)
  else match c.peek? with
    | some '[' => l.openFlow .openSequence
    | some ']' => l.closeFlow .closeSequence
    | some '\x7b' => l.openFlow .openMapping
    | some '\x7d' => l.closeFlow .closeMapping
    | some ',' => l.comma
    | some '*' => l.anchor .alias
    | some '&' => l.anchor .anchor
    | some '!' => l.tag
    | some '\'' => l.quotedScalar true
    | some '"' => l.quotedScalar false
    | some x =>
        if x = '-' && c.gapAt 1 then l.dash
        else if x = '?' && (l.inFlow || c.gapAt 1) then l.questionMark
        else if x = ':' && (l.inFlow || c.gapAt 1) then l.colon
        else if x = '|' && !l.inFlow then l.blockScalar .literal
        else if x = '>' && !l.inFlow then l.blockScalar .folded
        else if l.atPlain then l.plainScalar
        else none
    | none => none

def run : Nat → Lexer → Option (List Token)
  | 0, _ => none
  | fuel + 1, l => do
      let l ← (l.skipGap (l.cursor.rest.length + 1)).forget
      if l.cursor.atEnd then
        let l ← l.leaveAll
        pure l.tokens.toList
      else run fuel (← (l.unroll l.cursor.column).next)

end Lexer

/-- The tokens of a text. A byte order mark in front takes up a column. -/
def tokens (text : String) : Option (List Token) :=
  let cs := text.toList
  if cs.all isPrintable then
    let l := Lexer.start cs
    let l := if l.cursor.isAt '\ufeff' then { l with cursor := l.cursor.skip } else l
    l.run (cs.length + 1)
  else none

end FlowBroker.Yaml
