import FlowBroker.Text.Basic
import FlowBroker.Yaml.Cursor

namespace FlowBroker.Yaml

/-- A scalar's text so far, last character first, and the gap after it that may turn out to be
inside the scalar. There a single line break reads as a space, and of several the first is dropped.
-/
structure Folded where
  done : List Char
  blanks : List Char
  breaks : List Char
  multiline : Bool

namespace Folded

def empty : Folded := ⟨[], [], [], false⟩

def close (f : Folded) : Folded :=
  let gap :=
    if f.multiline then
      match f.breaks.reverse with
      | ['\n'] => [' ']
      | '\n' :: more => more
      | more => more
    else f.blanks.reverse
  ⟨gap.reverse ++ f.done, [], [], false⟩

def push (f : Folded) (c : Char) : Folded :=
  let g := f.close
  { g with done := c :: g.done }

def blank (f : Folded) (c : Char) : Folded :=
  if f.multiline then f else { f with blanks := c :: f.blanks }

def lineBreak (f : Folded) (c : Char) : Folded :=
  { f with blanks := [], breaks := c :: f.breaks, multiline := true }

def continued (f : Folded) : Folded := { f.close with multiline := true }

def text (f : Folded) : String := String.ofList f.done.reverse

end Folded

def isFlowMark (c : Char) : Bool :=
  c = ',' || c = '[' || c = ']' || c = '\x7b' || c = '\x7d'

/-- A plain scalar, the cursor behind it, and whether it ended at the start of a line. The fuel is
the number of characters. -/
def plain (flow : Bool) (indent : Int) : Nat → Folded → Cursor → Option (Folded × Cursor)
  | 0, f, c => some (f, c)
  | fuel + 1, f, c =>
      match c.peek? with
      | none => some (f, c)
      | some x =>
          if isBreak x then plain flow indent fuel (f.lineBreak c.lineBreak) c.skipLine
          else if isBlank x then
            if x = '\t' && f.multiline && (c.column : Int) < indent + 1 then none
            else plain flow indent fuel (f.blank x) c.skip
          else if f.multiline && !flow && (c.column : Int) < indent + 1 then some (f, c)
          else if c.atDocumentMark then some (f, c)
          else if x = '#' && (f.multiline || !f.blanks.isEmpty) then some (f, c)
          else if flow && x = ':' && (c.peekAt? 1).any (fun y => isFlowMark y || y = '?') then none
          else if x = ':' && c.gapAt 1 then some (f, c)
          else if flow && isFlowMark x then some (f, c)
          else plain flow indent fuel (f.push x) c.skip

def escape? : Char → Option Char
  | '0' => some '\x00'
  | 'a' => some '\x07'
  | 'b' => some '\x08'
  | 't' => some '\t'
  | '\t' => some '\t'
  | 'n' => some '\n'
  | 'v' => some '\x0b'
  | 'f' => some '\x0c'
  | 'r' => some '\r'
  | 'e' => some '\x1b'
  | ' ' => some ' '
  | '"' => some '"'
  | '/' => some '/'
  | '\\' => some '\\'
  | 'N' => some '\u0085'
  | '_' => some '\u00a0'
  | 'L' => some '\u2028'
  | 'P' => some '\u2029'
  | _ => none

def escapeLength? : Char → Option Nat
  | 'x' => some 2
  | 'u' => some 4
  | 'U' => some 8
  | _ => none

def coded? (n : Nat) (cs : List Char) : Option Char := do
  if cs.length < n then none
  let code ← Digit.number? 16 (cs.take n)
  if (0xD800 ≤ code && code ≤ 0xDFFF) || 0x10FFFF < code then none else some (Char.ofNat code)

def quoted (single : Bool) : Nat → Folded → Cursor → Option (Folded × Cursor)
  | 0, _, _ => none
  | fuel + 1, f, c =>
      if c.atDocumentMark then none
      else match c.peek? with
      | none => none
      | some x =>
          if isBreak x then quoted single fuel (f.lineBreak c.lineBreak) c.skipLine
          else if isBlank x then quoted single fuel (f.blank x) c.skip
          else if single && x = '\'' && c.peekAt? 1 = some '\'' then
            quoted single fuel (f.push x) (c.skipMany 2)
          else if x = (if single then '\'' else '"') then some (f.close, c.skip)
          else if !single && x = '\\' then
            if (c.peekAt? 1).any isBreak then quoted single fuel f.continued c.skip.skipLine
            else
              match (c.peekAt? 1).bind escape?, (c.peekAt? 1).bind escapeLength? with
              | some y, _ => quoted single fuel (f.push y) (c.skipMany 2)
              | none, some n =>
                  match coded? n (c.rest.drop 2) with
                  | some y => quoted single fuel (f.push y) (c.skipMany (2 + n))
                  | none => none
              | none, none => none
          else quoted single fuel (f.push x) c.skip

inductive Chomping where
  | strip
  | clip
  | keep
  deriving DecidableEq

def chomping? (c : Cursor) : Option Chomping :=
  match c.peek? with
  | some '+' => some .keep
  | some '-' => some .strip
  | _ => none

def increment? (c : Cursor) : Option Nat :=
  match c.peek? with
  | some x => if x.isDigit then some (x.toNat - 48) else none
  | none => none

def blockHeader (c : Cursor) : Option (Chomping × Option Nat × Cursor) :=
  let order (h : Option Chomping) (n : Option Nat) (c : Cursor) :=
    if n = some 0 then none else some (h.getD .clip, n, c)
  match chomping? c with
  | some h =>
      match increment? c.skip with
      | some n => order (some h) (some n) (c.skipMany 2)
      | none => order (some h) none c.skip
  | none =>
      match increment? c with
      | some n =>
          match chomping? c.skip with
          | some h => order (some h) (some n) (c.skipMany 2)
          | none => order none (some n) c.skip
      | none => order none none c

/-- Past indentation and empty lines, up to a column if one is known: the line breaks, last first,
the largest column met, and the cursor. -/
def blockBreaks (indent : Option Nat) :
    Nat → List Char → Nat → Cursor → Option (List Char × Nat × Cursor)
  | 0, breaks, widest, c => some (breaks, widest, c)
  | fuel + 1, breaks, widest, c =>
      let within := match indent with
        | none => true
        | some n => c.column < n
      if within && c.isAt ' ' then blockBreaks indent fuel breaks widest c.skip
      else
        let widest := max widest c.column
        if within && c.isAt '\t' then none
        else if c.breakHere then blockBreaks indent fuel (c.lineBreak :: breaks) widest c.skipLine
        else some (breaks, widest, c)

/-- The lines of a block scalar: its text, last character first, then the break of its last line
and the breaks behind it. -/
def blockLines (literal : Bool) (indent : Nat) : Nat → (done : List Char) → (lead : Option Char) →
    (breaks : List Char) → (leadingBlank : Bool) → Cursor →
    Option (List Char × Option Char × List Char × Cursor)
  | 0, done, lead, breaks, _, c => some (done, lead, breaks, c)
  | fuel + 1, done, lead, breaks, leadingBlank, c =>
      if c.column = indent && !c.atEnd then
        let blank := c.blankHere
        let joint :=
          if !literal && lead = some '\n' && !leadingBlank && !blank then
            if breaks.isEmpty then [' '] else []
          else lead.toList
        let line := c.rest.takeWhile (!isBreak ·)
        let done := line.reverse ++ (breaks ++ (joint ++ done))
        let c := c.skipMany line.length
        let lead := if c.atEnd then none else some c.lineBreak
        match blockBreaks (some indent) (c.rest.length + 1) [] 0 c.skipLine with
        | some (breaks, _, c) => blockLines literal indent fuel done lead breaks blank c
        | none => none
      else some (done, lead, breaks, c)

def block (literal : Bool) (indent : Int) (c : Cursor) : Option (String × Cursor) := do
  let (chomping, increment, c) ← blockHeader c
  let c := (c.skipWhile isBlank).skipComment
  if !c.lineEndAt 0 then none
  let c := c.skipLine
  let fuel := c.rest.length + 1
  let known := increment.map fun n => if 0 ≤ indent then indent.toNat + n else n
  let (breaks, widest, c) ← blockBreaks known fuel [] 0 c
  let column := known.getD (max widest (max (indent + 1).toNat 1))
  let (done, lead, breaks, c) ← blockLines literal column fuel [] none breaks false c
  let tail := match chomping with
    | .strip => []
    | .clip => lead.toList
    | .keep => breaks ++ lead.toList
  pure (String.ofList (tail ++ done).reverse, c)

end FlowBroker.Yaml
