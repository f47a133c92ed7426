import FlowBroker.Text.Basic
import FlowBroker.Url.Punycode

namespace FlowBroker.Domain

def forbidden (c : Char) : Bool :=
  c ≤ ' ' || c = '\x7f' ||
    ['%', '#', '/', ':', '<', '>', '?', '@', '[', '\\', ']', '^', '|'].contains c

def between (low high n : Nat) : Bool := low ≤ n && n ≤ high

def evenCapital (n : Nat) : Bool :=
  n % 2 = 0 && (between 0x100 0x12F n || between 0x132 0x137 n || between 0x14A 0x177 n ||
    between 0x460 0x481 n || between 0x48A 0x4BF n || between 0x4D0 0x52F n ||
    between 0x1E00 0x1E95 n || between 0x1EA0 0x1EFF n)

def oddCapital (n : Nat) : Bool :=
  n % 2 = 1 && (between 0x139 0x148 n || between 0x179 0x17E n || between 0x4C1 0x4CE n)

/-- The small letter of a capital. The case pairs known are those of the Latin, Greek, Cyrillic and
Armenian scripts and of the fullwidth forms. -/
def small (n : Nat) : Nat :=
  if between 0x41 0x5A n then n + 32
  else if between 0xC0 0xDE n && n ≠ 0xD7 then n + 32
  else if evenCapital n || oddCapital n then n + 1
  else if n = 0x178 then 0xFF
  else if n = 0x17F then 0x73
  else if n = 0x386 then 0x3AC
  else if between 0x388 0x38A n then n + 37
  else if n = 0x38C then 0x3CC
  else if between 0x38E 0x38F n then n + 63
  else if between 0x391 0x3AB n && n ≠ 0x3A2 then n + 32
  else if between 0x400 0x40F n then n + 80
  else if between 0x410 0x42F n then n + 32
  else if n = 0x4C0 then 0x4CF
  else if between 0x531 0x556 n then n + 48
  else if n = 0x1E9E then 0xDF
  else n

def invisible (n : Nat) : Bool :=
  n = 0xAD || n = 0x34F || n = 0x200B || n = 0x2060 || n = 0x2064 || n = 0xFEFF ||
    between 0x180B 0x180D n || between 0xFE00 0xFE0F n

def fullStop (n : Nat) : Bool := n = 0x3002 || n = 0xFF0E || n = 0xFF61

def disallowed (n : Nat) : Bool :=
  between 0x80 0xA0 n || n = 0xA8 || n = 0xAF || n = 0xB4 || n = 0xB8 || between 0x2000 0x200A n ||
    between 0x200E 0x200F n || between 0x2028 0x202F n || between 0x205F 0x206F n || n = 0x3000 ||
    between 0xD800 0xF8FF n || between 0xFDD0 0xFDEF n || between 0xFFF0 0xFFFF n ||
    0xE0000 ≤ n

/-- What one character of a domain becomes; nothing if no domain may hold it. -/
def mapChar (c : Char) : Option (List Char) :=
  let n := c.toNat
  if n < 0x80 then
    if forbidden c then none else some [Char.ofNat (small n)]
  else if invisible n then some []
  else if fullStop n then some ['.']
  else if between 0xFF01 0xFF5E n then
    let a := Char.ofNat (small (n - 0xFEE0))
    if forbidden a then none else some [a]
  else if n = 0x130 then some ['i', '\u0307']
  else if n = 0xAA then some ['a']
  else if n = 0xB2 then some ['2']
  else if n = 0xB3 then some ['3']
  else if n = 0xB5 then some ['\u03bc']
  else if n = 0xB9 then some ['1']
  else if n = 0xBA then some ['o']
  else if disallowed n then none
  else some [Char.ofNat (small n)]

def isAscii (cs : List Char) : Bool := cs.all (·.toNat < 0x80)

def isMark (c : Char) : Bool := between 0x300 0x36F c.toNat

def startsWithMark : List Char → Bool
  | c :: _ => isMark c
  | [] => false

def validPunycode (code : List Char) : Bool :=
  match Punycode.decode? code with
  | none => false
  | some cs =>
      !isAscii cs && !startsWithMark cs && cs.all (fun c => mapChar c = some [c]) &&
        Punycode.encode cs = code

def label? (cs : List Char) : Option (List Char) :=
  if isAscii cs then
    match cs with
    | 'x' :: 'n' :: '-' :: '-' :: code => if validPunycode code then some cs else none
    | _ => some cs
  else if startsWithMark cs then none
  else some ('x' :: 'n' :: '-' :: '-' :: Punycode.encode cs)

def labels : List Char → List (List Char)
  | [] => [[]]
  | c :: cs =>
      if c = '.' then [] :: labels cs
      else match labels cs with
        | l :: ls => (c :: l) :: ls
        | [] => [[c]]

def join : List (List Char) → List Char
  | [] => []
  | [l] => l
  | l :: ls => l ++ '.' :: join ls

def toAscii? (bytes : List UInt8) : Option (List Char) := do
  let text ← Utf8.strict? bytes
  let mapped ← text.toList.mapM mapChar
  let ls ← (labels mapped.flatten).mapM label?
  pure (join ls)

end FlowBroker.Domain
