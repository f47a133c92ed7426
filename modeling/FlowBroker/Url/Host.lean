import FlowBroker.Url.Domain
import FlowBroker.Url.Percent

namespace FlowBroker

inductive UrlError where
  | noScheme
  | emptyHost
  | badPort
  | badIpv4
  | badIpv6
  | badDomain
  | badHostCharacter
  deriving DecidableEq, Repr

def UrlError.message : UrlError → String
  | noScheme => "relative URL without a base"
  | emptyHost => "empty host"
  | badPort => "invalid port number"
  | badIpv4 => "invalid IPv4 address"
  | badIpv6 => "invalid IPv6 address"
  | badDomain => "invalid international domain name"
  | badHostCharacter => "invalid domain character"

inductive Host where
  | domain (name : String)
  | ipv4 (address : UInt32)
  | ipv6 (pieces : List UInt16)
  deriving DecidableEq, Repr

namespace Host

def ipv4Part? : List Char → Option Nat
  | [] => none
  | '0' :: 'x' :: cs => Digit.number? 16 cs
  | '0' :: 'X' :: cs => Digit.number? 16 cs
  | '0' :: c :: cs => Digit.number? 8 (c :: cs)
  | cs => Digit.number? 10 cs

def dropLastEmpty (ls : List (List Char)) : List (List Char) :=
  match ls.reverse with
  | [] :: rest => rest.reverse
  | _ => ls

/-- A domain whose last label is a number is meant to be an IPv4 address. -/
def endsInNumber (cs : List Char) : Bool :=
  match (dropLastEmpty (Domain.labels cs)).reverse with
  | [] => false
  | l :: _ => (!l.isEmpty && l.all Char.isDigit) || (ipv4Part? l).isSome

/-- Adds up a dotted address: the last part fills all places that the others leave. -/
def ipv4Sum : Nat → List Nat → Option Nat
  | _, [] => none
  | places, [n] => if n < 256 ^ places then some n else none
  | places, n :: ns =>
      if n < 256 then (ipv4Sum (places - 1) ns).map (n * 256 ^ (places - 1) + ·) else none

def ipv4? (cs : List Char) : Option UInt32 := do
  let parts := dropLastEmpty (Domain.labels cs)
  if 4 < parts.length then none
  let ns ← parts.mapM ipv4Part?
  pure (← ipv4Sum 4 ns).toUInt32

def ipv4Text (a : UInt32) : String :=
  let n := a.toNat
  ".".intercalate [toString (n / 0x1000000), toString (n / 0x10000 % 256),
    toString (n / 0x100 % 256), toString (n % 256)]

def byteText? (cs : List Char) : Option Nat :=
  match cs with
  | [] => none
  | '0' :: _ :: _ => none
  | _ => (Digit.number? 10 cs).bind fun n => if n < 256 then some n else none

def dottedTail? (cs : List Char) : Option (List Nat) := do
  match ← (Domain.labels cs).mapM byteText? with
  | [a, b, c, d] => some [a * 256 + b, c * 256 + d]
  | _ => none

def pieceText? (cs : List Char) : Option Nat :=
  if cs.isEmpty || 4 < cs.length then none else Digit.number? 16 cs

def colonParts : List Char → List (List Char)
  | [] => [[]]
  | c :: cs =>
      if c = ':' then [] :: colonParts cs
      else match colonParts cs with
        | l :: ls => (c :: l) :: ls
        | [] => [[c]]

def pieces? : List (List Char) → Option (List Nat)
  | [] => some []
  | [l] => if l.contains '.' then dottedTail? l else (pieceText? l).map ([·])
  | l :: ls => do pure ((← pieceText? l) :: (← pieces? ls))

def splitGap : List (List Char) → Option (List (List Char) × List (List Char))
  | [] => none
  | [_] => none
  | l :: m :: ls =>
      if m.isEmpty && !ls.isEmpty then some ([l], ls)
      else (splitGap (m :: ls)).map fun (a, b) => (l :: a, b)

def side? : List (List Char) → Option (List Nat)
  | [[]] => some []
  | ls => pieces? ls

/-- Eight pieces, or fewer around one `::` that stands for zeros. -/
def ipv6? (cs : List Char) : Option (List UInt16) := do
  let ps := colonParts cs
  match splitGap ps with
  | none =>
      let ns ← pieces? ps
      if ns.length = 8 then some (ns.map Nat.toUInt16) else none
  | some (before, behind) =>
      let a ← side? before
      let b ← side? behind
      if (before.getLast?.any (·.contains '.')) || 7 < a.length + b.length then none
      else some ((a ++ List.replicate (8 - a.length - b.length) 0 ++ b).map Nat.toUInt16)

def zeros : List UInt16 → Nat
  | [] => 0
  | p :: ps => if p = 0 then zeros ps + 1 else 0

/-- The longest run of at least two zeros, the first of equals, as start and length. -/
def longestZeros : List UInt16 → Option (Nat × Nat)
  | [] => none
  | p :: ps =>
      let here := zeros (p :: ps)
      match longestZeros ps with
      | none => if 2 ≤ here then some (0, here) else none
      | some (start, length) => if length ≤ here then some (0, here) else some (start + 1, length)

def hexText (p : UInt16) : String := String.ofList (Nat.toDigits 16 p.toNat)

def ipv6Text (ps : List UInt16) : String :=
  let joined (l : List UInt16) := ":".intercalate (l.map hexText)
  match longestZeros ps with
  | none => "[" ++ joined ps ++ "]"
  | some (start, length) =>
      "[" ++ joined (ps.take start) ++ "::" ++ joined (ps.drop (start + length)) ++ "]"

def toString : Host → String
  | domain name => name
  | ipv4 a => ipv4Text a
  | ipv6 ps => ipv6Text ps

def bracketed (cs : List Char) : Except UrlError Host :=
  match cs.getLast? with
  | some ']' =>
      match ipv6? cs.dropLast with
      | some ps => .ok (.ipv6 ps)
      | none => .error .badIpv6
  | _ => .error .badIpv6

def special (cs : List Char) : Except UrlError Host :=
  match cs with
  | '[' :: cs => bracketed cs
  | _ =>
      match Domain.toAscii? (Percent.decode cs) with
      | none => .error .badDomain
      | some [] => .error .emptyHost
      | some d =>
          if endsInNumber d then
            match ipv4? d with
            | some a => .ok (.ipv4 a)
            | none => .error .badIpv4
          else .ok (.domain (String.ofList d))

def forbiddenInOpaque (c : Char) : Bool :=
  ['\x00', '\t', '\n', '\r', ' ', '#', '/', ':', '<', '>', '?', '@', '[', '\\', ']', '^',
    '|'].contains c

/-- The host of any other scheme: kept as it is, less the characters a host cannot hold. -/
def opaqueHost (cs : List Char) : Except UrlError Host :=
  match cs with
  | '[' :: cs => bracketed cs
  | _ =>
      if cs.any forbiddenInOpaque then .error .badHostCharacter
      else .ok (.domain (String.ofList (Percent.encode Percent.opaquePath cs)))

end Host

end FlowBroker
