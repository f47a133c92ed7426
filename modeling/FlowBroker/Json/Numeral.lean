import FlowBroker.Json

namespace FlowBroker.Json

structure Numeral where
  negative : Bool
  whole : List Nat
  fraction : List Nat
  power : Option (Bool × List Nat)

def digits : List Char → List Nat × List Char
  | [] => ([], [])
  | c :: cs => if c.isDigit then ((c.toNat - 48) :: (digits cs).1, (digits cs).2) else ([], c :: cs)

namespace Numeral

def readPower : List Char → Option (Option (Bool × List Nat) × List Char)
  | c :: cs =>
      if c = 'e' || c = 'E' then
        let (negative, rest) := match cs with
          | '+' :: r => (false, r)
          | '-' :: r => (true, r)
          | r => (false, r)
        match digits rest with
        | ([], _) => none
        | (ds, r) => some (some (negative, ds), r)
      else some (none, c :: cs)
  | [] => some (none, [])

def readFraction : List Char → Option (List Nat × List Char)
  | '.' :: cs =>
      match digits cs with
      | ([], _) => none
      | (ds, r) => some (ds, r)
  | cs => some ([], cs)

def read (cs : List Char) : Option (Numeral × List Char) := do
  let (negative, cs) := match cs with
    | '-' :: r => (true, r)
    | r => (false, r)
  let (whole, cs) := digits cs
  match whole with
  | [] => none
  | 0 :: _ :: _ => none
  | _ =>
      let (fraction, cs) ← readFraction cs
      let (power, cs) ← readPower cs
      pure (⟨negative, whole, fraction, power⟩, cs)

def fill (n : Nat) : List Nat → Nat × List Nat
  | [] => (n, [])
  | d :: ds => if n * 10 + d < UInt64.size then fill (n * 10 + d) ds else (n, d :: ds)

def scaleDown : Nat → Float → Nat → Float
  | 0, x, _ => x
  | fuel + 1, x, k =>
      if k ≤ 308 then x / Float.ofScientific 1 false k
      else if x == 0 then x
      else scaleDown fuel (x / 1e308) (k - 308)

/-- `significand * 10 ^ power`, or nothing if it is beyond every double. It is scaled by powers of
ten, so its last bit need not be the one of exact rounding. -/
def scale? (significand : Nat) (power : Int) : Option Float :=
  let x := significand.toUInt64.toFloat
  if 0 ≤ power then
    if power ≤ 308 then
      let y := x * Float.ofScientific 1 false power.toNat
      if y.isInf then none else some y
    else if x == 0 then some x else none
  else some (scaleDown ((-power).toNat / 308 + 1) x (-power).toNat)

def ofDigits (ds : List Nat) : Nat := ds.foldl (fun n d => n * 10 + d) 0

def float? (n : Numeral) : Option UInt64 :=
  let (whole, cut) := fill 0 n.whole
  let (significand, left) := fill whole n.fraction
  let power : Int := (cut.length : Int) + left.length - n.fraction.length
  let signed (x : Float) : UInt64 := (if n.negative then -x else x).toBits
  match n.power with
  | none => (scale? significand power).map signed
  | some (down, ds) =>
      let k := ofDigits ds
      if 0x80000000 ≤ k then
        if significand ≠ 0 && !down then none else some (signed 0)
      else (scale? significand (if down then power - k else power + k)).map signed

/-- The value of a numeral. Minus zero is a double, since no integer is. -/
def value? (n : Numeral) : Option Number :=
  match n.fraction, n.power with
  | [], none =>
      let k := ofDigits n.whole
      if !n.negative && k < UInt64.size then some (.integer k)
      else if n.negative && k ≠ 0 && k ≤ 0x8000000000000000 then some (.integer (-(k : Int)))
      else n.float?.map .float
  | _, _ => n.float?.map .float

end Numeral

end FlowBroker.Json
