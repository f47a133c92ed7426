namespace FlowBroker.Decimal

/-- A finite double as `significand * 2 ^ exponent`, with the width of the gap below it. -/
structure Binary where
  significand : Nat
  exponent : Int
  narrowBelow : Bool

def Binary.ofBits? (bits : UInt64) : Option Binary :=
  let b : Nat := bits.toNat % 0x8000000000000000
  let e : Nat := b / 0x10000000000000
  let f : Nat := b % 0x10000000000000
  if e = 2047 then none
  else if e = 0 then some ⟨f, -1074, false⟩
  else some ⟨f + 0x10000000000000, (e : Int) - 1075, f = 0 && 1 < e⟩

structure Digits where
  digits : Nat
  exponent : Int
  deriving DecidableEq, Repr

def ratio (base : Nat) (e : Int) : Nat × Nat :=
  if 0 ≤ e then (base.pow e.toNat, 1) else (1, base.pow (-e).toNat)

/-- The decimal on the grid of `10 ^ k` that rounds to `x`, if there is one: of two the nearer,
and of two equally near the even one. -/
def onGrid? (x : Binary) (k : Int) : Option Nat :=
  let (p, q) := ratio 2 (x.exponent - 2)
  let (s, t) := ratio 10 k
  let den := q * s
  let num (m : Nat) := m * p * t
  let value := num (4 * x.significand)
  let low := num (4 * x.significand - if x.narrowBelow then 1 else 2)
  let high := num (4 * x.significand + 2)
  let closed := x.significand % 2 = 0
  let hit (c : Nat) : Bool :=
    if closed then low ≤ c * den && c * den ≤ high else low < c * den && c * den < high
  let c := value / den
  let nearer := if 2 * value < (2 * c + 1) * den then c
    else if (2 * c + 1) * den < 2 * value then c + 1
    else if c % 2 = 0 then c else c + 1
  let other := if nearer = c then c + 1 else c
  if 0 < nearer && hit nearer then some nearer else if 0 < other && hit other then some other
  else none

def search (x : Binary) : Nat → Int → Digits
  | 0, k => ⟨x.significand, k⟩
  | n + 1, k =>
      match onGrid? x k with
      | some c => ⟨c, k⟩
      | none => search x n (k - 1)

/-- The shortest digits of a nonzero double: of all decimals that round to it one with the fewest
digits, and of those the nearest. The first grid tried is coarser than its leading digit, and
seventeen digits always suffice. -/
def shortest (x : Binary) : Digits :=
  let top := ((x.significand.log2 : Int) + x.exponent) * 30103 / 100000 + 2
  search x 24 top

def digitsOf (n : Nat) : List Char := Nat.toDigits 10 n

end FlowBroker.Decimal
