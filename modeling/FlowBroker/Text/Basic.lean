namespace FlowBroker.Digit

def value? (c : Char) : Option Nat :=
  if c.isDigit then some (c.toNat - 48)
  else if 'a' ≤ c && c ≤ 'f' then some (c.toNat - 87)
  else if 'A' ≤ c && c ≤ 'F' then some (c.toNat - 55)
  else none

def valueIn? (radix : Nat) (c : Char) : Option Nat := (value? c).filter (· < radix)

/-- The number that digits write; none at all write zero. -/
def number? (radix : Nat) (cs : List Char) : Option Nat :=
  cs.foldlM (fun n c => (valueIn? radix c).map (n * radix + ·)) 0

def byte? (high low : Char) : Option UInt8 := (number? 16 [high, low]).map (·.toUInt8)

end FlowBroker.Digit

namespace FlowBroker.Utf8

def isTail (b : UInt8) : Bool := 0x80 ≤ b && b ≤ 0xBF

def payload (b : UInt8) : Nat := b.toNat % 64

/-- How many continuation bytes a lead byte asks for, and the range allowed for the first. -/
def lead? (b : UInt8) : Option (Nat × UInt8 × UInt8) :=
  if 0xC2 ≤ b && b ≤ 0xDF then some (1, 0x80, 0xBF)
  else if b = 0xE0 then some (2, 0xA0, 0xBF)
  else if b = 0xED then some (2, 0x80, 0x9F)
  else if 0xE1 ≤ b && b ≤ 0xEF then some (2, 0x80, 0xBF)
  else if b = 0xF0 then some (3, 0x90, 0xBF)
  else if 0xF1 ≤ b && b ≤ 0xF3 then some (3, 0x80, 0xBF)
  else if b = 0xF4 then some (3, 0x80, 0x8F)
  else none

/-- Collects `n` further continuation bytes into `code`. -/
def tails : Nat → Nat → List UInt8 → Option Nat × List UInt8
  | 0, code, bs => (some code, bs)
  | _ + 1, _, [] => (none, [])
  | n + 1, code, b :: bs => if isTail b then tails n (code * 64 + payload b) bs else (none, b :: bs)

theorem tails_length (n code : Nat) (bs : List UInt8) :
    (tails n code bs).2.length ≤ bs.length := by
  induction n generalizing code bs with
  | zero => simp [tails]
  | succ n ih =>
      cases bs with
      | nil => simp [tails]
      | cons b bs =>
          rw [tails]
          split
          · exact Nat.le_succ_of_le (ih _ _)
          · exact Nat.le_refl _

def step (b : UInt8) (bs : List UInt8) : Option Char × List UInt8 :=
  if b < 0x80 then (some (Char.ofNat b.toNat), bs)
  else match lead? b with
    | none => (none, bs)
    | some (n, low, high) =>
        match bs with
        | [] => (none, [])
        | t :: ts =>
            if low ≤ t && t ≤ high then
              let r := tails (n - 1) ((b.toNat % Nat.pow 2 (6 - n)) * 64 + payload t) ts
              (r.1.map Char.ofNat, r.2)
            else (none, t :: ts)

theorem step_length (b : UInt8) (bs : List UInt8) : (step b bs).2.length ≤ bs.length := by
  rw [step]
  split
  · exact Nat.le_refl _
  · split
    · exact Nat.le_refl _
    · split
      · exact Nat.le_refl _
      · split
        · exact Nat.le_succ_of_le (tails_length _ _ _)
        · exact Nat.le_refl _

def chars : List UInt8 → List (Option Char)
  | [] => []
  | b :: bs => (step b bs).1 :: chars (step b bs).2
termination_by bs => bs.length
decreasing_by exact Nat.lt_succ_of_le (step_length b bs)

/-- Every byte string as text, with U+FFFD where no character is encoded. -/
def lossy (bs : List UInt8) : String :=
  String.ofList ((chars bs).map (·.getD '\uFFFD'))

def strict? (bs : List UInt8) : Option String :=
  ((chars bs).mapM id).map String.ofList

def encode (cs : List Char) : List UInt8 := cs.flatMap String.utf8EncodeChar

end FlowBroker.Utf8
