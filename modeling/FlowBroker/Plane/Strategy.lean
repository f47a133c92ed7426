namespace FlowBroker

/-- A source of random places: the `k`-th draw among `n` places is one of them. -/
structure Dice where
  draw (k n : Nat) : Nat
  draw_lt : ∀ k {n}, 0 < n → draw k n < n

inductive Strategy where
  /-- Each in turn; the cursor counts the picks, modulo `2 ^ 64`. -/
  | roundRobin (cursor : UInt64)
  | first
  | random (dice : Dice) (drawn : Nat)

namespace Dice

def scaled (seed : UInt64) (n : Nat) : Nat := seed.toNat * n / UInt64.size

theorem scaled_lt (seed : UInt64) {n : Nat} (h : 0 < n) : scaled seed n < n := by
  exact Nat.div_lt_of_lt_mul (Nat.mul_lt_mul_of_pos_right seed.toNat_lt_size h)

/-- Dice that fall in an even spread over 64 bits from any start: steps of the golden ratio. -/
def spread (start : Nat) : Dice where
  draw k n := scaled (UInt64.ofNat (start + k + 1) * 0x9E3779B97F4A7C15) n
  draw_lt _ _ h := scaled_lt _ h

end Dice

namespace Strategy

def name : Strategy → String
  | roundRobin _ => "round-robin"
  | first => "first"
  | random _ _ => "random"

/-- The strategy of a name, given the dice that it may have to draw from. -/
def ofName? (name : String) : Option (Dice → Strategy) :=
  if name = "round-robin" then some fun _ => roundRobin 0
  else if name = "first" then some fun _ => first
  else if name = "random" then some fun dice => random dice 0
  else none

def index (s : Strategy) (n : Nat) : Nat :=
  match s with
  | roundRobin cursor => cursor.toNat % n
  | first => 0
  | random dice drawn => dice.draw drawn n

theorem index_lt (s : Strategy) {n : Nat} (h : 0 < n) : s.index n < n := by
  cases s with
  | roundRobin cursor => exact Nat.mod_lt _ h
  | first => exact h
  | random dice drawn => exact dice.draw_lt drawn h

def advance : Strategy → Strategy
  | roundRobin cursor => roundRobin (cursor + 1)
  | first => first
  | random dice drawn => random dice (drawn + 1)

def pick {α : Type} (s : Strategy) (candidates : List α) : Option α × Strategy :=
  match candidates with
  | [] => (none, s)
  | _ => (candidates[s.index candidates.length]?, s.advance)

variable {α : Type}

@[simp] theorem pick_nil (s : Strategy) : s.pick ([] : List α) = (none, s) := rfl

theorem pick_cons (s : Strategy) (a : α) (as : List α) :
    ∃ b ∈ a :: as, (a :: as)[s.index (a :: as).length]? = some b ∧
      s.pick (a :: as) = (some b, s.advance) := by
  have hlt : s.index (a :: as).length < (a :: as).length := s.index_lt (Nat.succ_pos as.length)
  have hpicked := List.getElem?_eq_getElem hlt
  exact ⟨(a :: as)[s.index (a :: as).length], List.getElem_mem hlt, hpicked,
    congrArg (·, s.advance) hpicked⟩

end Strategy

end FlowBroker
