namespace FlowBroker.Punycode

def base : Nat := 36
def tMin : Nat := 1
def tMax : Nat := 26

def threshold (k bias : Nat) : Nat :=
  if k ≤ bias then tMin else if bias + tMax ≤ k then tMax else k - bias

def adaptLoop : Nat → Nat → Nat → Nat
  | 0, delta, k => k + (base * delta) / (delta + 38)
  | fuel + 1, delta, k =>
      if 455 < delta then adaptLoop fuel (delta / 35) (k + base)
      else k + (base * delta) / (delta + 38)

def adapt (delta count : Nat) (first : Bool) : Nat :=
  let d := if first then delta / 700 else delta / 2
  adaptLoop d (d + d / count) 0

def digit (n : Nat) : Char := if n < 26 then Char.ofNat (97 + n) else Char.ofNat (22 + n)

def value? (c : Char) : Option Nat :=
  if 'a' ≤ c && c ≤ 'z' then some (c.toNat - 97)
  else if 'A' ≤ c && c ≤ 'Z' then some (c.toNat - 65)
  else if c.isDigit then some (c.toNat - 22)
  else none

def number : Nat → Nat → Nat → Nat → List Char
  | 0, q, _, _ => [digit q]
  | fuel + 1, q, k, bias =>
      let t := threshold k bias
      if q < t then [digit q]
      else digit (t + (q - t) % (base - t)) :: number fuel ((q - t) / (base - t)) (k + base) bias

structure State where
  delta : Nat
  bias : Nat
  placed : Nat
  written : List Char

/-- Walks over the label once for the code point `n`: smaller ones widen the distance, equal ones
are written. -/
def sweep (n basics : Nat) (st : State) (c : Nat) : State :=
  if c < n then { st with delta := st.delta + 1 }
  else if c = n then
    { delta := 0
      bias := adapt st.delta (st.placed + 1) (st.placed = basics)
      placed := st.placed + 1
      written := st.written ++ number (st.delta + 1) st.delta base st.bias }
  else st

def least (cs : List Nat) (n : Nat) : Option Nat :=
  (cs.filter (n ≤ ·)).foldl (fun m c => some (match m with | none => c | some d => min c d)) none

def rounds : Nat → List Nat → Nat → Nat → State → State
  | 0, _, _, _, st => st
  | fuel + 1, cs, n, basics, st =>
      match least cs n with
      | none => st
      | some m =>
          let st := { st with delta := st.delta + (m - n) * (st.placed + 1) }
          let st := cs.foldl (sweep m basics) st
          rounds fuel cs (m + 1) basics { st with delta := st.delta + 1 }

def encode (label : List Char) : List Char :=
  let basics := label.filter (·.toNat < 128)
  let cs := label.map Char.toNat
  let start := if basics.isEmpty then [] else basics ++ ['-']
  (rounds label.length cs 128 basics.length ⟨0, 72, basics.length, start⟩).written

def distance (i w k bias : Nat) : List Char → Option (Nat × List Char)
  | [] => none
  | c :: cs =>
      match value? c with
      | none => none
      | some d =>
          if d < threshold k bias then some (i + d * w, cs)
          else distance (i + d * w) (w * (base - threshold k bias)) (k + base) bias cs

theorem distance_length {i w k bias : Nat} {cs rest : List Char} {n : Nat}
    (h : distance i w k bias cs = some (n, rest)) : rest.length < cs.length := by
  induction cs generalizing i w k with
  | nil => simp [distance] at h
  | cons c cs ih =>
      rw [distance] at h
      split at h
      · simp at h
      · split at h
        · simp only [Option.some.injEq, Prod.mk.injEq] at h
          simp [← h.2]
        · exact Nat.lt_succ_of_lt (ih h)

/-- Places the characters of a label: `i` is where the last one went, `n` its code point. -/
def insertions (out : List Char) (n i bias : Nat) (cs : List Char) : Option (List Char) :=
  if cs.isEmpty then some out
  else
    match _h : distance i 1 base bias cs with
    | none => none
    | some (j, rest) =>
        let count := out.length + 1
        let n := n + j / count
        let place := j % count
        if 0x10FFFF < n || (0xD800 ≤ n && n ≤ 0xDFFF) then none
        else
          insertions (out.take place ++ Char.ofNat n :: out.drop place) n (place + 1)
            (adapt (j - i) count (i = 0)) rest
termination_by cs.length
decreasing_by exact distance_length _h

def splitBasics (cs : List Char) : List Char × List Char :=
  let tail := (cs.reverse.takeWhile (· ≠ '-')).reverse
  (cs.take (cs.length - tail.length - 1), tail)

def decode? (cs : List Char) : Option (List Char) :=
  let (basics, rest) := splitBasics cs
  insertions basics 128 0 72 rest

end FlowBroker.Punycode
