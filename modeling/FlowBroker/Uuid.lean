import FlowBroker.Text.Basic

namespace FlowBroker

structure Uuid where
  digits : List (Fin 16)
  length_eq : digits.length = 32
  deriving DecidableEq

namespace Uuid

def digitChar (d : Fin 16) : Char :=
  if d.val < 10 then Char.ofNat (48 + d.val) else Char.ofNat (87 + d.val)

def digit? (c : Char) : Option (Fin 16) := (Digit.value? c).map (Fin.ofNat 16)

def groups {α : Type} : List Nat → List α → List (List α)
  | [], ds => [ds]
  | n :: ns, ds => ds.take n :: groups ns (ds.drop n)

def chars (u : Uuid) : List Char :=
  ['-'].intercalate (groups [8, 4, 4, 4] (u.digits.map digitChar))

def toString (u : Uuid) : String := String.ofList u.chars

instance : ToString Uuid := ⟨toString⟩

def ofDigits? (cs : List Char) : Option Uuid := do
  let ds ← cs.mapM digit?
  if h : ds.length = 32 then some ⟨ds, h⟩ else none

def ofGroups? (cs : List Char) : Option Uuid :=
  match cs.splitBy (fun a b => a != '-' && b != '-') with
  | [a, ['-'], b, ['-'], c, ['-'], d, ['-'], e] =>
      if a.length = 8 && b.length = 4 && c.length = 4 && d.length = 4 && e.length = 12 then
        ofDigits? (a ++ b ++ c ++ d ++ e)
      else none
  | _ => none

/-- The written forms: digits alone, groups, groups in braces, and groups behind `urn:uuid:`. -/
def parse? (s : String) : Option Uuid :=
  match s.toList with
  | '\x7b' :: cs => if cs.getLast? = some '\x7d' then ofGroups? cs.dropLast else none
  | 'u' :: 'r' :: 'n' :: ':' :: 'u' :: 'u' :: 'i' :: 'd' :: ':' :: cs => ofGroups? cs
  | cs => if cs.contains '-' then ofGroups? cs else ofDigits? cs

def hexDigits : Nat → Nat → List (Fin 16)
  | 0, _ => []
  | n + 1, k => hexDigits n (k / 16) ++ [Fin.ofNat 16 k]

theorem length_hexDigits (n k : Nat) : (hexDigits n k).length = n := by
  induction n generalizing k with
  | zero => rfl
  | succ n ih => simp [hexDigits, ih]

/-- The identifier of version 4 that carries two 60-bit numbers. -/
def ofNumbers (high low : Nat) : Uuid where
  digits := hexDigits 12 (high / 0x1000) ++ 4 :: hexDigits 3 high ++ 8 :: hexDigits 15 low
  length_eq := by simp [length_hexDigits]

end Uuid

end FlowBroker
