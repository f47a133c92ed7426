import FlowBroker.Json
import FlowBroker.Decimal.Shortest

namespace FlowBroker.Json

def hexDigit (n : Nat) : Char := (Nat.toDigits 16 n).headD '0'

def escaped (c : Char) : List Char :=
  if c = '"' then ['\\', '"']
  else if c = '\\' then ['\\', '\\']
  else if c = '\n' then ['\\', 'n']
  else if c = '\r' then ['\\', 'r']
  else if c = '\t' then ['\\', 't']
  else if c < ' ' then ['\\', 'u', '0', '0', hexDigit (c.toNat / 16), hexDigit (c.toNat % 16)]
  else [c]

def quoted (s : String) : String :=
  String.ofList ('"' :: s.toList.flatMap escaped ++ ['"'])

/-- A decimal with `digits` and its point after `point` of them: positional for points from −4 to
16, with an exponent otherwise, and always recognisable as no integer. -/
def positional (digits : List Char) (point : Int) : List Char :=
  let n := digits.length
  if (n : Int) ≤ point ∧ point ≤ 16 then
    digits ++ List.replicate (point - n).toNat '0' ++ ['.', '0']
  else if 0 < point ∧ point ≤ 16 then
    digits.take point.toNat ++ '.' :: digits.drop point.toNat
  else if -5 < point ∧ point ≤ 0 then
    '0' :: '.' :: List.replicate (-point).toNat '0' ++ digits
  else
    let power := (toString (point - 1)).toList
    match digits with
    | [d] => d :: 'e' :: power
    | d :: ds => d :: '.' :: ds ++ 'e' :: power
    | [] => []

def floatText (bits : UInt64) : String :=
  let sign := if 0x8000000000000000 ≤ bits.toNat then ['-'] else []
  match Decimal.Binary.ofBits? bits with
  | none => "null"
  | some x =>
      if x.significand = 0 then String.ofList (sign ++ ['0', '.', '0'])
      else
        let d := Decimal.shortest x
        let ds := Decimal.digitsOf d.digits
        String.ofList (sign ++ positional ds (d.exponent + ds.length))

def numberText : Number → String
  | .integer n => toString n
  | .float bits => floatText bits

mutual

def render : Json → String
  | null | fault _ => "null"
  | bool true => "true"
  | bool false => "false"
  | number n => numberText n
  | string s => quoted s
  | array items => "[" ++ ",".intercalate (renderItems items) ++ "]"
  | object members => "\x7b" ++ ",".intercalate (renderMembers members) ++ "\x7d"
  | torn members _ => "\x7b" ++ ",".intercalate (renderMembers members) ++ "\x7d"

def renderItems : List Json → List String
  | [] => []
  | j :: js => render j :: renderItems js

def renderMembers : List (String × Json) → List String
  | [] => []
  | m :: ms => (quoted m.1 ++ ":" ++ render m.2) :: renderMembers ms

end

end FlowBroker.Json
