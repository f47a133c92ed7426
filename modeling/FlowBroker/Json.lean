namespace FlowBroker

/-- A number: an integer of at most 64 bits, or the bits of a double. -/
inductive Number where
  | integer (value : Int)
  | float (bits : UInt64)
  deriving DecidableEq, Repr

inductive Fault where
  | broken
  /-- A token that has the form but no value, such as a number beyond every double. -/
  | valueless
  deriving DecidableEq, Repr

/-- Members keep their order and may repeat. A tree also shows where its text stops being JSON, so
that a reader which stops early never sees a fault behind the place where it stopped. -/
inductive Json where
  | null
  | bool (b : Bool)
  | number (n : Number)
  | string (s : String)
  | array (items : List Json)
  | object (members : List (String × Json))
  | fault (f : Fault)
  /-- An object whose next key, after these members, is at fault. -/
  | torn (members : List (String × Json)) (f : Fault)
  deriving Inhabited

namespace Json

mutual

def skippable : Json → Bool
  | fault f => f == .valueless
  | array items => skippableItems items
  | object members => skippableMembers members
  | torn members f => f == .valueless && skippableMembers members
  | _ => true

def skippableItems : List Json → Bool
  | [] => true
  | j :: js => skippable j && skippableItems js

def skippableMembers : List (String × Json) → Bool
  | [] => true
  | m :: ms => skippable m.2 && skippableMembers ms

end

end Json

end FlowBroker
