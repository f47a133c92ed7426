import FlowBroker.Record.Source
import FlowBroker.Yaml.Node

namespace FlowBroker.Yaml.Tree

def resolve (t : Tree) : Tree :=
  match t.node with
  | .alias n => { t with node := (t.anchored.lookup n).getD .absent }
  | _ => t

def coreTag (name : String) : String := "tag:yaml.org,2002:" ++ name

def malformed {α : Type} : Decoded α := throw .malformed

def scalar (t : Tree) : Decoded (String × Style × Option String) :=
  match t.resolve.node with
  | .scalar text style tag => pure (text, style, tag)
  | _ => malformed

def text (t : Tree) : Decoded String := (·.1) <$> t.scalar

/-- A scalar that may stand for something else than its text: a plain one, or a literal one with
the tag. -/
def bare (tag : String) (t : Tree) : Decoded String := do
  match ← t.scalar with
  | (text, .plain, _) => pure text
  | (text, .literal, some name) => if name = coreTag tag then pure text else malformed
  | _ => malformed

def flag (t : Tree) : Decoded Bool := do
  let text ← t.bare "bool"
  if ["true", "True", "TRUE"].contains text then pure true
  else if ["false", "False", "FALSE"].contains text then pure false
  else malformed

def digits? (radix : Nat) (cs : List Char) : Option Nat :=
  if cs.isEmpty then none else Digit.number? radix cs

/-- A number in one of the radixes 16, 8, 2 and 10. In the last, a zero leads no other digit. -/
def number? (cs : List Char) : Option Nat :=
  let cs := if cs.head? = some '+' then cs.tail else cs
  match cs with
  | '0' :: 'x' :: ds => digits? 16 ds
  | '0' :: 'o' :: ds => digits? 8 ds
  | '0' :: 'b' :: ds => digits? 2 ds
  | '0' :: _ :: _ => none
  | ds => digits? 10 ds

def natural (t : Tree) : Decoded UInt64 := do
  match number? (← t.bare "int").toList with
  | some n => if n < UInt64.size then pure n.toUInt64 else malformed
  | none => malformed

def isNull (text : String) : Bool := ["~", "null", "Null", "NULL"].contains text

def optional (t : Tree) : Decoded (Option Tree) :=
  match t.resolve.node with
  | .scalar text .plain none => pure (if text = "" || isNull text then none else some t)
  | .scalar text .plain (some tag) =>
      if tag = coreTag "null" then
        if isNull text then pure none else malformed
      else pure (some t)
  | _ => pure (some t)

def items (t : Tree) : Decoded (List Tree) :=
  match t.resolve.node with
  | .sequence nodes => pure (nodes.map fun n => { t with node := n })
  | .scalar "" .plain _ => pure []
  | _ => malformed

def entries (t : Tree) : Decoded (Shown Tree) :=
  match t.resolve.node with
  | .mapping nodes => do
      let members ← nodes.mapM fun e => do
        pure (← text { t with node := e.1 }, { t with node := e.2 : Tree })
      pure ⟨members, none, fun _ => .malformed⟩
  | .scalar "" .plain _ => pure ⟨[], none, fun _ => .malformed⟩
  | _ => malformed

instance : Source Tree where
  text _ := text
  flag := flag
  natural := natural
  optional := optional
  items := items
  entries := entries
  fields _ _ := entries
  skip _ := pure ()

end FlowBroker.Yaml.Tree
