import FlowBroker.Text.Basic
import Std.Time.Date.PlainDate

namespace FlowBroker

inductive Level where
  | error
  | warn
  | info
  | debug
  | trace
  deriving DecidableEq, Repr

namespace Level

def name : Level → String
  | error => "ERROR"
  | warn => "WARN"
  | info => "INFO"
  | debug => "DEBUG"
  | trace => "TRACE"

def all : List Level := [error, warn, info, debug, trace]

def rank (l : Level) : Nat := all.idxOf l + 1

end Level

structure LogLine where
  level : Level
  target : String
  message : String
  deriving DecidableEq, Repr

/-- What is kept of the lines whose target starts with a text: those up to a level, or none. -/
structure Directive where
  target : String
  level : Option Level
  deriving DecidableEq, Repr

namespace Directive

def number? (s : String) : Option Nat :=
  let cs := if s.startsWith "+" then s.toList.tail else s.toList
  if cs.isEmpty then none else Digit.number? 10 cs

/-- A level by its name in letters of either case or by its rank. No text at all means errors. -/
def level? (s : String) : Option (Option Level) :=
  let name := s.map Char.toUpper
  if name = "OFF" || number? s = some 0 then some none
  else if name = "" then some (some .error)
  else (Level.all.find? fun l => l.name = name || number? s = some l.rank).map some

def isStart (c : Char) : Bool := c.isAlphanum || c = '-' || c = ':' || c = '_'

def parse (s : String) : Except String Directive :=
  if !s.toList.head?.any isStart || s.contains '[' then .error "invalid filter directive"
  else
    let target := s.toList.takeWhile (· ≠ '=')
    match s.toList.drop target.length with
    | [] => .ok ((level? s).elim ⟨s, some .trace⟩ fun level => ⟨"", level⟩)
    | _ :: level =>
        match level? (String.ofList level) with
        | some level => .ok ⟨String.ofList target, level⟩
        | none => .error ("error parsing level filter: expected one of \"off\", \"error\", " ++
            "\"warn\", \"info\", \"debug\", \"trace\", or a number 0-5")

def keeps (d : Directive) (l : LogLine) : Bool := d.level.any fun level => l.level.rank ≤ level.rank

end Directive

structure LogFilter where
  directives : List Directive

namespace LogFilter

/-- The directive for a line: the one whose target is the longest, of several the last. -/
def directive? (f : LogFilter) (l : LogLine) : Option Directive :=
  (f.directives.filter fun d => l.target.startsWith d.target).foldl
    (fun best d => match best with
      | some b => if d.target.length < b.target.length then some b else some d
      | none => some d) none

def keeps (f : LogFilter) (l : LogLine) : Bool := (f.directive? l).any (·.keeps l)

/-- The filter of a text of directives, and a note on each directive that is passed over. Where
none is left, only errors are kept. -/
def parse (s : String) : LogFilter × List String :=
  let read := ((s.splitOn ",").filter (· ≠ "")).map fun d => (d, Directive.parse d)
  let directives := read.filterMap fun d => d.2.toOption
  (⟨if directives.isEmpty then [⟨"", some .error⟩] else directives⟩,
    read.filterMap fun d => match d.2 with
      | .ok _ => none
      | .error reason => some ("ignoring `" ++ d.1 ++ "`: " ++ reason))

def defaultDirectives (level : String) : String := "warn,dataflow_control=" ++ level

end LogFilter

inductive Rotation where
  | hourly
  | daily
  | never
  deriving DecidableEq, Repr

def Rotation.ofName? (name : String) : Option Rotation :=
  if name = "hourly" then some hourly
  else if name = "daily" then some daily
  else if name = "never" then some never
  else none

def twoDigits (n : Nat) : String := if n < 10 then "0" ++ toString n else toString n

def dateText (day : Nat) : String :=
  let date := Std.Time.PlainDate.ofEpochDay ⟨day⟩
  toString date.year.toInt ++ "-" ++ twoDigits date.month.val.toNat ++ "-" ++
    twoDigits date.day.val.toNat

namespace Rotation

def stamp (r : Rotation) (hour : Nat) : String :=
  match r with
  | hourly => dateText (hour / 24) ++ "-" ++ twoDigits (hour % 24)
  | daily | never => dateText (hour / 24)

def fileName (r : Rotation) (file : String) (hour : Nat) : String :=
  if file = "" then r.stamp hour
  else if r = never then file
  else file ++ "." ++ r.stamp hour

end Rotation

end FlowBroker
