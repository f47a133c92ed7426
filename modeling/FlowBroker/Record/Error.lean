import FlowBroker.Json.Printer
import FlowBroker.Text.Glyphless
import FlowBroker.Url.Host

namespace FlowBroker

inductive Found where
  | null
  | bool (b : Bool)
  | number (n : Number)
  | string (s : String)
  | sequence
  | map
  deriving DecidableEq, Repr

def Found.text : Found → String
  | null => "null"
  | bool b => "boolean `" ++ toString b ++ "`"
  | number (.integer n) => "integer `" ++ toString n ++ "`"
  | number (.float bits) => "floating point `" ++ Json.floatText bits ++ "`"
  | string s => "string " ++ Quoted.encode s
  | sequence => "sequence"
  | map => "map"

inductive DecodeError where
  | malformed
  | wrongType (found : Found) (expected : String)
  | wrongValue (found : Found) (expected : String)
  | missingField (name : String)
  | duplicateField (name : String)
  | unknownVariant (name : String) (first second : String)
  | wrongLength (length : Nat) (expected : String)
  | tooManyItems (length : Nat)
  | badUuid
  | badUrl (error : UrlError) (text : String)
  deriving DecidableEq, Repr

def DecodeError.message : DecodeError → String
  | malformed => "malformed document"
  | wrongType found expected => "invalid type: " ++ found.text ++ ", expected " ++ expected
  | wrongValue found expected => "invalid value: " ++ found.text ++ ", expected " ++ expected
  | missingField name => "missing field `" ++ name ++ "`"
  | duplicateField name => "duplicate field `" ++ name ++ "`"
  | unknownVariant name first second =>
      "unknown variant `" ++ name ++ "`, expected `" ++ first ++ "` or `" ++ second ++ "`"
  | wrongLength length expected => "invalid length " ++ toString length ++ ", expected " ++ expected
  | tooManyItems length =>
      "invalid length " ++ toString length ++ ", expected fewer elements in array"
  | badUuid => "UUID parsing failed"
  | badUrl error text => error.message ++ ": " ++ Quoted.encode text

abbrev Decoded (α : Type) := Except DecodeError α

end FlowBroker
