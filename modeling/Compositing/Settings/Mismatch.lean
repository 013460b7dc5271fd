import Compositing.Decimal.Shortest
import Compositing.Text.Quoted
import Compositing.Toml.MomentTable

/-! # How a document can fail to describe options -/

namespace Compositing

inductive Mismatch where
  | unknownKey (key : String) (known : List String)
  | unknownChoice (name : String) (known : List String)
  | wrongType (found wanted : String)
  | outOfRange (n : Int) (wanted : String)
  | surplusItems (count : Nat)
  | noChoice
  | emptyChoice
  | severalChoices
  /-- A choice comes with content, in a value that should have been empty. -/
  | contentInChoice (kind : String)
  /-- A choice comes with a value that cannot be empty. -/
  | valueInChoice (kind : String)
  | noMoment (flaw : Toml.MomentFlaw)
deriving DecidableEq

namespace Mismatch

def ticked (s : String) : String := "`" ++ s ++ "`"

def alternatives : List String → String
  | [a] => ticked a
  | [a, b] => ticked a ++ " or " ++ ticked b
  | names => "one of " ++ ", ".intercalate (names.map ticked)

def message : Mismatch → String
  | .unknownKey key known => "unknown field " ++ ticked key ++ ", expected " ++ alternatives known
  | .unknownChoice name known =>
    "unknown variant " ++ ticked name ++ ", expected " ++ alternatives known
  | .wrongType found wanted => "invalid type: " ++ found ++ ", expected " ++ wanted
  | .outOfRange n wanted =>
    "invalid value: integer " ++ ticked (toString n) ++ ", expected " ++ wanted
  | .surplusItems count =>
    "invalid length " ++ toString count ++ ", expected fewer elements in array"
  | .noChoice => "wanted string or table"
  | .emptyChoice => "wanted exactly 1 element, found 0 elements"
  | .severalChoices => "wanted exactly 1 element, more than 1 element"
  | .contentInChoice kind => "expected empty " ++ kind
  | .valueInChoice kind => "expected table, found " ++ kind
  | .noMoment ⟨part, wanted?⟩ => "invalid " ++ part ++ (wanted?.map (", expected " ++ ·)).getD ""

def described : Toml.Value → String
  | .string s => "string " ++ Text.quoted s
  | .integer n => "integer " ++ ticked (toString n)
  | .float f => "floating point " ++ ticked (Decimal.text f)
  | .boolean b => "boolean " ++ ticked (if b then "true" else "false")
  | .array _ | .tables _ => "sequence"
  | .moment _ | .table _ => "map"

def ofNoMoment : Toml.NoMoment → Mismatch
  | .noText found => .wrongType (described found) "string containing a datetime"
  | .flawed flaw => .noMoment flaw

end Mismatch

end Compositing
