import Compositing.Text.Character

/-! # Reasons for which compositing is held suspended, independent of one another -/

namespace Compositing

structure Suspension where
  user : Bool
  rule : Bool
  script : Bool
deriving DecidableEq, Inhabited

namespace Suspension

def none : Suspension := ⟨false, false, false⟩

def byUser : Suspension := ⟨true, false, false⟩

def byRule : Suspension := ⟨false, true, false⟩

def byScript : Suspension := ⟨false, false, true⟩

def all : Suspension := ⟨true, true, true⟩

def isEmpty (s : Suspension) : Bool := !s.user && !s.rule && !s.script

def union (s t : Suspension) : Suspension :=
  ⟨s.user || t.user, s.rule || t.rule, s.script || t.script⟩

def without (s t : Suspension) : Suspension :=
  ⟨s.user && !t.user, s.rule && !t.rule, s.script && !t.script⟩

def holds (s t : Suspension) : Bool :=
  (s.user || !t.user) && (s.rule || !t.rule) && (s.script || !t.script)

def bits (s : Suspension) : Nat :=
  (if s.user then 1 else 0) + (if s.rule then 2 else 0) + (if s.script then 4 else 0)

/-- The reasons among the bits of a number; other bits are dropped. -/
def ofBits (n : Nat) : Suspension := ⟨n.testBit 0, n.testBit 1, n.testBit 2⟩

def ofBits? (n : Nat) : Option Suspension := if n < 8 then some (ofBits n) else Option.none

def names (s : Suspension) : List String :=
  (if s.user then ["USER_REQUESTED"] else []) ++ (if s.rule then ["RULE_BLOCKED"] else []) ++
    (if s.script then ["SCRIPT_REQUESTED"] else [])

/-- The reasons of a constant's exact name. -/
def ofName? : String → Option Suspension
  | "USER_REQUESTED" => some byUser
  | "RULE_BLOCKED" => some byRule
  | "SCRIPT_REQUESTED" => some byScript
  | "ALL" => some all
  | _ => Option.none

/-- The reasons that a caller names: `user`, `rule`, `script` or `all`, with blanks around
the word and in either case of its ASCII letters. -/
def ofControlName? (name : String) : Option Suspension :=
  match String.ofList ((Text.trimChars name.toList).map Char.toLower) with
  | "user" => some byUser
  | "rule" => some byRule
  | "script" => some byScript
  | "all" => some all
  | _ => Option.none

def describe (s : Suspension) : String :=
  "SuspendReason(" ++ (if s.isEmpty then "0x0" else String.intercalate " | " s.names) ++ ")"

end Suspension

end Compositing
