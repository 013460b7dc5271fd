import Compositing.Toml.Value

/-!
# Tables under construction

How a table came to be decides what may still be added to it.
-/

namespace Compositing.Toml

inductive Origin where
  /-- Under a header. -/
  | stated
  /-- On the way to a header. -/
  | passed
  /-- By a dotted key. -/
  | dotted
deriving DecidableEq

inductive Draft where
  | leaf (value : Value)
  | table (origin : Origin) (members : List (String × Draft))
  | tables (items : List (List (String × Draft)))

abbrev Members := List (String × Draft)

namespace Draft

mutual

def toValue : Draft → Value
  | .leaf v => v
  | .table _ members => .table (entriesOf members)
  | .tables items => .tables (tablesOf items)

def entriesOf : Members → Table
  | [] => []
  | (key, d) :: rest => (key, d.toValue) :: entriesOf rest

def tablesOf : List Members → List Table
  | [] => []
  | m :: rest => entriesOf m :: tablesOf rest

end

end Draft

namespace Members

def replace (m : Members) (key : String) (d : Draft) : Members :=
  m.map fun e => if e.1 = key then (key, d) else e

/-- Changes the table at the end of a path. Tables that are missing on the way are made; an array
of tables stands for its last item. A value in the way, or a stated table on the way of a
dotted key, is an error. -/
def descend (dottedKey : Bool) (change : Origin → Members → Option (Members × α)) :
    List String → Origin → Members → Option (Members × α)
  | [], origin, m => change origin m
  | key :: path, _, m =>
    match m.lookup key with
    | none => do
      let origin := if dottedKey then Origin.dotted else Origin.passed
      let (inner, a) ← descend dottedKey change path origin []
      return (m ++ [(key, .table origin inner)], a)
    | some (.leaf _) => none
    | some (.tables items) => do
      let (last, a) ← descend dottedKey change path .stated (← items.getLast?)
      return (m.replace key (.tables (items.dropLast ++ [last])), a)
    | some (.table origin inner) => do
      guard !(dottedKey && origin == .stated)
      let (inner, a) ← descend dottedKey change path origin inner
      return (m.replace key (.table origin inner), a)

/-- Adds a value under a dotted key, given as the path to its table and its last part. Only a key
that was not written before is taken, and a path must end in a table made by dotted keys. -/
def assign (m : Members) (path : List String) (key : String) (v : Value) : Option Members := do
  let add (origin : Origin) (m : Members) : Option (Members × Unit) := do
    guard ((origin == .dotted) != path.isEmpty)
    guard (m.lookup key).isNone
    return (m ++ [(key, .leaf v)], ())
  return (← m.descend true add path .stated).1

/-- Opens the table under a header: the members that a table passed before has already, which
leaves its place for the time being. -/
def openTable (m : Members) (path : List String) (key : String) : Option (Members × Members) :=
  let take (_ : Origin) (m : Members) : Option (Members × Members) :=
    match m.lookup key with
    | none => some (m, [])
    | some (.table .passed inner) => some (m.filter (·.1 != key), inner)
    | some _ => none
  m.descend false take path .stated

def openItem (m : Members) (path : List String) (key : String) : Option Members := do
  let prepare (_ : Origin) (m : Members) : Option (Members × Unit) :=
    match m.lookup key with
    | none => some (m ++ [(key, .tables [])], ())
    | some (.tables _) => some (m, ())
    | some _ => none
  return (← m.descend false prepare path .stated).1

def closeTable (m : Members) (path : List String) (key : String) (table : Members) :
    Option Members := do
  let put (_ : Origin) (m : Members) : Option (Members × Unit) := do
    guard (m.lookup key).isNone
    return (m ++ [(key, .table .stated table)], ())
  return (← m.descend false put path .stated).1

def closeItem (m : Members) (path : List String) (key : String) (item : Members) :
    Option Members := do
  let put (_ : Origin) (m : Members) : Option (Members × Unit) :=
    match m.lookup key with
    | none => some (m ++ [(key, .tables [item])], ())
    | some (.tables items) => some (m.replace key (.tables (items ++ [item])), ())
    | some _ => none
  return (← m.descend false put path .stated).1

end Members

end Compositing.Toml
