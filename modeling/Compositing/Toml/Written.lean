import Compositing.Decimal.Shortest
import Compositing.Text.Quoted
import Compositing.Toml.Value

/-!
# The text of a document

First the values that are no tables, and then a header and lines for each table.
-/

namespace Compositing.Toml

mutual

def Value.written : Value → String
  | .string s => Text.escaped s
  | .integer n => toString n
  | .float f => Decimal.text f
  | .boolean b => if b then "true" else "false"
  | .moment m => m.text
  | .array items => "[" ++ ", ".intercalate (writtenItems items) ++ "]"
  | .tables items => "[" ++ ", ".intercalate (writtenTables items) ++ "]"
  | .table entries => "\x7b" ++ ", ".intercalate (writtenEntries entries) ++ "\x7d"

def writtenItems : List Value → List String
  | [] => []
  | v :: rest => v.written :: writtenItems rest

def writtenTables : List Table → List String
  | [] => []
  | t :: rest => ("\x7b" ++ ", ".intercalate (writtenEntries t) ++ "\x7d") :: writtenTables rest

def writtenEntries : Table → List String
  | [] => []
  | (key, v) :: rest => (Text.escaped key ++ " = " ++ v.written) :: writtenEntries rest

end

def Table.sections (t : Table) : List (String × Table) :=
  t.filterMap fun
    | (key, .table inner) => some (key, inner)
    | _ => none

def Table.plain (t : Table) : Table :=
  t.filter fun
    | (_, .table _) => false
    | _ => true

def Table.written (t : Table) : String :=
  String.join ((writtenEntries t.plain).map (· ++ "\n")) ++
    String.join (t.sections.map fun (key, inner) =>
      "[" ++ Text.escaped key ++ "]\n" ++
        String.join ((writtenEntries inner).map (· ++ "\n")))

end Compositing.Toml
