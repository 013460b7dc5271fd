import Compositing.Failure
import Compositing.Files.Path

/-!
# A tree of files

A place is the list of names that lead to it from the root, which is always a directory.
-/

namespace Compositing

inductive FileEntry where
  | directory
  | file (content : ByteArray)

abbrev Place := List String

structure FileTree where
  entries : List (Place × FileEntry)

inductive Obstacle where
  | missing
  | notDirectory
  /-- A path or a name in it is too long, or the path holds a zero character. -/
  | unnameable
  | exists
deriving DecidableEq

namespace FileTree

def empty : FileTree := ⟨[]⟩

def entry? (t : FileTree) : Place → Option FileEntry
  | [] => some .directory
  | place => t.entries.lookup place

def steps (p : String) : List String := (p.splitOn "/").filter (!·.isEmpty)

def nameable (name : String) : Bool := name.utf8ByteSize ≤ 255

def isUsable (p : String) : Bool := p.utf8ByteSize ≤ 4095 && !p.contains '\x00'

def walk (t : FileTree) : Place → List String → Except Obstacle Place
  | here, [] => .ok here
  | here, "." :: rest => t.walk here rest
  | here, ".." :: rest => t.walk here.dropLast rest
  | here, name :: rest =>
    if !nameable name then .error .unnameable
    else match t.entry? (here ++ [name]) with
      | none => .error .missing
      | some .directory => t.walk (here ++ [name]) rest
      | some (.file _) => if rest.isEmpty then .ok (here ++ [name]) else .error .notDirectory

/-- What a path leads to. A slash at its end asks for a directory. -/
def find? (t : FileTree) (p : String) : Except Obstacle FileEntry := do
  unless isUsable p do throw .unnameable
  match t.entry? (← t.walk [] (steps p ++ if p.endsWith "/" then ["."] else [])) with
  | some e => return e
  | none => throw .missing

def holds (t : FileTree) (p : String) : Bool := (t.find? p).isOk

def isDirectory (t : FileTree) (p : String) : Bool :=
  match t.find? p with
  | .ok .directory => true
  | _ => false

def make (t : FileTree) (p : String) (e : FileEntry) : Except Obstacle FileTree := do
  unless isUsable p do throw .unnameable
  match (steps p).reverse with
  | [] => throw .exists
  | name :: above =>
    let base ← t.walk [] (above.reverse ++ ["."])
    if name = "." || name = ".." then throw .exists
    if !nameable name then throw .unnameable
    if (t.entry? (base ++ [name])).isSome then throw .exists
    return ⟨t.entries ++ [(base ++ [name], e)]⟩

/-- Makes the first of some paths, each in the next one, and before it those that are missing. What
was made stays, also where something fails later. -/
def makeFirst (t : FileTree) : List String → Except Obstacle Unit × FileTree
  | [] => (.ok (), t)
  | p :: above =>
    match t.make p .directory with
    | .ok t => (.ok (), t)
    | .error .missing =>
      match t.makeFirst above with
      | (.error e, t) => (.error e, t)
      | (.ok (), t) =>
        match t.make p .directory with
        | .ok t => (.ok (), t)
        | .error e => (if t.isDirectory p then .ok () else .error e, t)
    | .error e => (if t.isDirectory p then .ok () else .error e, t)

def makeDirectories (t : FileTree) (p : String) : Except Obstacle Unit × FileTree :=
  match Path.upward (Path.partsBack p) with
  | [] => (.ok (), t)
  | _ :: above => t.makeFirst (p :: above)

def ensureDirectory (t : FileTree) (p : String) : Except GroundError Unit × FileTree :=
  if t.holds p then
    if t.isDirectory p then (.ok (), t)
    else
      let what := "Path exists but is not a directory"
      (.error (.files what p what), t)
  else
    match t.makeDirectories p with
    | (.ok (), t) => (.ok (), t)
    | (.error _, t) => (.error (.files "Failed to create directory" p "cannot be made"), t)

def prepareFile (t : FileTree) (p : String) : Except GroundError Unit × FileTree :=
  match Path.parent? p with
  | some above => if t.holds above then (.ok (), t) else t.ensureDirectory above
  | none => (.ok (), t)

def withDirectory (t : FileTree) (p : String) : FileTree := (t.makeDirectories p).2

def overwrite (t : FileTree) (place : Place) (content : ByteArray) : FileTree :=
  ⟨t.entries.map fun
    | (q, .file old) => (q, .file (if q = place then content else old))
    | e => e⟩

def put (t : FileTree) (p : String) (content : ByteArray) : FileTree :=
  let t := ((Path.parent? p).map fun above => t.withDirectory above).getD t
  match t.make p (.file content), t.walk [] (steps p) with
  | .ok t, _ => t
  | .error _, .ok place => t.overwrite place content
  | .error _, .error _ => t

def directoriesBelow (t : FileTree) (place : Place) : List String :=
  (t.entries.filterMap fun
    | (p, .directory) =>
      if place.isPrefixOf p && place.length < p.length then
        some ("/".intercalate (p.drop place.length))
      else none
    | _ => none).mergeSort fun a b => decide (a ≤ b)

end FileTree

end Compositing
