import Compositing.Window.Toplevel

/-! # The stack of windows from bottom to top, each id once -/

namespace Compositing

structure WindowStack where
  windows : List Toplevel
deriving Inhabited

namespace WindowStack

def empty : WindowStack := ⟨[]⟩

def ids (s : WindowStack) : List WindowId := s.windows.map (·.id)

def get? (s : WindowStack) (id : WindowId) : Option Toplevel := s.windows.find? (·.id == id)

def contains (s : WindowStack) (id : WindowId) : Bool := (s.get? id).isSome

def modify (s : WindowStack) (id : WindowId) (f : Toplevel → Toplevel) : WindowStack :=
  ⟨s.windows.map fun w => if w.id == id then f w else w⟩

/-- Puts a window on top; a window with the same id is replaced where it stands. -/
def insert (s : WindowStack) (w : Toplevel) : WindowStack :=
  if s.contains w.id then s.modify w.id fun _ => w else ⟨s.windows ++ [w]⟩

def remove (s : WindowStack) (id : WindowId) : WindowStack := ⟨s.windows.filter (·.id != id)⟩

/-- Puts the listed windows on top, in the order of their first mention, and keeps the others
below as they stand. Unknown ids are passed over. -/
def restack (s : WindowStack) (order : List WindowId) : WindowStack :=
  ⟨s.windows.filter (fun w => !order.contains w.id) ++ order.eraseDups.filterMap s.get?⟩

def raise (s : WindowStack) (id : WindowId) : WindowStack := s.restack [id]

def placeholders (s : WindowStack) : List WindowId :=
  (s.windows.filter (·.isPlaceholder)).map (·.id)

def discardPlaceholders (s : WindowStack) : WindowStack :=
  ⟨s.windows.filter fun w => !w.isPlaceholder⟩

def unredirectedGeometries (s : WindowStack) : List Rect :=
  (s.windows.filter (·.unredirected)).map (·.geometry)

/-- Takes the windows with the given ids one after the other through `f`, which also changes
a state along the way. -/
def visit {τ : Type} (ids : List WindowId) (f : Toplevel → τ → Toplevel × τ)
    (s : WindowStack) (t : τ) : WindowStack × τ :=
  match ids with
  | [] => (s, t)
  | id :: rest =>
    match s.get? id with
    | none => visit rest f s t
    | some w =>
      let (w, t) := f w t
      visit rest f (s.modify id fun _ => w) t

/-- Whether, from the top down, `w` comes before any window that intersects it. -/
def uncoveredFrom (w : Toplevel) : List Toplevel → Bool
  | [] => false
  | above :: rest =>
    if above.id = w.id then true
    else if above.geometry.intersects w.geometry then false
    else uncoveredFrom w rest

/-- Whether no window above `w` intersects it. A window outside the stack is covered. -/
def isUncovered (s : WindowStack) (w : Toplevel) : Bool := uncoveredFrom w s.windows.reverse

end WindowStack

end Compositing
