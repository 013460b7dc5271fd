/-!
# Points, sizes and rectangles on the screen

Sums of positions stop at the ends of the range. A rectangle owns its left and top edges and not
its right and bottom ones.
-/

namespace Compositing

abbrev Coord := Int32

abbrev Extent := UInt32

namespace Coord

def clamp (i : Int) : Coord :=
  Int32.ofInt (max (-2147483648) (min 2147483647 i))

def add (a b : Coord) : Coord := clamp (a.toInt + b.toInt)

def sub (a b : Coord) : Coord := clamp (a.toInt - b.toInt)

/-- The extent from `a` up to `b`, reduced modulo 2^32; nothing if `b` comes before `a`. -/
def span (a b : Coord) : Extent := (b.toInt - a.toInt).toNat.toUInt32

end Coord

structure Point where
  x : Coord
  y : Coord
deriving DecidableEq, Inhabited

namespace Point

def origin : Point := ⟨0, 0⟩

def add (p q : Point) : Point := ⟨p.x.add q.x, p.y.add q.y⟩

def sub (p q : Point) : Point := ⟨p.x.sub q.x, p.y.sub q.y⟩

end Point

structure Size where
  width : Extent
  height : Extent
deriving DecidableEq, Inhabited

namespace Size

def isEmpty (s : Size) : Bool := s.width == 0 || s.height == 0

/-- The product of two 32-bit extents always fits. -/
def area (s : Size) : UInt64 := s.width.toUInt64 * s.height.toUInt64

end Size

structure Rect where
  origin : Point
  size : Size
deriving DecidableEq, Inhabited

namespace Rect

def ofCoords (x y : Coord) (width height : Extent) : Rect := ⟨⟨x, y⟩, ⟨width, height⟩⟩

def ofEdges (left top right bottom : Coord) : Rect :=
  ofCoords left top (left.span right) (top.span bottom)

def empty : Rect := ofCoords 0 0 0 0

def left (r : Rect) : Coord := r.origin.x

def top (r : Rect) : Coord := r.origin.y

/-- An extent is read as a signed displacement, so one of 2^31 or more leads backwards. -/
def right (r : Rect) : Coord := r.origin.x.add r.size.width.toInt32

def bottom (r : Rect) : Coord := r.origin.y.add r.size.height.toInt32

def area (r : Rect) : UInt64 := r.size.area

def center (r : Rect) : Point :=
  ⟨r.origin.x.add (r.size.width / 2).toInt32, r.origin.y.add (r.size.height / 2).toInt32⟩

def isEmpty (r : Rect) : Bool := r.size.isEmpty

def contains (r : Rect) (p : Point) : Bool :=
  decide (r.left ≤ p.x) && decide (p.x < r.right) && decide (r.top ≤ p.y) && decide (p.y < r.bottom)

/-- Every rectangle encloses an empty one. -/
def encloses (r s : Rect) : Bool :=
  s.isEmpty || (decide (r.left ≤ s.left) && decide (r.top ≤ s.top) &&
    decide (s.right ≤ r.right) && decide (s.bottom ≤ r.bottom))

def intersects (r s : Rect) : Bool :=
  !r.isEmpty && !s.isEmpty && decide (r.left < s.right) && decide (s.left < r.right) &&
    decide (r.top < s.bottom) && decide (s.top < r.bottom)

def intersection? (r s : Rect) : Option Rect :=
  if r.intersects s then
    some (ofEdges (max r.left s.left) (max r.top s.top) (min r.right s.right) (min r.bottom s.bottom))
  else none

def hull (r s : Rect) : Rect :=
  if r.isEmpty then s
  else if s.isEmpty then r
  else ofEdges (min r.left s.left) (min r.top s.top) (max r.right s.right) (max r.bottom s.bottom)

def translate (r : Rect) (d : Point) : Rect := ⟨r.origin.add d, r.size⟩

def atOrigin (r : Rect) : Rect := ⟨Point.origin, r.size⟩

end Rect

end Compositing
