import Compositing.Geometry.Rect

/-!
# Regions of pixels

A region is a list of rectangles that do not overlap. Every operation fixes the cut it leaves
behind.
-/

namespace Compositing

namespace Rect

/-- What is left of `r` outside `hole`: a band above and one below over the full
width, then what lies beside the hole on the left and on the right. -/
def minus (r hole : Rect) : List Rect :=
  match r.intersection? hole with
  | none => [r]
  | some cut =>
    (if r.top < cut.top then [ofEdges r.left r.top r.right cut.top] else []) ++
    (if cut.bottom < r.bottom then [ofEdges r.left cut.bottom r.right r.bottom] else []) ++
    (if r.left < cut.left then [ofEdges r.left cut.top cut.left cut.bottom] else []) ++
    (if cut.right < r.right then [ofEdges cut.right cut.top r.right cut.bottom] else [])

def minusAll (r : Rect) (holes : List Rect) : List Rect :=
  holes.foldl (fun pieces hole => pieces.flatMap (·.minus hole)) [r]

end Rect

structure Region where
  rects : List Rect
deriving Inhabited

namespace Region

def empty : Region := ⟨[]⟩

def isEmpty (g : Region) : Bool := g.rects.isEmpty

/-- The number of pixels, modulo 2^64. -/
def area (g : Region) : UInt64 := g.rects.foldl (fun n r => n + r.area) 0

def bounds (g : Region) : Rect := g.rects.foldl Rect.hull Rect.empty

/-- The part of `r` that is not covered yet goes behind the rectangles already there. -/
def addRect (g : Region) (r : Rect) : Region :=
  if r.isEmpty then g else ⟨g.rects ++ r.minusAll g.rects⟩

def ofRects (rs : List Rect) : Region := rs.foldl addRect empty

def ofRect (r : Rect) : Region := empty.addRect r

def union (g h : Region) : Region := h.rects.foldl addRect g

def subtractRect (g : Region) (hole : Rect) : Region :=
  if hole.isEmpty then g else ⟨g.rects.flatMap (·.minus hole)⟩

def subtract (g h : Region) : Region := h.rects.foldl subtractRect g

def clipTo (g : Region) (clip : Rect) : Region := ⟨g.rects.filterMap (·.intersection? clip)⟩

def intersects (g : Region) (r : Rect) : Bool := g.rects.any (·.intersects r)

def contains (g : Region) (p : Point) : Bool := g.rects.any (·.contains p)

def translate (g : Region) (d : Point) : Region := ⟨g.rects.map (·.translate d)⟩

/-- Whether two regions cover the same pixels: as many of them, and none of the first
outside the second. -/
def same (g h : Region) : Bool := g.area == h.area && (g.subtract h).isEmpty

end Region

end Compositing
