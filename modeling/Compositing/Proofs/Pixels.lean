import Compositing.Geometry.Region
import Mathlib.Data.List.Basic

/-!
# Which pixels rectangles and regions cover

Regions are told apart by the pixels that they cover and not by how these are cut into
rectangles. Adding, subtracting and joining regions are the operations on sets of pixels that
their names say. This holds of all rectangles: one whose extent leads backwards covers nothing.
-/

namespace Compositing

namespace Coord

theorem clamp_toInt (i : Int) : (clamp i).toInt = max (-2147483648) (min 2147483647 i) := by
  have size : Int32.size = 4294967296 := rfl
  rw [clamp, Int32.toInt_ofInt]
  apply Int.bmod_eq_of_le <;> omega

theorem toInt_bounds (a : Coord) : -2147483648 ≤ a.toInt ∧ a.toInt < 2147483648 :=
  ⟨Int32.le_toInt a, Int32.toInt_lt a⟩

theorem max_toInt (a b : Coord) : (max a b).toInt = max a.toInt b.toInt := by
  have eq : max a b = if a ≤ b then b else a := rfl
  rw [eq]
  split
  · rename_i h
    have h := Int32.le_iff_toInt_le.mp h
    omega
  · rename_i h
    have h := mt Int32.le_iff_toInt_le.mpr h
    omega

theorem min_toInt (a b : Coord) : (min a b).toInt = min a.toInt b.toInt := by
  have eq : min a b = if a ≤ b then a else b := rfl
  rw [eq]
  split
  · rename_i h
    have h := Int32.le_iff_toInt_le.mp h
    omega
  · rename_i h
    have h := mt Int32.le_iff_toInt_le.mpr h
    omega

/-- An extent read as a displacement. -/
theorem displacement (n : Extent) :
    n.toInt32.toInt = if n.toNat < 2147483648 then (n.toNat : Int) else n.toNat - 4294967296 := by
  have ofNat : n = UInt32.ofNat n.toNat := by simp
  have small : n.toNat < 4294967296 := n.toNat_lt
  have size : Int32.size = 4294967296 := rfl
  rw [ofNat, UInt32.toInt32_ofNat', Int32.toInt_ofNat', ← ofNat, Int.bmod_def, size]
  split <;> split <;> omega

theorem add_toInt (a : Coord) (n : Extent) :
    (a.add n.toInt32).toInt = max (-2147483648) (min 2147483647 (a.toInt + n.toInt32.toInt)) :=
  clamp_toInt _

/-- What a position reaches with an extent lies less than 2^31 ahead. -/
theorem add_sub_lt (a : Coord) (n : Extent) : (a.add n.toInt32).toInt - a.toInt < 2147483648 := by
  have bounds := toInt_bounds a
  have small : n.toNat < 4294967296 := n.toNat_lt
  rw [add_toInt, displacement]
  split <;> omega

/-- Between two positions the extent is what lies between them, or nothing. -/
theorem add_span {a b : Coord} (near : b.toInt - a.toInt < 2147483648) :
    (a.add (a.span b).toInt32).toInt = max a.toInt b.toInt := by
  have bounds := toInt_bounds a
  have bounds' := toInt_bounds b
  have extent : (a.span b).toNat = (b.toInt - a.toInt).toNat := by
    have small : (b.toInt - a.toInt).toNat < 4294967296 := by omega
    rw [span]
    exact Nat.mod_eq_of_lt small
  rw [add_toInt, displacement, extent]
  split <;> omega

end Coord

namespace Rect

theorem contains_iff {r : Rect} {p : Point} :
    r.contains p = true ↔
      (r.left.toInt ≤ p.x.toInt ∧ p.x.toInt < r.right.toInt) ∧
        r.top.toInt ≤ p.y.toInt ∧ p.y.toInt < r.bottom.toInt := by
  simp only [contains, Bool.and_eq_true, decide_eq_true_eq, Int32.le_iff_toInt_le,
    Int32.lt_iff_toInt_lt, and_assoc]

theorem right_sub_left (r : Rect) : r.right.toInt - r.left.toInt < 2147483648 :=
  Coord.add_sub_lt r.origin.x r.size.width

theorem bottom_sub_top (r : Rect) : r.bottom.toInt - r.top.toInt < 2147483648 :=
  Coord.add_sub_lt r.origin.y r.size.height

/-- Nothing is in an empty rectangle. -/
theorem contains_of_isEmpty {r : Rect} (empty : r.isEmpty = true) (p : Point) :
    r.contains p = false := by
  have flat (a : Coord) : (a.add (0 : Extent).toInt32).toInt = a.toInt := by
    have bounds := Coord.toInt_bounds a
    have none : (0 : Extent).toInt32.toInt = 0 := rfl
    rw [Coord.add_toInt, none]
    omega
  simp only [isEmpty, Size.isEmpty, Bool.or_eq_true, beq_iff_eq] at empty
  by_contra inside
  obtain ⟨across, down⟩ := contains_iff.mp (by simpa using inside)
  rcases empty with none | none
  · have same : r.right.toInt = r.left.toInt := by rw [right, none, flat]; rfl
    omega
  · have same : r.bottom.toInt = r.top.toInt := by rw [bottom, none, flat]; rfl
    omega

section Edges
variable {left top right bottom : Coord}

variable (left top right bottom) in
theorem ofEdges_right (near : right.toInt - left.toInt < 2147483648) :
    (ofEdges left top right bottom).right.toInt = max left.toInt right.toInt :=
  Coord.add_span near

variable (left top right bottom) in
theorem ofEdges_bottom (near : bottom.toInt - top.toInt < 2147483648) :
    (ofEdges left top right bottom).bottom.toInt = max top.toInt bottom.toInt :=
  Coord.add_span near

theorem contains_ofEdges (across : right.toInt - left.toInt < 2147483648)
    (down : bottom.toInt - top.toInt < 2147483648) {p : Point} :
    (ofEdges left top right bottom).contains p = true ↔
      (left.toInt ≤ p.x.toInt ∧ p.x.toInt < right.toInt) ∧
        top.toInt ≤ p.y.toInt ∧ p.y.toInt < bottom.toInt := by
  have left_eq : (ofEdges left top right bottom).left = left := rfl
  have top_eq : (ofEdges left top right bottom).top = top := rfl
  rw [contains_iff, ofEdges_right _ _ _ _ across, ofEdges_bottom _ _ _ _ down, left_eq, top_eq]
  constructor <;> omega

/-- A piece that is left out if it has no height. -/
theorem contains_band (across : right.toInt - left.toInt < 2147483648)
    (down : bottom.toInt - top.toInt < 2147483648) {p : Point} :
    (if top < bottom then [ofEdges left top right bottom] else []).any (·.contains p) = true ↔
      (left.toInt ≤ p.x.toInt ∧ p.x.toInt < right.toInt) ∧
        top.toInt ≤ p.y.toInt ∧ p.y.toInt < bottom.toInt := by
  split
  · rw [List.any_cons, List.any_nil, Bool.or_false, contains_ofEdges across down]
  · rename_i flat
    have flat := mt Int32.lt_iff_toInt_lt.mpr flat
    simp only [List.any_nil, Bool.false_eq_true, false_iff]
    omega

/-- A piece that is left out if it has no width. -/
theorem contains_side (across : right.toInt - left.toInt < 2147483648)
    (down : bottom.toInt - top.toInt < 2147483648) {p : Point} :
    (if left < right then [ofEdges left top right bottom] else []).any (·.contains p) = true ↔
      (left.toInt ≤ p.x.toInt ∧ p.x.toInt < right.toInt) ∧
        top.toInt ≤ p.y.toInt ∧ p.y.toInt < bottom.toInt := by
  split
  · rw [List.any_cons, List.any_nil, Bool.or_false, contains_ofEdges across down]
  · rename_i flat
    have flat := mt Int32.lt_iff_toInt_lt.mpr flat
    simp only [List.any_nil, Bool.false_eq_true, false_iff]
    omega

end Edges

theorem intersects_iff {r s : Rect} :
    r.intersects s = true ↔ r.isEmpty = false ∧ s.isEmpty = false ∧
      (r.left.toInt < s.right.toInt ∧ s.left.toInt < r.right.toInt) ∧
        r.top.toInt < s.bottom.toInt ∧ s.top.toInt < r.bottom.toInt := by
  simp only [intersects, Bool.and_eq_true, Bool.not_eq_true', decide_eq_true_eq,
    Int32.lt_iff_toInt_lt, and_assoc]

/-- Rectangles that do not intersect have no pixel in common. -/
theorem apart_of_not_intersects {r s : Rect} (apart : r.intersects s = false) {p : Point}
    (inside : r.contains p = true) : s.contains p = false := by
  by_contra both
  have both : s.contains p = true := by simpa using both
  have filled {r : Rect} (inside : r.contains p = true) : r.isEmpty = false := by
    by_contra empty
    simp [contains_of_isEmpty (by simpa using empty) p] at inside
  have crossing : r.intersects s = true := by
    have here := contains_iff.mp inside
    have there := contains_iff.mp both
    refine intersects_iff.mpr ⟨filled inside, filled both, ⟨?_, ?_⟩, ?_, ?_⟩ <;> omega
  simp [apart] at crossing

/-- One axis of a rectangle from `a` to `e` that a hole from `a'` to `e'` crosses. What lies
before the cut or behind it is not in the hole, and what lies in the cut is. -/
theorem axis_cut {a e a' e' q : Int} (first : a < e') (second : a' < e) :
    ((a ≤ q ∧ q < max a a') ∨ (max (max a a') (min e e') ≤ q ∧ q < e) ↔
        (a ≤ q ∧ q < e) ∧ ¬(a' ≤ q ∧ q < e')) ∧
      (max a a' ≤ q ∧ q < max (max a a') (min e e') ↔
        (a ≤ q ∧ q < e) ∧ (a' ≤ q ∧ q < e')) := by
  constructor
  · constructor <;> omega
  · constructor <;> omega

/-- What lies beside the hole along the second axis, or along the first one at its height. -/
theorem beside_iff {x y hx hy : Prop} :
    x ∧ (y ∧ ¬hy) ∨ (x ∧ ¬hx) ∧ (y ∧ hy) ↔ (x ∧ y) ∧ ¬(hx ∧ hy) := by
  by_cases hx <;> by_cases hy <;> simp [*]

/-- The edges of what two rectangles have in common. -/
theorem intersection_edges {r s cut : Rect} (found : r.intersection? s = some cut) :
    r.intersects s = true ∧ cut.left.toInt = max r.left.toInt s.left.toInt ∧
      cut.top.toInt = max r.top.toInt s.top.toInt ∧
      cut.right.toInt = max cut.left.toInt (min r.right.toInt s.right.toInt) ∧
      cut.bottom.toInt = max cut.top.toInt (min r.bottom.toInt s.bottom.toInt) := by
  rw [intersection?] at found
  split at found
  · rename_i crossing
    have wide := right_sub_left r
    have high := bottom_sub_top r
    have left := Coord.max_toInt r.left s.left
    have top := Coord.max_toInt r.top s.top
    have right := Coord.min_toInt r.right s.right
    have bottom := Coord.min_toInt r.bottom s.bottom
    obtain rfl := Option.some.inj found
    refine ⟨crossing, left, top, ?_, ?_⟩
    · rw [ofEdges_right _ _ _ _ (by omega), right]
      rfl
    · rw [ofEdges_bottom _ _ _ _ (by omega), bottom]
      rfl
  · simp at found

theorem contains_minus (r hole : Rect) (p : Point) :
    (r.minus hole).any (·.contains p) = (r.contains p && !hole.contains p) := by
  rw [minus]
  split
  · rename_i apart
    have apart : r.intersects hole = false := by
      by_contra crossing
      simp [intersection?, by simpa using crossing] at apart
    cases inside : r.contains p with
    | false => simp [inside]
    | true => simp [inside, apart_of_not_intersects apart inside]
  · rename_i cut found
    obtain ⟨crossing, left, top, right, bottom⟩ := intersection_edges found
    obtain ⟨_, _, across, down⟩ := intersects_iff.mp crossing
    have wide := right_sub_left r
    have high := bottom_sub_top r
    -- no piece is wider or higher than the rectangle
    have before : cut.left.toInt - r.left.toInt < 2147483648 := by omega
    have behind : r.right.toInt - cut.right.toInt < 2147483648 := by omega
    have above : cut.top.toInt - r.top.toInt < 2147483648 := by omega
    have below : r.bottom.toInt - cut.bottom.toInt < 2147483648 := by omega
    have beside : cut.bottom.toInt - cut.top.toInt < 2147483648 := by omega
    have x := axis_cut (q := p.x.toInt) across.1 across.2
    have y := axis_cut (q := p.y.toInt) down.1 down.2
    rw [← left, ← right] at x
    rw [← top, ← bottom] at y
    rw [Bool.eq_iff_iff, List.any_append, List.any_append, List.any_append]
    simp only [Bool.or_eq_true, Bool.and_eq_true, Bool.not_eq_true']
    rw [contains_band wide above, contains_band wide below, contains_side before beside,
      contains_side behind beside, ← Bool.not_eq_true, contains_iff, contains_iff,
      ← and_or_left, or_assoc, ← or_and_right, x.1, y.1, y.2]
    exact beside_iff

theorem contains_minusAll (r : Rect) (holes : List Rect) (p : Point) :
    (r.minusAll holes).any (·.contains p) = (r.contains p && !holes.any (·.contains p)) := by
  have all (pieces : List Rect) :
      (holes.foldl (fun pieces hole => pieces.flatMap (·.minus hole)) pieces).any (·.contains p) =
        (pieces.any (·.contains p) && !holes.any (·.contains p)) := by
    induction holes generalizing pieces with
    | nil => simp
    | cons hole rest ih =>
      have cut : (pieces.flatMap (·.minus hole)).any (·.contains p) =
          (pieces.any (·.contains p) && !hole.contains p) := by
        simp only [List.any_flatMap, contains_minus]
        induction pieces with
        | nil => rfl
        | cons r rest ih => simp only [List.any_cons, ih, Bool.and_or_distrib_right]
      rw [List.foldl_cons, ih, cut, List.any_cons, Bool.not_or, Bool.and_assoc]
  rw [minusAll, all]
  simp

/-- What every cut keeps is kept by all of them together. -/
theorem minusAll_induction {P : Rect → Prop} {holes : List Rect}
    (cut : ∀ piece, P piece → ∀ hole ∈ holes, ∀ s ∈ piece.minus hole, P s) {r : Rect}
    (whole : P r) : ∀ s ∈ r.minusAll holes, P s := by
  have all (pieces : List Rect) (start : ∀ s ∈ pieces, P s) :
      ∀ s ∈ holes.foldl (fun pieces hole => pieces.flatMap (·.minus hole)) pieces, P s := by
    induction holes generalizing pieces with
    | nil => exact start
    | cons hole rest ih =>
      refine ih (fun piece kept later hl => cut piece kept later (List.mem_cons_of_mem hole hl)) _
        fun s hs => ?_
      obtain ⟨piece, hp, hs⟩ := List.mem_flatMap.mp hs
      exact cut piece (start piece hp) hole List.mem_cons_self s hs
  exact all [r] (by simpa using whole)

end Rect

namespace Region

theorem contains_empty (p : Point) : empty.contains p = false := rfl

theorem contains_addRect (g : Region) (r : Rect) (p : Point) :
    (g.addRect r).contains p = (g.contains p || r.contains p) := by
  rw [addRect]
  split
  · rename_i empty
    rw [Rect.contains_of_isEmpty empty, Bool.or_false]
  · simp only [contains, List.any_append, Rect.contains_minusAll]
    cases g.rects.any (·.contains p) <;> simp

theorem contains_foldl_addRect (rs : List Rect) (g : Region) (p : Point) :
    (rs.foldl addRect g).contains p = (g.contains p || rs.any (·.contains p)) := by
  induction rs generalizing g with
  | nil => simp
  | cons r rest ih => rw [List.foldl_cons, ih, contains_addRect, List.any_cons, Bool.or_assoc]

theorem contains_ofRects (rs : List Rect) (p : Point) :
    (ofRects rs).contains p = rs.any (·.contains p) := by
  rw [ofRects, contains_foldl_addRect, contains_empty, Bool.false_or]

theorem contains_ofRect (r : Rect) (p : Point) : (ofRect r).contains p = r.contains p := by
  rw [ofRect, contains_addRect, contains_empty, Bool.false_or]

theorem contains_union (g h : Region) (p : Point) :
    (g.union h).contains p = (g.contains p || h.contains p) :=
  contains_foldl_addRect h.rects g p

theorem contains_subtractRect (g : Region) (hole : Rect) (p : Point) :
    (g.subtractRect hole).contains p = (g.contains p && !hole.contains p) := by
  rw [subtractRect]
  split
  · rename_i empty
    rw [Rect.contains_of_isEmpty empty, Bool.not_false, Bool.and_true]
  · obtain ⟨rects⟩ := g
    simp only [contains, List.any_flatMap, Rect.contains_minus]
    induction rects with
    | nil => rfl
    | cons r rest ih => simp only [List.any_cons, ih, Bool.and_or_distrib_right]

theorem contains_foldl_subtractRect (holes : List Rect) (g : Region) (p : Point) :
    (holes.foldl subtractRect g).contains p = (g.contains p && !holes.any (·.contains p)) := by
  induction holes generalizing g with
  | nil => simp
  | cons hole rest ih =>
    rw [List.foldl_cons, ih, contains_subtractRect, List.any_cons, Bool.not_or, Bool.and_assoc]

end Region

end Compositing
