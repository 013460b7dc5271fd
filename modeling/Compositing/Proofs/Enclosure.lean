import Compositing.Proofs.Area
import Mathlib.Data.Finset.Max

/-!
# The least rectangle around a region

The bounds of a region are put together from the edges of its rectangles, two at a time, and the
extent between two edges is read as a displacement. As long as every stored rectangle is exact and
has pixels, and the pixels span less than 2^31 along both axes, no extent leads backwards: the
bounds cover all pixels, every rectangle that covers all pixels encloses them, and they are the
same however the pixels are cut into rectangles.
-/

namespace Compositing

namespace Rect

variable {p q r : Rect}

/-- Exact rectangles between the same edges. -/
theorem Exact.ext (hq : q.Exact) (hr : r.Exact) (left : q.left.toInt = r.left.toInt)
    (top : q.top.toInt = r.top.toInt) (right : q.right.toInt = r.right.toInt)
    (bottom : q.bottom.toInt = r.bottom.toInt) : q = r := by
  rw [hq.right, hr.right] at right
  rw [hq.bottom, hr.bottom] at bottom
  have width : q.size.width = r.size.width := UInt32.toNat_inj.mp (by omega)
  have height : q.size.height = r.size.height := UInt32.toNat_inj.mp (by omega)
  have x : q.left = r.left := Int32.toInt_inj.mp left
  have y : q.top = r.top := Int32.toInt_inj.mp top
  obtain ⟨⟨_, _⟩, ⟨_, _⟩⟩ := q
  obtain ⟨⟨_, _⟩, ⟨_, _⟩⟩ := r
  simp only [Rect.left, Rect.top] at x y width height
  rw [x, y, width, height]

/-- Between the edges lie pixels at both ends, so that what covers the pixels has the edges around
these. -/
theorem within_of_contains (filled : q.Within q)
    (covers : ∀ p, q.contains p = true → r.contains p = true) : q.Within r := by
  obtain ⟨⟨left, _⟩, top, _⟩ := contains_iff.mp (covers _ filled.contains_first)
  obtain ⟨⟨_, right⟩, _, bottom⟩ := contains_iff.mp (covers _ filled.contains_last)
  rw [filled.last_toInt.1] at right
  rw [filled.last_toInt.2] at bottom
  exact ⟨left, filled.across, by omega, top, filled.down, by omega⟩

theorem Within.encloses (inside : q.Within r) : r.encloses q = true := by
  simp only [Rect.encloses, Bool.or_eq_true, Bool.and_eq_true, decide_eq_true_eq,
    Int32.le_iff_toInt_le]
  exact Or.inr ⟨⟨⟨inside.left, inside.top⟩, inside.right⟩, inside.bottom⟩

theorem hull_exact (hp : p.Within r) (hq : q.Within r) : (p.hull q).Exact := by
  rw [hull_eq_ofEdges hp.filled hq.filled]
  have wide := right_sub_left r
  have high := bottom_sub_top r
  obtain ⟨pl, _, pr, pt, _, pb⟩ := hp
  obtain ⟨ql, _, qr, qt, _, qb⟩ := hq
  apply exact_ofEdges
  · rw [Coord.min_toInt, Coord.max_toInt]
    omega
  · rw [Coord.min_toInt, Coord.max_toInt]
    omega

theorem foldl_hull_exact {rs : List Rect} (inside : ∀ q ∈ rs, q.Within r) (hp : p.Within r)
    (exact : p.Exact) : (rs.foldl hull p).Exact := by
  induction rs generalizing p with
  | nil => exact exact
  | cons q rest ih =>
    have first := inside q List.mem_cons_self
    exact ih (fun v hv => inside v (List.mem_cons_of_mem q hv)) (hull_within hp first).1
      (hull_exact hp first)

end Rect

namespace Region

open Rect

variable {g h : Region}

def Solid (g : Region) : Prop := ∀ q ∈ g.rects, q.Solid

/-- Along both axes its pixels span less than 2^31. -/
def Narrow (g : Region) : Prop :=
  ∀ p q, g.contains p = true → g.contains q = true →
    q.x.toInt + 1 - p.x.toInt ≤ 2147483647 ∧ q.y.toInt + 1 - p.y.toInt ≤ 2147483647

/-- The outermost edges are those of pixels, so that a rectangle has room for what lies between
them. -/
theorem Narrow.inside (narrow : g.Narrow) (solid : g.Solid) :
    ∃ r, ∀ q ∈ g.rects, q.Within r := by
  by_cases none : g.rects = []
  · exact ⟨Rect.empty, by simp [none]⟩
  have least (f : Rect → Int) : ∃ q ∈ g.rects, ∀ v ∈ g.rects, f q ≤ f v := by
    have some : g.rects.toFinset.Nonempty := List.toFinset_nonempty_iff _ |>.mpr none
    obtain ⟨q, hq, least⟩ := g.rects.toFinset.exists_min_image f some
    exact ⟨q, List.mem_toFinset.mp hq, fun v hv => least v (List.mem_toFinset.mpr hv)⟩
  have first {q : Rect} (hq : q ∈ g.rects) : g.contains ⟨q.left, q.top⟩ = true :=
    List.any_eq_true.mpr ⟨q, hq, (solid q hq).within.contains_first⟩
  have last {q : Rect} (hq : q ∈ g.rects) : g.contains q.last = true :=
    List.any_eq_true.mpr ⟨q, hq, (solid q hq).within.contains_last⟩
  obtain ⟨ql, hl, left⟩ := least (·.left.toInt)
  obtain ⟨qt, ht, top⟩ := least (·.top.toInt)
  obtain ⟨qr, hr, right⟩ := least (- ·.right.toInt)
  obtain ⟨qb, hb, bottom⟩ := least (- ·.bottom.toInt)
  have across : qr.right.toInt - ql.left.toInt < 2147483648 := by
    have span := (narrow _ _ (first hl) (last hr)).1
    rw [(solid qr hr).within.last_toInt.1] at span
    simp only at span
    omega
  have down : qb.bottom.toInt - qt.top.toInt < 2147483648 := by
    have span := (narrow _ _ (first ht) (last hb)).2
    rw [(solid qb hb).within.last_toInt.2] at span
    simp only at span
    omega
  refine ⟨ofEdges ql.left qt.top qr.right qb.bottom, fun q hq => ?_⟩
  have within := (solid q hq).within
  have right := right q hq
  have bottom := bottom q hq
  refine ⟨left q hq, within.across, ?_, top q hq, within.down, ?_⟩
  · rw [ofEdges_right _ _ _ _ across]
    omega
  · rw [ofEdges_bottom _ _ _ _ down]
    omega

/-- Rectangles inside one rectangle have pixels that span little. -/
theorem narrow_of_inside {r : Rect} (inside : ∀ q ∈ g.rects, q.Within r) : g.Narrow := by
  have within {p : Point} (covered : g.contains p = true) : r.contains p = true := by
    obtain ⟨q, hq, here⟩ := List.any_eq_true.mp covered
    exact (inside q hq).contains here
  intro p q hp hq
  have first := contains_iff.mp (within hp)
  have last := contains_iff.mp (within hq)
  have wide := right_sub_left r
  have high := bottom_sub_top r
  omega

theorem bounds_of_isEmpty (none : g.isEmpty = true) : g.bounds = Rect.empty := by
  rw [bounds, List.isEmpty_iff.mp none, List.foldl_nil]

theorem bounds_exact (narrow : g.Narrow) (solid : g.Solid) : g.bounds.Exact := by
  obtain ⟨r, inside⟩ := narrow.inside solid
  obtain ⟨rects⟩ := g
  cases rects with
  | nil =>
    rw [bounds_of_isEmpty rfl]
    decide
  | cons q rest =>
    rw [bounds_cons]
    exact foldl_hull_exact (fun v hv => inside v (List.mem_cons_of_mem q hv))
      (inside q List.mem_cons_self) (solid q List.mem_cons_self).exact

theorem bounds_covers (narrow : g.Narrow) (solid : g.Solid) {p : Point}
    (covered : g.contains p = true) : g.bounds.contains p = true := by
  obtain ⟨r, inside⟩ := narrow.inside solid
  exact contains_bounds_of_contains inside covered

/-- What covers the pixels on all sides of a position covers the position. -/
theorem bounds_least (narrow : g.Narrow) (solid : g.Solid) {r : Rect}
    (covers : ∀ p, g.contains p = true → r.contains p = true) {p : Point}
    (around : g.bounds.contains p = true) : r.contains p = true := by
  obtain ⟨s, inside⟩ := narrow.inside solid
  obtain ⟨⟨ql, hl, left⟩, ⟨qr, hr, right⟩, ⟨qt, ht, top⟩, qb, hb, bottom⟩ :=
    spans_of_contains_bounds inside around
  have before := (contains_iff.mp (covers ql hl)).1.1
  have behind := (contains_iff.mp (covers qr hr)).1.2
  have above := (contains_iff.mp (covers qt ht)).2.1
  have below := (contains_iff.mp (covers qb hb)).2.2
  refine contains_iff.mpr ⟨⟨?_, ?_⟩, ?_, ?_⟩ <;> omega

theorem bounds_isEmpty_iff (narrow : g.Narrow) (solid : g.Solid) :
    g.bounds.isEmpty = true ↔ g.isEmpty = true := by
  constructor
  · intro flat
    rw [isEmpty_iff_of_solid solid]
    intro p
    by_contra covered
    have around := bounds_covers narrow solid (by simpa using covered)
    rw [contains_of_isEmpty flat] at around
    contradiction
  · intro none
    rw [bounds_of_isEmpty none]
    rfl

theorem bounds_within (narrow : g.Narrow) (solid : g.Solid)
    (some : g.isEmpty = false) {r : Rect}
    (covers : ∀ p, g.contains p = true → r.contains p = true) : g.bounds.Within r := by
  have filled : g.bounds.isEmpty = false := by
    rwa [Bool.eq_false_iff, ne_eq, bounds_isEmpty_iff narrow solid, ← ne_eq, ← Bool.eq_false_iff]
  exact within_of_contains (Solid.within ⟨bounds_exact narrow solid, filled⟩)
    fun _ around => bounds_least narrow solid covers around

/-- Regions that are put together from exact rectangles store exact rectangles with pixels. The
bounds of a region that does, and whose pixels span less than 2^31 along both axes, are exact and
cover all its pixels. Every rectangle that covers all pixels encloses the bounds. They are empty
exactly if the region is, and depend on its pixels alone. -/
theorem bounds_enclose_least :
    (∀ g : Region, g.Assembled → g.Solid) ∧
    ∀ g : Region, g.Solid → g.Narrow →
      g.bounds.Exact ∧
      (∀ p, g.contains p = true → g.bounds.contains p = true) ∧
      (∀ r : Rect, (∀ p, g.contains p = true → r.contains p = true) →
        r.encloses g.bounds = true ∧ ∀ p, g.bounds.contains p = true → r.contains p = true) ∧
      (g.bounds.isEmpty = true ↔ g.isEmpty = true) ∧
      ∀ h : Region, h.Solid → (∀ p, h.contains p = g.contains p) → h.bounds = g.bounds := by
  refine ⟨fun g assembled => assembled.solid, fun g solid narrow => ?_⟩
  refine ⟨bounds_exact narrow solid, fun p => bounds_covers narrow solid, ?enclosed,
    bounds_isEmpty_iff narrow solid, ?unique⟩
  case enclosed =>
    intro r covers
    refine ⟨?_, fun p => bounds_least narrow solid covers⟩
    cases some : g.isEmpty with
    | true =>
      rw [bounds_of_isEmpty some]
      rfl
    | false => exact (bounds_within narrow solid some covers).encloses
  case unique =>
    intro h solid' same
    have narrow' : h.Narrow := by
      intro p q hp hq
      exact narrow p q (same p ▸ hp) (same q ▸ hq)
    have alike : h.isEmpty = g.isEmpty := by
      rw [Bool.eq_iff_iff, isEmpty_iff_of_solid solid', isEmpty_iff_of_solid solid]
      simp only [same]
    cases some : g.isEmpty with
    | true => rw [bounds_of_isEmpty some, bounds_of_isEmpty (alike.trans some)]
    | false =>
      have inner := bounds_within narrow' solid' (alike.trans some)
        fun p covered => bounds_covers narrow solid (same p ▸ covered)
      have outer := bounds_within narrow solid some
        fun p covered => bounds_covers narrow' solid' ((same p).symm ▸ covered)
      exact (bounds_exact narrow' solid').ext (bounds_exact narrow solid)
        (Int.le_antisymm outer.left inner.left) (Int.le_antisymm outer.top inner.top)
        (Int.le_antisymm inner.right outer.right) (Int.le_antisymm inner.bottom outer.bottom)

/-- Two squares whose outer edges are 2^31 - 1 apart. -/
def farCorners : Region :=
  ofRects [ofCoords (-1073741824) 0 10 10, ofCoords 1073741813 5 10 10]

theorem farCorners_enclosed :
    farCorners.Solid ∧ farCorners.Narrow ∧
      farCorners.bounds = ofCoords (-1073741824) 0 2147483647 15 ∧
      ∀ r : Rect, (∀ p, farCorners.contains p = true → r.contains p = true) →
        r.encloses (ofCoords (-1073741824) 0 2147483647 15) = true := by
  obtain ⟨of_assembled, least⟩ := bounds_enclose_least
  have solid : farCorners.Solid := of_assembled _ (.ofRects (by decide))
  have narrow : farCorners.Narrow := by
    refine narrow_of_inside (r := ofCoords (-1073741824) 0 2147483647 15) ?_
    have stored : farCorners.rects =
        [ofCoords (-1073741824) 0 10 10, ofCoords 1073741813 5 10 10] := by decide +kernel
    intro q hq
    rw [stored, List.mem_pair] at hq
    rcases hq with rfl | rfl <;> constructor <;> decide
  have bounds : farCorners.bounds = ofCoords (-1073741824) 0 2147483647 15 := by decide +kernel
  refine ⟨solid, narrow, bounds, fun r covers => ?_⟩
  rw [← bounds]
  exact ((least _ solid narrow).2.2.1 r covers).1

end Region

end Compositing
