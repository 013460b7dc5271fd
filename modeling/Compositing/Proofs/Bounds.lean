import Compositing.Proofs.Pixels
import Mathlib.Order.MinMax

/-!
# What lies around a region

The bounds of a region cover what lies between its pixels along both axes, and nothing else.
That takes rectangles that cover something: one whose extent leads backwards covers nothing, and
yet its edges would count. Regions that are put together from rectangles inside another one are
made of such rectangles.
-/

namespace Compositing

/-- Extents that lead forwards when they are read as displacements. -/
structure Size.Small (s : Size) : Prop where
  width : s.width.toNat ≤ 2147483647
  height : s.height.toNat ≤ 2147483647

namespace Rect

structure Within (q r : Rect) : Prop where
  left : r.left.toInt ≤ q.left.toInt
  across : q.left.toInt < q.right.toInt
  right : q.right.toInt ≤ r.right.toInt
  top : r.top.toInt ≤ q.top.toInt
  down : q.top.toInt < q.bottom.toInt
  bottom : q.bottom.toInt ≤ r.bottom.toInt

variable {p q r : Rect}

theorem Within.trans (inner : p.Within q) (outer : q.Within r) : p.Within r where
  left := Int.le_trans outer.left inner.left
  across := inner.across
  right := Int.le_trans inner.right outer.right
  top := Int.le_trans outer.top inner.top
  down := inner.down
  bottom := Int.le_trans inner.bottom outer.bottom

/-- A rectangle that covers a pixel lies inside itself. -/
theorem Within.self (h : q.Within r) : q.Within q :=
  ⟨Int.le_refl _, h.across, Int.le_refl _, Int.le_refl _, h.down, Int.le_refl _⟩

theorem Within.contains (h : q.Within r) {point : Point} (inside : q.contains point = true) :
    r.contains point = true := by
  obtain ⟨across, down⟩ := contains_iff.mp inside
  obtain ⟨left, _, right, top, _, bottom⟩ := h
  refine contains_iff.mpr ⟨⟨?_, ?_⟩, ?_, ?_⟩ <;> omega

theorem Within.contains_first (h : q.Within r) : q.contains ⟨q.left, q.top⟩ = true :=
  contains_iff.mpr ⟨⟨Int.le_refl _, h.across⟩, Int.le_refl _, h.down⟩

def last (q : Rect) : Point :=
  ⟨Coord.clamp (q.right.toInt - 1), Coord.clamp (q.bottom.toInt - 1)⟩

theorem Within.last_toInt (h : q.Within r) :
    q.last.x.toInt = q.right.toInt - 1 ∧ q.last.y.toInt = q.bottom.toInt - 1 := by
  have before {a e : Coord} (some : a.toInt < e.toInt) :
      (Coord.clamp (e.toInt - 1)).toInt = e.toInt - 1 := by
    have bounds := Coord.toInt_bounds a
    have bounds' := Coord.toInt_bounds e
    rw [Coord.clamp_toInt]
    omega
  exact ⟨before h.across, before h.down⟩

theorem Within.contains_last (h : q.Within r) : q.contains q.last = true := by
  obtain ⟨x, y⟩ := h.last_toInt
  have across := h.across
  have down := h.down
  rw [contains_iff, x, y]
  omega

theorem Within.filled (h : q.Within r) : q.isEmpty = false := by
  by_contra empty
  have inside := h.contains_first
  rw [contains_of_isEmpty (by simpa using empty)] at inside
  contradiction

theorem within_ofEdges {left top right bottom : Coord} (first : r.left.toInt ≤ left.toInt)
    (across : left.toInt < right.toInt) (last : right.toInt ≤ r.right.toInt)
    (upper : r.top.toInt ≤ top.toInt) (down : top.toInt < bottom.toInt)
    (lower : bottom.toInt ≤ r.bottom.toInt) : (ofEdges left top right bottom).Within r := by
  have wide := right_sub_left r
  have high := bottom_sub_top r
  have right_eq := ofEdges_right left top right bottom (by omega)
  have bottom_eq := ofEdges_bottom left top right bottom (by omega)
  have left_eq : (ofEdges left top right bottom).left = left := rfl
  have top_eq : (ofEdges left top right bottom).top = top := rfl
  constructor
  all_goals simp only [right_eq, bottom_eq, left_eq, top_eq]; omega

structure LiesIn (q : Rect) (s : Size) : Prop where
  left : 0 ≤ q.origin.x.toInt
  right : q.origin.x.toInt + q.size.width.toNat ≤ s.width.toNat
  top : 0 ≤ q.origin.y.toInt
  bottom : q.origin.y.toInt + q.size.height.toNat ≤ s.height.toNat

theorem LiesIn.within {s : Size} (h : q.LiesIn s) (small : s.Small) (filled : q.isEmpty = false) :
    q.Within ⟨Point.origin, s⟩ := by
  obtain ⟨left, right, top, bottom⟩ := h
  obtain ⟨wide, high⟩ := small
  have extents : 0 < q.size.width.toNat ∧ 0 < q.size.height.toNat := by
    simp only [isEmpty, Size.isEmpty, Bool.or_eq_false_iff, beq_eq_false_iff_ne, ne_eq,
      ← UInt32.toNat_inj, UInt32.toNat_zero] at filled
    omega
  have reach (a : Coord) (n : Extent) (first : 0 ≤ a.toInt) (few : a.toInt + n.toNat < 2147483648) :
      (a.add n.toInt32).toInt = a.toInt + n.toNat := by
    rw [Coord.add_toInt, Coord.displacement]
    split <;> omega
  have zero : (0 : Coord).toInt = 0 := rfl
  have q_right := reach q.origin.x q.size.width left (by omega)
  have q_bottom := reach q.origin.y q.size.height top (by omega)
  have s_right := reach 0 s.width (Int.le_refl _) (by omega)
  have s_bottom := reach 0 s.height (Int.le_refl _) (by omega)
  rw [zero] at s_right s_bottom
  constructor
  all_goals simp only [Rect.left, Rect.right, Rect.top, Rect.bottom, Point.origin, q_right,
    q_bottom, s_right, s_bottom, zero]; omega

/-- Cutting a hole that covers something leaves pieces that cover something. -/
theorem minus_within {hole : Rect} (filled : r.Within r) (cutting : hole.Within hole)
    (piece : q ∈ r.minus hole) : q.Within r := by
  rw [minus] at piece
  split at piece
  · rw [List.mem_singleton.mp piece]
    exact filled
  · rename_i cut found
    obtain ⟨crossing, left, top, right, bottom⟩ := intersection_edges found
    obtain ⟨_, _, across, down⟩ := intersects_iff.mp crossing
    have wide := filled.across
    have high := filled.down
    have hole_wide := cutting.across
    have hole_high := cutting.down
    simp only [List.mem_append] at piece
    rcases piece with ((above | below) | before) | behind
    · split at above
      · rename_i some
        have some := Int32.lt_iff_toInt_lt.mp some
        rw [List.mem_singleton.mp above]
        apply within_ofEdges <;> omega
      · simp at above
    · split at below
      · rename_i some
        have some := Int32.lt_iff_toInt_lt.mp some
        rw [List.mem_singleton.mp below]
        apply within_ofEdges <;> omega
      · simp at below
    · split at before
      · rename_i some
        have some := Int32.lt_iff_toInt_lt.mp some
        rw [List.mem_singleton.mp before]
        apply within_ofEdges <;> omega
      · simp at before
    · split at behind
      · rename_i some
        have some := Int32.lt_iff_toInt_lt.mp some
        rw [List.mem_singleton.mp behind]
        apply within_ofEdges <;> omega
      · simp at behind

theorem minusAll_within {holes : List Rect} (filled : r.Within r)
    (cutting : ∀ hole ∈ holes, hole.Within hole) : ∀ q ∈ r.minusAll holes, q.Within r :=
  minusAll_induction (fun _ inside hole hh _ piece =>
    (minus_within inside.self (cutting hole hh) piece).trans inside) filled

theorem hull_eq_ofEdges (hp : p.isEmpty = false) (hq : q.isEmpty = false) :
    p.hull q = ofEdges (min p.left q.left) (min p.top q.top) (max p.right q.right)
      (max p.bottom q.bottom) := by
  rw [hull, if_neg (by simp [hp]), if_neg (by simp [hq])]

/-- A rectangle around both. -/
theorem hull_within (hp : p.Within r) (hq : q.Within r) :
    (p.hull q).Within r ∧ (p.hull q).left.toInt = min p.left.toInt q.left.toInt ∧
      (p.hull q).top.toInt = min p.top.toInt q.top.toInt ∧
      (p.hull q).right.toInt = max p.right.toInt q.right.toInt ∧
      (p.hull q).bottom.toInt = max p.bottom.toInt q.bottom.toInt := by
  have hull_eq := hull_eq_ofEdges hp.filled hq.filled
  have left := Coord.min_toInt p.left q.left
  have top := Coord.min_toInt p.top q.top
  have right := Coord.max_toInt p.right q.right
  have bottom := Coord.max_toInt p.bottom q.bottom
  have wide := right_sub_left r
  have high := bottom_sub_top r
  obtain ⟨pl, pa, pr, pt, pd, pb⟩ := hp
  obtain ⟨ql, qa, qr, qt, qd, qb⟩ := hq
  have right_eq := ofEdges_right (min p.left q.left) (min p.top q.top) (max p.right q.right)
    (max p.bottom q.bottom) (by omega)
  have bottom_eq := ofEdges_bottom (min p.left q.left) (min p.top q.top) (max p.right q.right)
    (max p.bottom q.bottom) (by omega)
  rw [hull_eq]
  refine ⟨?_, left, top, ?_, ?_⟩
  · apply within_ofEdges <;> omega
  · rw [right_eq]
    omega
  · rw [bottom_eq]
    omega

/-- The edges of what lies around rectangles, seen from any position. -/
theorem foldl_hull_within {rs : List Rect} (inside : ∀ q ∈ rs, q.Within r) (hp : p.Within r) :
    (rs.foldl hull p).Within r ∧ ∀ i : Int,
      ((rs.foldl hull p).left.toInt ≤ i ↔ ∃ q ∈ p :: rs, q.left.toInt ≤ i) ∧
      ((rs.foldl hull p).top.toInt ≤ i ↔ ∃ q ∈ p :: rs, q.top.toInt ≤ i) ∧
      (i < (rs.foldl hull p).right.toInt ↔ ∃ q ∈ p :: rs, i < q.right.toInt) ∧
      (i < (rs.foldl hull p).bottom.toInt ↔ ∃ q ∈ p :: rs, i < q.bottom.toInt) := by
  induction rs generalizing p with
  | nil => exact ⟨hp, by simp⟩
  | cons q rest ih =>
    obtain ⟨within, left, top, right, bottom⟩ := hull_within hp (inside q List.mem_cons_self)
    obtain ⟨all, edges⟩ := ih (fun v hv => inside v (List.mem_cons_of_mem q hv)) within
    refine ⟨all, fun i => ?_⟩
    obtain ⟨lefts, tops, rights, bottoms⟩ := edges i
    rw [List.foldl_cons, lefts, tops, rights, bottoms]
    simp only [List.mem_cons, exists_eq_or_imp, left, top, right, bottom]
    refine ⟨?_, ?_, ?_, ?_⟩
    · rw [← or_assoc, min_le_iff]
    · rw [← or_assoc, min_le_iff]
    · rw [← or_assoc, lt_max_iff]
    · rw [← or_assoc, lt_max_iff]

end Rect

namespace Region

open Rect

/-- Along both axes there are pixels of the region on either side, or at the very place. -/
structure Spans (g : Region) (p : Point) : Prop where
  left : ∃ q, g.contains q = true ∧ q.x.toInt ≤ p.x.toInt
  right : ∃ q, g.contains q = true ∧ p.x.toInt ≤ q.x.toInt
  top : ∃ q, g.contains q = true ∧ q.y.toInt ≤ p.y.toInt
  bottom : ∃ q, g.contains q = true ∧ p.y.toInt ≤ q.y.toInt

/-- What is added to a region inside a rectangle leaves it inside. -/
theorem addRect_within {g : Region} {q r : Rect} (inside : ∀ v ∈ g.rects, v.Within r)
    (new : q.isEmpty = true ∨ q.Within r) : ∀ v ∈ (g.addRect q).rects, v.Within r := by
  intro v hv
  rw [addRect] at hv
  split at hv
  · exact inside v hv
  · rename_i filled
    have new := new.resolve_left filled
    rcases List.mem_append.mp hv with old | piece
    · exact inside v old
    · exact (minusAll_within new.self (fun v hv => (inside v hv).self) v piece).trans new

theorem foldl_addRect_within {rs : List Rect} {g : Region} {r : Rect}
    (inside : ∀ v ∈ g.rects, v.Within r) (new : ∀ q ∈ rs, q.isEmpty = true ∨ q.Within r) :
    ∀ v ∈ (rs.foldl addRect g).rects, v.Within r := by
  induction rs generalizing g with
  | nil => exact inside
  | cons q rest ih =>
    have one := addRect_within inside (new q List.mem_cons_self)
    exact ih one fun v hv => new v (List.mem_cons_of_mem q hv)

theorem bounds_cons (q : Rect) (rest : List Rect) :
    bounds ⟨q :: rest⟩ = rest.foldl hull q := by
  have first : Rect.empty.hull q = q := by
    rw [hull]
    exact if_pos rfl
  rw [bounds, List.foldl_cons, first]

/-- The bounds cover a pixel if it lies between edges of rectangles. -/
theorem contains_bounds {rs : List Rect} {r : Rect} (inside : ∀ q ∈ rs, q.Within r) (p : Point) :
    (bounds ⟨rs⟩).contains p = true ↔
      ((∃ q ∈ rs, q.left.toInt ≤ p.x.toInt) ∧ ∃ q ∈ rs, p.x.toInt < q.right.toInt) ∧
        (∃ q ∈ rs, q.top.toInt ≤ p.y.toInt) ∧ ∃ q ∈ rs, p.y.toInt < q.bottom.toInt := by
  cases rs with
  | nil =>
    have none : (bounds ⟨[]⟩).contains p = false := contains_of_isEmpty rfl p
    simp [none]
  | cons q rest =>
    have within := inside q List.mem_cons_self
    obtain ⟨_, edges⟩ :=
      foldl_hull_within (fun v hv => inside v (List.mem_cons_of_mem q hv)) within
    obtain ⟨left, _, right, _⟩ := edges p.x.toInt
    obtain ⟨_, top, _, bottom⟩ := edges p.y.toInt
    rw [bounds_cons, contains_iff, left, right, top, bottom]

theorem contains_bounds_of_contains {rs : List Rect} {r : Rect} (inside : ∀ q ∈ rs, q.Within r)
    {p : Point} (covered : contains ⟨rs⟩ p = true) : (bounds ⟨rs⟩).contains p = true := by
  obtain ⟨q, hq, here⟩ := List.any_eq_true.mp covered
  obtain ⟨⟨left, right⟩, top, bottom⟩ := contains_iff.mp here
  exact (contains_bounds inside p).mpr
    ⟨⟨⟨q, hq, left⟩, q, hq, right⟩, ⟨q, hq, top⟩, q, hq, bottom⟩

/-- The bounds are the smallest rectangle around the pixels. -/
theorem spans_of_contains_bounds {rs : List Rect} {r : Rect} (inside : ∀ q ∈ rs, q.Within r)
    {p : Point} (around : (bounds ⟨rs⟩).contains p = true) : Spans ⟨rs⟩ p := by
  obtain ⟨⟨⟨ql, hl, left⟩, qr, hr, right⟩, ⟨qt, ht, top⟩, qb, hb, bottom⟩ :=
    (contains_bounds inside p).mp around
  have first {q : Rect} (hq : q ∈ rs) : contains ⟨rs⟩ ⟨q.left, q.top⟩ = true :=
    List.any_eq_true.mpr ⟨q, hq, (inside q hq).contains_first⟩
  have last {q : Rect} (hq : q ∈ rs) : contains ⟨rs⟩ q.last = true :=
    List.any_eq_true.mpr ⟨q, hq, (inside q hq).contains_last⟩
  refine ⟨⟨_, first hl, left⟩, ⟨_, last hr, ?_⟩, ⟨_, first ht, top⟩, ⟨_, last hb, ?_⟩⟩
  · rw [(inside qr hr).last_toInt.1]
    omega
  · rw [(inside qb hb).last_toInt.2]
    omega

end Region

end Compositing
