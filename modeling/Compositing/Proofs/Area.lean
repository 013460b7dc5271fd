import Compositing.Proofs.Bounds
import Compositing.Proofs.Tiling
import Mathlib.Data.Int.Interval
import Mathlib.Data.Set.Card

/-!
# Areas count pixels

Two regions are compared by their areas and by one difference, and a region is called empty if it
stores no rectangle. Both are about pixels as long as every stored rectangle covers as many as
its extents say: it has some, and no edge of it stops at the end of the range. Regions that are
put together from such rectangles only store such rectangles. An extent that leads backwards is
excluded everywhere, also from what is taken away: the pieces around it could be without pixels.
-/

namespace Compositing

/-! ## Counting points -/

namespace Point

def coords (p : Point) : Int × Int := (p.x.toInt, p.y.toInt)

theorem coords_injective : Function.Injective coords := by
  rintro ⟨x, y⟩ ⟨x', y'⟩ same
  obtain ⟨across, down⟩ := Prod.mk.inj same
  obtain rfl : x = x' := Int32.toInt_inj.mp across
  obtain rfl : y = y' := Int32.toInt_inj.mp down
  rfl

/-- Between two pairs of edges within the range lie as many points as the extents say. -/
theorem encard_between {a e b f : Int} (low : -2147483648 ≤ a) (high : e ≤ 2147483648)
    (low' : -2147483648 ≤ b) (high' : f ≤ 2147483648) :
    {p : Point | (a ≤ p.x.toInt ∧ p.x.toInt < e) ∧ b ≤ p.y.toInt ∧ p.y.toInt < f}.encard =
      ((e - a).toNat * (f - b).toNat : Nat) := by
  have box : {p : Point | (a ≤ p.x.toInt ∧ p.x.toInt < e) ∧ b ≤ p.y.toInt ∧ p.y.toInt < f} =
      Set.preimage coords (Finset.Ico a e ×ˢ Finset.Ico b f : Finset (Int × Int)) := by
    ext p
    simp [coords]
  have reached : ((Finset.Ico a e ×ˢ Finset.Ico b f : Finset (Int × Int)) : Set (Int × Int)) ⊆
      Set.range coords := by
    rintro ⟨x, y⟩ inside
    obtain ⟨across, down⟩ := Finset.mem_product.mp (Finset.mem_coe.mp inside)
    obtain ⟨left, right⟩ := Finset.mem_Ico.mp across
    obtain ⟨top, bottom⟩ := Finset.mem_Ico.mp down
    simp only at left right top bottom
    have hx : (Coord.clamp x).toInt = x := Coord.clamp_of_inRange ⟨by omega, by omega⟩
    have hy : (Coord.clamp y).toInt = y := Coord.clamp_of_inRange ⟨by omega, by omega⟩
    exact ⟨⟨Coord.clamp x, Coord.clamp y⟩, by rw [coords, hx, hy]⟩
  rw [box, Set.encard_preimage_of_injective_subset_range coords_injective reached,
    Set.encard_coe_eq_coe_finsetCard, Finset.card_product, Int.card_Ico, Int.card_Ico]

end Point

/-! ## Exact rectangles -/

namespace Rect

/-- No extent leads backwards, and no edge stops at the end of the range. -/
def Exact (r : Rect) : Prop :=
  r.Modest ∧ Coord.InRange (r.left.toInt + r.size.width.toNat) ∧
    Coord.InRange (r.top.toInt + r.size.height.toNat)

instance (r : Rect) : Decidable r.Exact := inferInstanceAs (Decidable (_ ∧ _))

/-- An exact rectangle with pixels. -/
structure Solid (r : Rect) : Prop where
  exact : r.Exact
  filled : r.isEmpty = false

/-- An extent that stays within the range is what lies between the edges. -/
theorem exact_axis {a : Coord} {n : Extent} (small : n.toNat ≤ 2147483647)
    (fits : Coord.InRange (a.toInt + n.toNat)) : (a.add n.toInt32).toInt = a.toInt + n.toNat := by
  obtain ⟨low, high⟩ := fits
  rw [Coord.add_toInt, Coord.displacement]
  split <;> omega

theorem Exact.right {r : Rect} (exact : r.Exact) :
    r.right.toInt = r.left.toInt + r.size.width.toNat :=
  exact_axis exact.1.1 exact.2.1

theorem Exact.bottom {r : Rect} (exact : r.Exact) :
    r.bottom.toInt = r.top.toInt + r.size.height.toNat :=
  exact_axis exact.1.2 exact.2.2

theorem exact_ofEdges {left top right bottom : Coord}
    (across : right.toInt - left.toInt < 2147483648)
    (down : bottom.toInt - top.toInt < 2147483648) : (ofEdges left top right bottom).Exact := by
  have fits {a b : Coord} (near : b.toInt - a.toInt < 2147483648) :
      Coord.InRange (a.toInt + (a.span b).toNat) := by
    have reduced : (a.span b).toNat = (b.toInt - a.toInt).toNat % 4294967296 := rfl
    have bounds := Coord.toInt_bounds a
    have bounds' := Coord.toInt_bounds b
    rw [reduced]
    constructor <;> omega
  exact ⟨modest_ofEdges across down, fits across, fits down⟩

theorem Solid.within {r : Rect} (solid : r.Solid) : r.Within r := by
  obtain ⟨exact, filled⟩ := solid
  simp only [isEmpty, Size.isEmpty, Bool.or_eq_false_iff, beq_eq_false_iff_ne, ne_eq,
    ← UInt32.toNat_inj, UInt32.toNat_zero] at filled
  obtain ⟨wide, high⟩ := filled
  have right := exact.right
  have bottom := exact.bottom
  constructor <;> omega

theorem solid_minus {r hole : Rect} (solid : r.Solid) (cutting : hole.Solid) :
    ∀ s ∈ r.minus hole, s.Solid := by
  intro s piece
  have exact := minus_induction solid.exact exact_ofEdges s piece
  exact ⟨exact, (minus_within solid.within cutting.within piece).filled⟩

theorem solid_intersection {r s cut : Rect} (first : r.Solid) (second : s.Solid)
    (found : r.intersection? s = some cut) : cut.Solid := by
  obtain ⟨crossing, left, top, right, bottom⟩ := intersection_edges found
  obtain ⟨-, -, across, down⟩ := intersects_iff.mp crossing
  have exact : cut.Exact := intersection_induction found exact_ofEdges
  have wide := first.within.across
  have high := first.within.down
  have wide' := second.within.across
  have high' := second.within.down
  have inside : cut.Within cut := by constructor <;> omega
  exact ⟨exact, inside.filled⟩

theorem area_toNat (r : Rect) : r.area.toNat = r.size.width.toNat * r.size.height.toNat := by
  have wide := r.size.width.toNat_lt
  have high := r.size.height.toNat_lt
  have product : r.size.width.toNat * r.size.height.toNat < 2 ^ 32 * 2 ^ 32 :=
    Nat.mul_lt_mul'' wide high
  rw [area, Size.area, UInt64.toNat_mul, UInt32.toNat_toUInt64, UInt32.toNat_toUInt64]
  exact Nat.mod_eq_of_lt product

theorem encard_pixels {r : Rect} (exact : r.Exact) :
    {p | r.contains p = true}.encard = (r.size.width.toNat * r.size.height.toNat : Nat) := by
  have right := Coord.toInt_bounds r.right
  have bottom := Coord.toInt_bounds r.bottom
  have left := Coord.toInt_bounds r.left
  have top := Coord.toInt_bounds r.top
  have across : (r.right.toInt - r.left.toInt).toNat = r.size.width.toNat := by
    rw [exact.right]
    omega
  have down : (r.bottom.toInt - r.top.toInt).toNat = r.size.height.toNat := by
    rw [exact.bottom]
    omega
  simp only [contains_iff]
  rw [Point.encard_between left.1 (by omega) top.1 (by omega), across, down]

end Rect

namespace Region

open Rect

/-! ## What is put together from exact rectangles -/

/-- The regions that are put together from exact rectangles. -/
inductive Assembled : Region → Prop
  | ofRects {rs} (hrs : ∀ r ∈ rs, r.Exact) : Assembled (ofRects rs)
  | addRect {g r} (hg : Assembled g) (hr : r.Exact) : Assembled (g.addRect r)
  | union {g h} (hg : Assembled g) (hh : Assembled h) : Assembled (g.union h)
  | subtractRect {g hole} (hg : Assembled g) (hr : hole.Exact) : Assembled (g.subtractRect hole)
  | subtract {g h} (hg : Assembled g) (hh : Assembled h) : Assembled (g.subtract h)
  | clipTo {g clip} (hg : Assembled g) (hr : clip.Exact) : Assembled (g.clipTo clip)

variable {g h k : Region}

theorem Assembled.tiled (assembled : g.Assembled) : g.Tiled := by
  have built : Built (fun _ => True) False g := by
    induction assembled with
    | ofRects _ => exact .ofRects fun _ _ => trivial
    | addRect _ _ ih => exact .addRect ih trivial
    | union _ _ ih ih' => exact .union ih ih'
    | subtractRect _ _ ih => exact .subtractRect ih _
    | subtract _ _ ih _ => exact .subtract ih _
    | clipTo _ _ ih => exact .clipTo ih _
  exact built.tiled

theorem solid_addRect (solid : ∀ s ∈ g.rects, s.Solid) {r : Rect} (exact : r.Exact) :
    ∀ s ∈ (g.addRect r).rects, s.Solid := by
  rw [addRect]
  split
  · exact solid
  · rename_i filled
    intro s hs
    rcases List.mem_append.mp hs with old | new
    · exact solid s old
    · exact minusAll_induction (fun _ piece hole hh => solid_minus piece (solid hole hh))
        ⟨exact, by simpa using filled⟩ s new

theorem solid_subtractRect (solid : ∀ s ∈ g.rects, s.Solid) {hole : Rect} (exact : hole.Exact) :
    ∀ s ∈ (g.subtractRect hole).rects, s.Solid := by
  rw [subtractRect]
  split
  · exact solid
  · rename_i filled
    intro s hs
    obtain ⟨r, hr, hs⟩ := List.mem_flatMap.mp hs
    exact solid_minus (solid r hr) ⟨exact, by simpa using filled⟩ s hs

/-- A clip without pixels leaves nothing, so that one with pixels may be assumed. -/
theorem solid_clipTo (solid : ∀ s ∈ g.rects, s.Solid) {clip : Rect} (exact : clip.Exact) :
    ∀ s ∈ (g.clipTo clip).rects, s.Solid := by
  intro s hs
  obtain ⟨r, hr, found⟩ := List.mem_filterMap.mp hs
  have filled : clip.isEmpty = false := (intersects_iff.mp (intersection_edges found).1).2.1
  exact solid_intersection (solid r hr) ⟨exact, filled⟩ found

theorem Assembled.solid (assembled : g.Assembled) : ∀ s ∈ g.rects, s.Solid := by
  have none : ∀ s ∈ Region.empty.rects, s.Solid := fun _ hs => absurd hs List.not_mem_nil
  induction assembled with
  | @ofRects rs hrs =>
    exact List.foldlRecOn (motive := fun g => ∀ s ∈ g.rects, s.Solid) rs Region.addRect none
      fun _ solid r hr => solid_addRect solid (hrs r hr)
  | addRect _ hr ih => exact solid_addRect ih hr
  | @union _ h _ _ ih ih' =>
    exact List.foldlRecOn (motive := fun g => ∀ s ∈ g.rects, s.Solid) h.rects Region.addRect ih
      fun _ solid r hr => solid_addRect solid (ih' r hr).exact
  | subtractRect _ hr ih => exact solid_subtractRect ih hr
  | @subtract _ h _ _ ih ih' =>
    exact List.foldlRecOn (motive := fun g => ∀ s ∈ g.rects, s.Solid) h.rects Region.subtractRect
      ih fun _ solid r hr => solid_subtractRect solid (ih' r hr).exact
  | clipTo _ hr ih => exact solid_clipTo ih hr

theorem Assembled.foldl_addRect (assembled : g.Assembled) {rs : List Rect}
    (exact : ∀ r ∈ rs, r.Exact) : (rs.foldl Region.addRect g).Assembled :=
  List.foldlRecOn (motive := Assembled) rs Region.addRect assembled
    fun _ assembled r hr => assembled.addRect (exact r hr)

/-! ## Areas -/

/-- The sum of all areas in true numbers. -/
def count (g : Region) : Nat :=
  (g.rects.map fun r => r.size.width.toNat * r.size.height.toNat).sum

/-- No pixel is counted twice, and none is missed. -/
theorem encard_pixels (tiled : g.Tiled) (exact : ∀ s ∈ g.rects, s.Exact) :
    {p | g.contains p = true}.encard = g.count := by
  obtain ⟨rects⟩ := g
  induction rects with
  | nil => simp [count, contains]
  | cons r rest ih =>
    obtain ⟨first, others⟩ := List.pairwise_cons.mp tiled
    have both : {p | contains ⟨r :: rest⟩ p = true} =
        {p | r.contains p = true} ∪ {p | contains ⟨rest⟩ p = true} := by
      ext p
      simp [contains]
    have apart : Disjoint {p | r.contains p = true} {p | contains ⟨rest⟩ p = true} := by
      refine Set.disjoint_left.mpr fun p here there => ?_
      obtain ⟨s, hs, there⟩ := List.any_eq_true.mp there
      exact first s hs p ⟨here, there⟩
    have one := Rect.encard_pixels (exact r List.mem_cons_self)
    have more := ih others fun s hs => exact s (List.mem_cons_of_mem r hs)
    rw [both, Set.encard_union_eq apart, one, more, ← Nat.cast_add]
    rfl

/-- No pixel lies in the last column or the last row of the range. -/
theorem encard_pixels_le (g : Region) :
    {p | g.contains p = true}.encard ≤ (4294967295 * 4294967295 : Nat) := by
  have all : {p : Point | g.contains p = true} ⊆
      {p | (-2147483648 ≤ p.x.toInt ∧ p.x.toInt < 2147483647) ∧
        -2147483648 ≤ p.y.toInt ∧ p.y.toInt < 2147483647} := by
    intro p covered
    obtain ⟨r, _, inside⟩ := List.any_eq_true.mp covered
    obtain ⟨⟨left, right⟩, top, bottom⟩ := contains_iff.mp inside
    have across := Coord.toInt_bounds r.right
    have down := Coord.toInt_bounds r.bottom
    have x := Coord.toInt_bounds p.x
    have y := Coord.toInt_bounds p.y
    refine ⟨⟨x.1, ?_⟩, y.1, ?_⟩ <;> omega
  have room := Set.encard_le_encard all
  rwa [Point.encard_between (by omega) (by omega) (by omega) (by omega)] at room

theorem foldl_area_toNat (rs : List Rect) (n : UInt64)
    (fits : n.toNat + count ⟨rs⟩ < 2 ^ 64) :
    (rs.foldl (fun n r => n + r.area) n).toNat = n.toNat + count ⟨rs⟩ := by
  induction rs generalizing n with
  | nil => rfl
  | cons r rest ih =>
    have split : count ⟨r :: rest⟩ = r.area.toNat + count ⟨rest⟩ := by
      rw [Rect.area_toNat, count, List.map_cons, List.sum_cons]
      rfl
    rw [split] at fits ⊢
    have next : (n + r.area).toNat = n.toNat + r.area.toNat := by
      rw [UInt64.toNat_add]
      omega
    rw [List.foldl_cons, ih _ (by omega), next]
    omega

/-- Adding up areas is exact as long as the sum fits. -/
theorem area_toNat (fits : g.count < 2 ^ 64) : g.area.toNat = g.count := by
  have all := foldl_area_toNat g.rects 0 (by rwa [UInt64.toNat_zero, Nat.zero_add])
  rwa [UInt64.toNat_zero, Nat.zero_add] at all

theorem Assembled.encard_pixels (assembled : g.Assembled) :
    {p | g.contains p = true}.encard = g.count :=
  Region.encard_pixels assembled.tiled fun s hs => (assembled.solid s hs).exact

theorem Assembled.count_lt (assembled : g.Assembled) : g.count < 2 ^ 64 := by
  have room := g.encard_pixels_le
  rw [assembled.encard_pixels, Nat.cast_le] at room
  omega

/-- A stored rectangle covers its first corner. -/
theorem isEmpty_iff_of_solid (solid : ∀ s ∈ g.rects, s.Solid) :
    g.isEmpty = true ↔ ∀ p, g.contains p = false := by
  rw [isEmpty, List.isEmpty_iff]
  constructor
  · intro none p
    rw [contains, none, List.any_nil]
  · intro uncovered
    by_contra some
    obtain ⟨r, hr⟩ := List.exists_mem_of_ne_nil g.rects some
    have covered : g.contains ⟨r.left, r.top⟩ = true :=
      List.any_eq_true.mpr ⟨r, hr, (solid r hr).within.contains_first⟩
    rw [uncovered] at covered
    contradiction

theorem Assembled.isEmpty_iff (assembled : g.Assembled) :
    g.isEmpty = true ↔ ∀ p, g.contains p = false :=
  isEmpty_iff_of_solid assembled.solid

/-- One difference is enough: a part that has as many pixels as the whole is the whole. -/
theorem Assembled.same_iff (hg : g.Assembled) (hh : h.Assembled) :
    g.same h = true ↔ ∀ p, g.contains p = h.contains p := by
  have area_eq : g.area = h.area ↔ g.count = h.count := by
    rw [← UInt64.toNat_inj, area_toNat hg.count_lt, area_toNat hh.count_lt]
  have difference : (g.subtract h).isEmpty = true ↔
      {p | g.contains p = true} ⊆ {p | h.contains p = true} := by
    rw [(hg.subtract hh).isEmpty_iff]
    refine forall_congr' fun p => ?_
    rw [contains_subtract, Set.mem_ofPred_eq, Set.mem_ofPred_eq]
    cases g.contains p <;> cases h.contains p <;> simp
  rw [same, Bool.and_eq_true, beq_iff_eq, area_eq, difference]
  constructor
  · rintro ⟨counts, part⟩ p
    have finite := Set.finite_of_encard_eq_coe hh.encard_pixels
    have most : {p | h.contains p = true}.encard ≤ {p | g.contains p = true}.encard := by
      rw [hg.encard_pixels, hh.encard_pixels, counts]
    have whole := (finite.subset part).eq_of_subset_of_encard_le part most
    rw [Bool.eq_iff_iff]
    exact Set.ext_iff.mp whole p
  · intro covered
    have whole : {p | g.contains p = true} = {p | h.contains p = true} :=
      Set.ext fun p => by rw [Set.mem_ofPred_eq, Set.mem_ofPred_eq, covered]
    refine ⟨?_, whole.subset⟩
    have counts := hg.encard_pixels
    rw [whole, hh.encard_pixels, Nat.cast_inj] at counts
    exact counts.symm

/-- Regions that are put together from exact rectangles are what their pixels are. They store
exact rectangles with pixels, are empty if there is no pixel, and have as many pixels as their
area says, which is added up without running over. Two of them are the same if they have the same
pixels. That is an equivalence, and it does not matter by which rectangles in which order some
pixels are added. -/
theorem decided_by_pixels (hg : g.Assembled) (hh : h.Assembled) (hk : k.Assembled) :
    (∀ s ∈ g.rects, s.Exact ∧ s.isEmpty = false) ∧
      (g.isEmpty = true ↔ ∀ p, g.contains p = false) ∧
      ({p | g.contains p = true}.encard = g.area.toNat ∧
        g.area.toNat = g.count ∧ g.count < 2 ^ 64) ∧
      (g.same h = true ↔ ∀ p, g.contains p = h.contains p) ∧
      (g.same g = true ∧ (g.same h = true → h.same g = true) ∧
        (g.same h = true → h.same k = true → g.same k = true)) ∧
      ∀ rs rs' : List Rect, (∀ r ∈ rs, r.Exact) → (∀ r ∈ rs', r.Exact) →
        (∀ p, rs.any (·.contains p) = rs'.any (·.contains p)) →
        (rs.foldl addRect g).same (rs'.foldl addRect g) = true := by
  have area := area_toNat hg.count_lt
  refine ⟨fun s hs => ⟨(hg.solid s hs).exact, (hg.solid s hs).filled⟩, hg.isEmpty_iff,
    ⟨?counted, area, hg.count_lt⟩, hg.same_iff hh, ⟨?reflexive, ?symmetric, ?transitive⟩, ?any_cut⟩
  case counted => rw [hg.encard_pixels, area]
  case reflexive => exact (hg.same_iff hg).mpr fun _ => rfl
  case symmetric =>
    intro same
    have covered := (hg.same_iff hh).mp same
    exact (hh.same_iff hg).mpr fun p => (covered p).symm
  case transitive =>
    intro same same'
    have covered := (hg.same_iff hh).mp same
    have covered' := (hh.same_iff hk).mp same'
    exact (hg.same_iff hk).mpr fun p => (covered p).trans (covered' p)
  case any_cut =>
    intro rs rs' exact exact' covered
    refine ((hg.foldl_addRect exact).same_iff (hg.foldl_addRect exact')).mpr fun p => ?_
    rw [contains_foldl_addRect, contains_foldl_addRect, covered]

def frame : Region := (ofRects [ofCoords 0 0 30 30]).subtractRect (ofCoords 10 10 10 10)

/-- The same as four bars that overlap in the corners. -/
def bars : Region :=
  ((ofRects [ofCoords 0 0 10 30, ofCoords 20 0 10 30]).addRect (ofCoords 0 20 30 10)).addRect
    (ofCoords 0 0 30 10)

theorem bars_frame_the_hole :
    frame.rects ≠ bars.rects ∧ (∀ p, frame.contains p = bars.contains p) ∧
      {p | frame.contains p = true}.encard = 800 ∧ bars.same frame = true := by
  have framed : frame.Assembled := .subtractRect (.ofRects (by decide)) (by decide)
  have barred : bars.Assembled := .addRect (.addRect (.ofRects (by decide)) (by decide)) (by decide)
  obtain ⟨-, -, ⟨counted, -, -⟩, same, ⟨-, turned, -⟩, -⟩ :=
    decided_by_pixels framed barred framed
  have equal : frame.same bars = true := by decide +kernel
  have area : frame.area.toNat = 800 := by decide +kernel
  rw [area] at counted
  exact ⟨by decide +kernel, same.mp equal, counted, turned equal⟩

end Region

end Compositing
