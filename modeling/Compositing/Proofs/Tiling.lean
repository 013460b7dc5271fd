import Compositing.Proofs.Pixels

/-!
# Regions are exact sets of pixels

A region is a list of rectangles, and each operation says how the list is cut anew. Here the
cuts are shown to be exact: none loses a pixel and none counts one twice. The statements are
about all rectangles, also about those whose extent leads backwards and those whose edge stops
at the end of the range. Translating moves the origins only. Where an origin would leave the
range it does not keep the pixels, and this is the only operation that can make two stored
rectangles overlap.
-/

namespace Compositing

namespace Coord

def InRange (i : Int) : Prop := -2147483648 ≤ i ∧ i ≤ 2147483647

instance (i : Int) : Decidable (InRange i) := inferInstanceAs (Decidable (_ ∧ _))

theorem clamp_of_inRange {i : Int} (fits : InRange i) : (clamp i).toInt = i := by
  obtain ⟨low, high⟩ := fits
  rw [clamp_toInt]
  omega

theorem span_toNat {a b : Coord} (near : b.toInt - a.toInt < 2147483648) :
    (a.span b).toNat < 2147483648 := by
  have reduced : (a.span b).toNat = (b.toInt - a.toInt).toNat % 4294967296 := rfl
  rw [reduced]
  omega

end Coord

namespace Rect

def Apart (r s : Rect) : Prop := ∀ p : Point, ¬(r.contains p = true ∧ s.contains p = true)

/-- No extent leads backwards. -/
def Modest (r : Rect) : Prop := r.size.width.toNat ≤ 2147483647 ∧ r.size.height.toNat ≤ 2147483647

instance (r : Rect) : Decidable r.Modest := inferInstanceAs (Decidable (_ ∧ _))

/-- Moved by `dx` and `dy`, all exact edges of the rectangle are positions. -/
def FitsAt (r : Rect) (dx dy : Int) : Prop :=
  (Coord.InRange (r.left.toInt + dx) ∧ Coord.InRange (r.left.toInt + r.size.width.toNat + dx)) ∧
    Coord.InRange (r.top.toInt + dy) ∧ Coord.InRange (r.top.toInt + r.size.height.toNat + dy)

instance (r : Rect) (dx dy : Int) : Decidable (r.FitsAt dx dy) :=
  inferInstanceAs (Decidable (_ ∧ _))

/-! ## The pieces of a rectangle -/

theorem contains_of_mem_minus {r hole s : Rect} (hs : s ∈ r.minus hole) {p : Point}
    (inside : s.contains p = true) : r.contains p = true ∧ hole.contains p = false := by
  have covered := contains_minus r hole p
  rw [List.any_eq_true.mpr ⟨s, hs, inside⟩] at covered
  simpa using covered.symm

theorem contains_of_mem_minusAll {r s : Rect} {holes : List Rect} (hs : s ∈ r.minusAll holes)
    {p : Point} (inside : s.contains p = true) :
    r.contains p = true ∧ holes.any (·.contains p) = false := by
  have covered := contains_minusAll r holes p
  rw [List.any_eq_true.mpr ⟨s, hs, inside⟩] at covered
  have both := covered.symm
  rwa [Bool.and_eq_true, Bool.not_eq_true'] at both

/-- The bands lie above and below the cut, and the side pieces to its left and right. -/
theorem pairwise_minus (r hole : Rect) : (r.minus hole).Pairwise Apart := by
  rw [minus]
  split
  · exact List.pairwise_singleton _ _
  · rename_i cut found
    obtain ⟨crossing, left, top, right, bottom⟩ := intersection_edges found
    have wide := right_sub_left r
    have high := bottom_sub_top r
    have before : cut.left.toInt - r.left.toInt < 2147483648 := by
      have := (intersects_iff.mp crossing).2.2
      omega
    have behind : r.right.toInt - cut.right.toInt < 2147483648 := by omega
    have above : cut.top.toInt - r.top.toInt < 2147483648 := by
      have := (intersects_iff.mp crossing).2.2
      omega
    have below : r.bottom.toInt - cut.bottom.toInt < 2147483648 := by omega
    have beside : cut.bottom.toInt - cut.top.toInt < 2147483648 := by omega
    have alone (put : Prop) [Decidable put] (s : Rect) :
        (if put then [s] else []).Pairwise Apart := by
      split
      · exact List.pairwise_singleton _ _
      · exact List.Pairwise.nil
    have covers {pieces : List Rect} {s : Rect} (hs : s ∈ pieces) {p : Point}
        (inside : s.contains p = true) : pieces.any (·.contains p) = true :=
      List.any_eq_true.mpr ⟨s, hs, inside⟩
    refine List.pairwise_append.mpr ⟨List.pairwise_append.mpr ⟨List.pairwise_append.mpr
      ⟨alone _ _, alone _ _, ?_⟩, alone _ _, ?_⟩, alone _ _, ?_⟩
    · rintro s hs t ht p ⟨first, second⟩
      have first := (contains_band wide above).mp (covers hs first)
      have second := (contains_band wide below).mp (covers ht second)
      omega
    · rintro s hs t ht p ⟨first, second⟩
      have second := (contains_side before beside).mp (covers ht second)
      rcases List.mem_append.mp hs with hs | hs
      · have first := (contains_band wide above).mp (covers hs first)
        omega
      · have first := (contains_band wide below).mp (covers hs first)
        omega
    · rintro s hs t ht p ⟨first, second⟩
      have second := (contains_side behind beside).mp (covers ht second)
      rcases List.mem_append.mp hs with hs | hs
      · rcases List.mem_append.mp hs with hs | hs
        · have first := (contains_band wide above).mp (covers hs first)
          omega
        · have first := (contains_band wide below).mp (covers hs first)
          omega
      · have first := (contains_side before beside).mp (covers hs first)
        omega

/-- Cutting a hole out of rectangles that are apart leaves pieces that are apart. -/
theorem pairwise_flatMap_minus {rs : List Rect} (apart : rs.Pairwise Apart) (hole : Rect) :
    (rs.flatMap (·.minus hole)).Pairwise Apart := by
  refine List.pairwise_flatMap.mpr ⟨fun r _ => pairwise_minus r hole, apart.imp ?_⟩
  rintro r s apart t ht u hu p ⟨first, second⟩
  exact apart p ⟨(contains_of_mem_minus ht first).1, (contains_of_mem_minus hu second).1⟩

theorem pairwise_minusAll (r : Rect) (holes : List Rect) : (r.minusAll holes).Pairwise Apart := by
  have all (pieces : List Rect) (apart : pieces.Pairwise Apart) :
      (holes.foldl (fun pieces hole => pieces.flatMap (·.minus hole)) pieces).Pairwise Apart := by
    induction holes generalizing pieces with
    | nil => exact apart
    | cons hole rest ih => exact ih _ (pairwise_flatMap_minus apart hole)
  exact all [r] (List.pairwise_singleton _ _)

/-- What two rectangles have in common, as a set of pixels. -/
theorem contains_intersection (r s : Rect) (p : Point) :
    (r.intersection? s).any (·.contains p) = (r.contains p && s.contains p) := by
  cases found : r.intersection? s with
  | none =>
    have apart : r.intersects s = false := by
      by_contra crossing
      simp [intersection?, by simpa using crossing] at found
    cases inside : r.contains p with
    | false => rfl
    | true => simp [apart_of_not_intersects apart inside]
  | some cut =>
    obtain ⟨-, left, top, right, bottom⟩ := intersection_edges found
    rw [Option.any_some, Bool.eq_iff_iff, Bool.and_eq_true, contains_iff, contains_iff,
      contains_iff]
    constructor
    · intro inside
      refine ⟨⟨?_, ?_⟩, ?_, ?_⟩ <;> omega
    · intro inside
      refine ⟨?_, ?_⟩ <;> omega

/-! ## Modest rectangles -/

theorem modest_ofEdges {left top right bottom : Coord}
    (across : right.toInt - left.toInt < 2147483648)
    (down : bottom.toInt - top.toInt < 2147483648) : (ofEdges left top right bottom).Modest :=
  ⟨Nat.le_of_lt_succ (Coord.span_toNat across), Nat.le_of_lt_succ (Coord.span_toNat down)⟩

/-- What two rectangles have in common lies between edges that are near. -/
theorem intersection_induction {P : Rect → Prop} {r s cut : Rect}
    (found : r.intersection? s = some cut)
    (piece : ∀ {left top right bottom : Coord}, right.toInt - left.toInt < 2147483648 →
      bottom.toInt - top.toInt < 2147483648 → P (ofEdges left top right bottom)) : P cut := by
  have wide := right_sub_left r
  have high := bottom_sub_top r
  have left := Coord.max_toInt r.left s.left
  have top := Coord.max_toInt r.top s.top
  have right := Coord.min_toInt r.right s.right
  have bottom := Coord.min_toInt r.bottom s.bottom
  rw [intersection?] at found
  split at found
  · obtain rfl := Option.some.inj found
    exact piece (by omega) (by omega)
  · simp at found

theorem modest_intersection {r s cut : Rect} (found : r.intersection? s = some cut) :
    cut.Modest :=
  intersection_induction found modest_ofEdges

/-- A cut leaves the rectangle as it is, or makes pieces between edges that are near. -/
theorem minus_induction {P : Rect → Prop} {r hole : Rect} (whole : P r)
    (piece : ∀ {left top right bottom : Coord}, right.toInt - left.toInt < 2147483648 →
      bottom.toInt - top.toInt < 2147483648 → P (ofEdges left top right bottom)) :
    ∀ s ∈ r.minus hole, P s := by
  rw [minus]
  split
  · simpa using whole
  · rename_i cut found
    obtain ⟨crossing, left, top, right, bottom⟩ := intersection_edges found
    obtain ⟨_, _, across, down⟩ := intersects_iff.mp crossing
    have wide := right_sub_left r
    have high := bottom_sub_top r
    have put {put : Prop} [Decidable put] {s t : Rect} (kept : P s)
        (ht : t ∈ if put then [s] else []) : P t := by
      split at ht
      · rwa [List.mem_singleton.mp ht]
      · simp at ht
    intro s hs
    simp only [List.mem_append] at hs
    obtain ((above | below) | before) | behind := hs
    · exact put (piece wide (by omega)) above
    · exact put (piece wide (by omega)) below
    · exact put (piece (by omega) (by omega)) before
    · exact put (piece (by omega) (by omega)) behind

/-- A cut never makes an extent that leads backwards. -/
theorem modest_minus {r hole : Rect} (modest : r.Modest) : ∀ s ∈ r.minus hole, s.Modest :=
  minus_induction modest modest_ofEdges

theorem modest_minusAll {r : Rect} (modest : r.Modest) (holes : List Rect) :
    ∀ s ∈ r.minusAll holes, s.Modest :=
  minusAll_induction (fun _ modest _ _ => modest_minus modest) modest

/-- Without an extent that leads backwards the far edges lie ahead of the near ones, unless the
end of the range stops them. -/
theorem far_edges {r : Rect} (modest : r.Modest) (filled : r.isEmpty = false) :
    (r.right.toInt = 2147483647 ∨ r.left.toInt < r.right.toInt) ∧
      (r.bottom.toInt = 2147483647 ∨ r.top.toInt < r.bottom.toInt) := by
  have reach (a : Coord) {n : Extent} (small : n.toNat ≤ 2147483647) (some : n ≠ 0) :
      (a.add n.toInt32).toInt = 2147483647 ∨ a.toInt < (a.add n.toInt32).toInt := by
    have bounds := Coord.toInt_bounds a
    have positive : n.toNat ≠ 0 := fun none => some (UInt32.toNat_inj.mp none)
    rw [Coord.add_toInt, Coord.displacement]
    split <;> omega
  simp only [isEmpty, Size.isEmpty, Bool.or_eq_false_iff, beq_eq_false_iff_ne] at filled
  exact ⟨reach r.left modest.1 filled.1, reach r.top modest.2 filled.2⟩

/-- The first corner that two rectangles could share is in both if they cross and no extent
leads backwards. -/
theorem intersects_iff_common {r s : Rect} (hr : r.Modest) (hs : s.Modest) :
    r.intersects s = true ↔ ∃ p : Point, r.contains p = true ∧ s.contains p = true := by
  constructor
  · intro crossing
    obtain ⟨filled, filled', across, down⟩ := intersects_iff.mp crossing
    have far := far_edges hr filled
    have far' := far_edges hs filled'
    have right := Coord.toInt_bounds r.right
    have right' := Coord.toInt_bounds s.right
    have bottom := Coord.toInt_bounds r.bottom
    have bottom' := Coord.toInt_bounds s.bottom
    obtain ⟨x, hx⟩ : ∃ x : Coord, x.toInt = max r.left.toInt s.left.toInt :=
      ⟨_, Coord.max_toInt r.left s.left⟩
    obtain ⟨y, hy⟩ : ∃ y : Coord, y.toInt = max r.top.toInt s.top.toInt :=
      ⟨_, Coord.max_toInt r.top s.top⟩
    refine ⟨⟨x, y⟩, contains_iff.mpr ⟨⟨?_, ?_⟩, ?_, ?_⟩, contains_iff.mpr ⟨⟨?_, ?_⟩, ?_, ?_⟩⟩ <;>
      simp only <;> omega
  · rintro ⟨p, here, there⟩
    by_contra apart
    have apart := apart_of_not_intersects (by simpa using apart) here
    simp [there] at apart

/-! ## Moving a rectangle -/

/-- One axis. An extent that leads backwards does so before and after the shift. -/
theorem shifted_axis {a q d : Coord} {n : Extent} (before : Coord.InRange (a.toInt + n.toNat))
    (near : Coord.InRange (a.toInt + d.toInt)) (far : Coord.InRange (a.toInt + n.toNat + d.toInt))
    (back : Coord.InRange (q.toInt - d.toInt)) :
    ((a.add d).toInt ≤ q.toInt ∧ q.toInt < ((a.add d).add n.toInt32).toInt) ↔
      a.toInt ≤ (q.sub d).toInt ∧ (q.sub d).toInt < (a.add n.toInt32).toInt := by
  have moved : (a.add d).toInt = a.toInt + d.toInt := Coord.clamp_of_inRange near
  have from' : (q.sub d).toInt = q.toInt - d.toInt := Coord.clamp_of_inRange back
  have small : n.toNat < 4294967296 := n.toNat_lt
  have bounds := Coord.toInt_bounds a
  obtain ⟨low, high⟩ := before
  obtain ⟨low', high'⟩ := far
  obtain ⟨low'', high''⟩ := near
  rw [Coord.add_toInt, Coord.add_toInt, Coord.displacement, moved, from']
  split
  · constructor <;> omega
  · constructor <;> omega

theorem contains_translate {r : Rect} {d p : Point} (before : r.FitsAt 0 0)
    (after : r.FitsAt d.x.toInt d.y.toInt) (across : Coord.InRange (p.x.toInt - d.x.toInt))
    (down : Coord.InRange (p.y.toInt - d.y.toInt)) :
    (r.translate d).contains p = r.contains (p.sub d) := by
  obtain ⟨⟨-, right⟩, -, bottom⟩ := before
  obtain ⟨⟨left', right'⟩, top', bottom'⟩ := after
  rw [Int.add_zero] at right bottom
  rw [Bool.eq_iff_iff, contains_iff, contains_iff]
  exact and_congr (shifted_axis right left' right' across) (shifted_axis bottom top' bottom' down)

end Rect

namespace Region

open Rect

/-! ## The operations as sets of pixels -/

theorem contains_subtract (g h : Region) (p : Point) :
    (g.subtract h).contains p = (g.contains p && !h.contains p) :=
  contains_foldl_subtractRect h.rects g p

theorem contains_clipTo (g : Region) (clip : Rect) (p : Point) :
    (g.clipTo clip).contains p = (g.contains p && clip.contains p) := by
  simp only [clipTo, contains, List.any_filterMap, List.and_any_distrib_right]
  refine congrArg g.rects.any (funext fun r => ?_)
  rw [← contains_intersection]
  cases r.intersection? clip <;> rfl

theorem contains_translate {g : Region} {d p : Point}
    (fits : ∀ r ∈ g.rects, r.FitsAt 0 0 ∧ r.FitsAt d.x.toInt d.y.toInt)
    (across : Coord.InRange (p.x.toInt - d.x.toInt))
    (down : Coord.InRange (p.y.toInt - d.y.toInt)) :
    (g.translate d).contains p = g.contains (p.sub d) := by
  have each : ∀ r ∈ g.rects, (r.translate d).contains p = r.contains (p.sub d) := fun r hr =>
    Rect.contains_translate (fits r hr).1 (fits r hr).2 across down
  simp only [translate, contains, List.any_map]
  rw [Bool.eq_iff_iff, List.any_eq_true, List.any_eq_true]
  exact exists_congr fun r => and_congr_right fun hr => by rw [Function.comp, each r hr]

theorem intersects_iff_common {g : Region} {r : Rect} (modest : ∀ s ∈ g.rects, s.Modest)
    (hr : r.Modest) :
    g.intersects r = true ↔ ∃ p : Point, g.contains p = true ∧ r.contains p = true := by
  simp only [intersects, contains, List.any_eq_true]
  constructor
  · rintro ⟨s, hs, crossing⟩
    obtain ⟨p, here, there⟩ := (Rect.intersects_iff_common (modest s hs) hr).mp crossing
    exact ⟨p, ⟨s, hs, here⟩, there⟩
  · rintro ⟨p, ⟨s, hs, here⟩, there⟩
    exact ⟨s, hs, (Rect.intersects_iff_common (modest s hs) hr).mpr ⟨p, here, there⟩⟩

/-! ## What the operations build -/

/-- The regions that the operations build out of rectangles with a property, with or without
translating. A region that is taken away may be any. -/
inductive Built (ok : Rect → Prop) (translating : Prop) : Region → Prop
  | empty : Built ok translating empty
  | ofRect {r} (hr : ok r) : Built ok translating (ofRect r)
  | ofRects {rs} (hrs : ∀ r ∈ rs, ok r) : Built ok translating (ofRects rs)
  | addRect {g r} (hg : Built ok translating g) (hr : ok r) : Built ok translating (g.addRect r)
  | union {g h} (hg : Built ok translating g) (hh : Built ok translating h) :
      Built ok translating (g.union h)
  | subtractRect {g} (hg : Built ok translating g) (hole : Rect) :
      Built ok translating (g.subtractRect hole)
  | subtract {g} (hg : Built ok translating g) (h : Region) :
      Built ok translating (g.subtract h)
  | clipTo {g} (hg : Built ok translating g) (clip : Rect) : Built ok translating (g.clipTo clip)
  | translate {g} (moves : translating) (hg : Built ok translating g) (d : Point) :
      Built ok translating (g.translate d)

def Tiled (g : Region) : Prop := g.rects.Pairwise Apart

def Modest (g : Region) : Prop := ∀ s ∈ g.rects, s.Modest

theorem tiled_empty : empty.Tiled := List.Pairwise.nil

theorem tiled_addRect {g : Region} (tiled : g.Tiled) (r : Rect) : (g.addRect r).Tiled := by
  rw [addRect]
  split
  · exact tiled
  · refine List.pairwise_append.mpr ⟨tiled, pairwise_minusAll r g.rects, ?_⟩
    rintro s hs t ht p ⟨old, new⟩
    have free := (contains_of_mem_minusAll ht new).2
    rw [List.any_eq_true.mpr ⟨s, hs, old⟩] at free
    contradiction

theorem tiled_subtractRect {g : Region} (tiled : g.Tiled) (hole : Rect) :
    (g.subtractRect hole).Tiled := by
  rw [subtractRect]
  split
  · exact tiled
  · exact pairwise_flatMap_minus tiled hole

theorem tiled_clipTo {g : Region} (tiled : g.Tiled) (clip : Rect) : (g.clipTo clip).Tiled := by
  refine List.pairwise_filterMap.mpr (List.Pairwise.imp ?_ tiled)
  rintro r s apart t ht u hu p ⟨first, second⟩
  have inside {r t : Rect} (found : r.intersection? clip = some t) (inside : t.contains p = true) :
      r.contains p = true := by
    have common := contains_intersection r clip p
    rw [found, Option.any_some, inside] at common
    exact (Bool.and_eq_true_iff.mp common.symm).1
  exact apart p ⟨inside ht first, inside hu second⟩

/-- No pixel is counted twice as long as nothing is translated. -/
theorem Built.tiled {ok : Rect → Prop} {g : Region} (built : Built ok False g) : g.Tiled := by
  induction built with
  | empty => exact tiled_empty
  | ofRect _ => exact tiled_addRect tiled_empty _
  | @ofRects rs _ =>
    exact List.foldlRecOn (motive := Tiled) rs Region.addRect tiled_empty
      fun _ tiled r _ => tiled_addRect tiled r
  | addRect _ _ ih => exact tiled_addRect ih _
  | @union _ h _ _ ih _ =>
    exact List.foldlRecOn (motive := Tiled) h.rects Region.addRect ih
      fun _ tiled r _ => tiled_addRect tiled r
  | subtractRect _ hole ih => exact tiled_subtractRect ih hole
  | subtract _ h ih =>
    exact List.foldlRecOn (motive := Tiled) h.rects Region.subtractRect ih
      fun _ tiled hole _ => tiled_subtractRect tiled hole
  | clipTo _ clip ih => exact tiled_clipTo ih clip
  | translate moves _ _ _ => exact moves.elim

theorem modest_empty : empty.Modest := fun _ hs => absurd hs List.not_mem_nil

theorem modest_addRect {g : Region} (modest : g.Modest) {r : Rect} (hr : r.Modest) :
    (g.addRect r).Modest := by
  rw [addRect]
  split
  · exact modest
  · intro s hs
    rcases List.mem_append.mp hs with old | new
    · exact modest s old
    · exact modest_minusAll hr g.rects s new

theorem modest_subtractRect {g : Region} (modest : g.Modest) (hole : Rect) :
    (g.subtractRect hole).Modest := by
  rw [subtractRect]
  split
  · exact modest
  · intro s hs
    obtain ⟨r, hr, hs⟩ := List.mem_flatMap.mp hs
    exact modest_minus (modest r hr) s hs

/-- Out of rectangles whose extents do not lead backwards only such rectangles are cut. -/
theorem Built.modest {translating : Prop} {g : Region}
    (built : Built Rect.Modest translating g) : g.Modest := by
  induction built with
  | empty => exact modest_empty
  | ofRect hr => exact modest_addRect modest_empty hr
  | @ofRects rs hrs =>
    exact List.foldlRecOn (motive := Modest) rs Region.addRect modest_empty
      fun _ modest r hr => modest_addRect modest (hrs r hr)
  | addRect _ hr ih => exact modest_addRect ih hr
  | @union _ h _ _ ih ih' =>
    exact List.foldlRecOn (motive := Modest) h.rects Region.addRect ih
      fun _ modest r hr => modest_addRect modest (ih' r hr)
  | subtractRect _ hole ih => exact modest_subtractRect ih hole
  | subtract _ h ih =>
    exact List.foldlRecOn (motive := Modest) h.rects Region.subtractRect ih
      fun _ modest hole _ => modest_subtractRect modest hole
  | clipTo _ clip _ =>
    intro s hs
    obtain ⟨r, _, found⟩ := List.mem_filterMap.mp hs
    exact modest_intersection found
  | translate _ _ d ih =>
    intro s hs
    obtain ⟨r, hr, rfl⟩ := List.mem_map.mp hs
    exact ih r hr

/-- Regions are exact sets of pixels, however their rectangles are cut: the operations are those
on sets, no pixel is stored twice by what is built without translating, a translation within the
range moves the pixels, and without extents that lead backwards a rectangle intersects a region
exactly if the two share a pixel. -/
theorem exact_pixels (g h : Region) (r : Rect) (p d : Point) :
    ((g.addRect r).contains p = true ↔ g.contains p = true ∨ r.contains p = true) ∧
      ((g.union h).contains p = true ↔ g.contains p = true ∨ h.contains p = true) ∧
      ((g.subtractRect r).contains p = true ↔ g.contains p = true ∧ ¬r.contains p = true) ∧
      ((g.subtract h).contains p = true ↔ g.contains p = true ∧ ¬h.contains p = true) ∧
      ((g.clipTo r).contains p = true ↔ g.contains p = true ∧ r.contains p = true) ∧
      (Built (fun _ => True) False g → g.Tiled) ∧
      (Coord.InRange (p.x.toInt - d.x.toInt) → Coord.InRange (p.y.toInt - d.y.toInt) →
        (∀ s ∈ g.rects, s.FitsAt 0 0 ∧ s.FitsAt d.x.toInt d.y.toInt) →
        ((g.translate d).contains p = true ↔ g.contains (p.sub d) = true)) ∧
      (Built Rect.Modest True g → g.Modest) ∧
      (g.Modest → r.Modest →
        (g.intersects r = true ↔ ∃ q : Point, g.contains q = true ∧ r.contains q = true)) := by
  refine ⟨?added, ?joined, ?cut, ?taken, ?clipped, Built.tiled, ?moved, Built.modest,
    intersects_iff_common⟩
  case added => rw [contains_addRect, Bool.or_eq_true]
  case joined => rw [contains_union, Bool.or_eq_true]
  case cut => rw [contains_subtractRect, Bool.and_eq_true, Bool.not_eq_true', Bool.not_eq_true]
  case taken => rw [contains_subtract, Bool.and_eq_true, Bool.not_eq_true', Bool.not_eq_true]
  case clipped => rw [contains_clipTo, Bool.and_eq_true]
  case moved =>
    intro across down fits
    rw [contains_translate fits across down]

/-- Two overlapping rectangles near the end of the range. The hole leads backwards. -/
def atTheBorder : Region :=
  ((ofRect (ofCoords 2147483600 0 40 40)).addRect (ofCoords 2147483590 (-10) 30 30)).subtractRect
    (ofCoords 2147483605 5 2147483653 10)

theorem built_atTheBorder {ok : Rect → Prop} {translating : Prop}
    (first : ok (ofCoords 2147483600 0 40 40)) (second : ok (ofCoords 2147483590 (-10) 30 30)) :
    Built ok translating atTheBorder :=
  .subtractRect (.addRect (.ofRect first) second) _

theorem exact_pixels_at_the_border :
    atTheBorder.Tiled ∧ atTheBorder.Modest ∧
      ((atTheBorder.translate ⟨5, -7⟩).contains ⟨2147483612, 12⟩ = true ↔
        atTheBorder.contains ⟨2147483607, 19⟩ = true) ∧
      (atTheBorder.intersects (ofCoords 2147483610 10 2147483647 5) = true ↔
        ∃ q : Point, atTheBorder.contains q = true ∧
          (ofCoords 2147483610 10 2147483647 5).contains q = true) := by
  obtain ⟨-, -, -, -, -, tiled, moved, modest, meets⟩ :=
    exact_pixels atTheBorder empty (ofCoords 2147483610 10 2147483647 5) ⟨2147483612, 12⟩ ⟨5, -7⟩
  have still := modest (built_atTheBorder (by decide) (by decide))
  refine ⟨tiled (built_atTheBorder trivial trivial), still, ?_, meets still (by decide)⟩
  exact moved (by decide) (by decide) (by decide +kernel)

end Region

end Compositing
