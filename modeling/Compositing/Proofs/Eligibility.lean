import Compositing.Proofs.Area
import Compositing.Proofs.Overlap

/-!
# Which windows may bypass compositing

The policy speaks of a window, of what is stacked above it and of the places that it may fill. The
decision scans the stack from the top and stops where it meets the window, and it compares a
window with the monitor that shows the middle of it. The scan is exact. The monitor is not: it is
the first of the list with that point, and where monitors overlap another one may come first. A
monitor with an extent of 2^31 or more shows no point at all. A window on such a monitor is
overlooked, and no other window is.
-/

namespace Compositing

namespace Rect

/-- With edges within the range a rectangle shows its own middle, unless an extent leads
backwards. -/
theorem contains_center_iff {r : Rect} (filled : r.isEmpty = false)
    (across : Coord.InRange (r.left.toInt + r.size.width.toNat))
    (down : Coord.InRange (r.top.toInt + r.size.height.toNat)) :
    r.contains r.center = true ↔ r.Modest := by
  have half (n : Extent) : (n / 2).toNat = n.toNat / 2 := UInt32.toNat_div n 2
  constructor
  · intro shown
    obtain ⟨⟨left, right⟩, top, bottom⟩ := contains_iff.mp shown
    -- an extent that leads backwards puts the far edge before the near one
    have forwards {a : Coord} {n : Extent} (ahead : a.toInt < (a.add n.toInt32).toInt) :
        n.toNat ≤ 2147483647 := by
      have bounds := Coord.toInt_bounds a
      have small := n.toNat_lt
      rw [Coord.add_toInt, Coord.displacement] at ahead
      split at ahead <;> omega
    exact ⟨forwards (Int.lt_of_le_of_lt left right), forwards (Int.lt_of_le_of_lt top bottom)⟩
  · rintro ⟨wide, high⟩
    have exact : r.Exact := ⟨⟨wide, high⟩, across, down⟩
    have within := (Solid.mk exact filled).within
    have middle {a : Coord} {n : Extent} (small : n.toNat ≤ 2147483647)
        (fits : Coord.InRange (a.toInt + n.toNat)) :
        (a.add (n / 2).toInt32).toInt = a.toInt + (n.toNat / 2 : Nat) := by
      have bounds := Coord.toInt_bounds a
      have high := fits.2
      rw [exact_axis (by rw [half]; omega) ⟨by omega, by rw [half]; omega⟩, half]
    have x : r.center.x.toInt = r.left.toInt + (r.size.width.toNat / 2 : Nat) := middle wide across
    have y : r.center.y.toInt = r.top.toInt + (r.size.height.toNat / 2 : Nat) := middle high down
    have right := exact.right
    have bottom := exact.bottom
    have wide := within.across
    have high := within.down
    refine contains_iff.mpr ⟨⟨?_, ?_⟩, ?_, ?_⟩ <;> omega

end Rect

namespace Layout

def before (layout : Layout) (r : Rect) : List Rect := layout.screens.takeWhile (· != r)

theorem find?_eq_some_iff_takeWhile {rs : List Rect} {shows : Rect → Bool} {r : Rect} :
    rs.find? shows = some r ↔
      r ∈ rs ∧ shows r = true ∧ ∀ m ∈ rs.takeWhile (· != r), shows m = false := by
  induction rs with
  | nil => simp
  | cons m rest ih =>
    by_cases first : m = r
    · subst first
      cases shown : shows m with
      | true => simp [shown]
      | false =>
        have other : rest.find? shows ≠ some m := fun found => by
          simp [List.find?_some found] at shown
        simp [shown, other]
    · cases shown : shows m with
      | true => simp [first, shown]
      | false => simp [first, Ne.symm first, shown, ih]

/-- The monitor at the middle of a rectangle is the rectangle itself if it is a monitor that shows
its middle and none listed before does. -/
theorem screenAt?_center_iff {layout : Layout} {r : Rect} :
    layout.screenAt? r.center = some r ↔
      r ∈ layout.screens ∧ r.contains r.center = true ∧
        ∀ m ∈ layout.before r, m.contains r.center = false :=
  find?_eq_some_iff_takeWhile

end Layout

namespace WindowStack

variable {s : WindowStack} {layout : Layout} {context : BypassContext} {w : Toplevel}

/-! ## The scan from the top -/

theorem uncoveredFrom_of_clear {upper lower : List Toplevel}
    (clear : ∀ v ∈ upper, v.geometry.intersects w.geometry = false) :
    uncoveredFrom w (upper ++ w :: lower) = true := by
  induction upper with
  | nil => simp [uncoveredFrom]
  | cons v rest ih =>
    have free := clear v List.mem_cons_self
    have later := ih fun u hu => clear u (List.mem_cons_of_mem v hu)
    rw [List.cons_append, uncoveredFrom, free, later]
    simp

/-- The scan ends early only if the window is covered. -/
theorem isUncovered_iff (distinct : s.Distinct) (hw : w ∈ s.windows) :
    s.isUncovered w = true ↔ ∀ v ∈ s.above w.id, v.geometry.intersects w.geometry = false := by
  refine ⟨above_of_isUncovered distinct hw, fun clear => ?_⟩
  obtain ⟨below, rest, split⟩ := List.mem_iff_append.mp hw
  rw [above_eq distinct split] at clear
  rw [isUncovered, split, List.reverse_append, List.reverse_cons, List.append_assoc]
  exact uncoveredFrom_of_clear fun v hv => clear v (List.mem_reverse.mp hv)

/-! ## The policy -/

def Fills (layout : Layout) (w : Toplevel) : Prop :=
  (∃ state, w.kind = .client state ∧ state.active = true ∧ state.fullscreen = true) ∨
    (w.kind = .unmanaged ∧ (w.geometry = layout.full ∨ w.geometry ∈ layout.screens))

/-- All that the policy asks of a window that bypasses compositing. -/
structure Warranted (s : WindowStack) (layout : Layout) (context : BypassContext)
    (w : Toplevel) : Prop where
  enabled : context.optionEnabled = true
  noEffect : context.fullscreenEffect = false
  unshaped : w.shaped = false
  noAlpha : w.hasAlpha = false
  unsuspended : w.bypassSuspended = false
  full : w.opacity = 1
  uncovered : ∀ v ∈ s.above w.id, v.geometry.intersects w.geometry = false
  fills : Fills layout w

/-- An unmanaged window on a monitor that is not the one found at its middle: an extent leads
backwards, or a monitor listed before shows the same point. -/
def Overlooked (layout : Layout) (w : Toplevel) : Prop :=
  w.kind = .unmanaged ∧ w.geometry ≠ layout.full ∧
    (¬w.geometry.Modest ∨ ∃ m ∈ layout.before w.geometry, m.contains w.geometry.center = true)

theorem shouldBypass_iff :
    s.shouldBypass layout w = true ↔ s.isUncovered w = true ∧
      ((∃ state, w.kind = .client state ∧ state.active = true ∧ state.fullscreen = true) ∨
        (w.kind = .unmanaged ∧
          (w.geometry = layout.full ∨ layout.screenAt? w.geometry.center = some w.geometry))) := by
  rw [shouldBypass]
  cases w.kind with
  | client state => simp [and_assoc, and_comm]
  | unmanaged => simp [and_comm]
  | placeholder wasClient => simp

/-- What the decision asks of the place, besides the policy. -/
theorem fills_iff
    (monitors : ∀ r ∈ layout.screens, r.isEmpty = false ∧
      Coord.InRange (r.left.toInt + r.size.width.toNat) ∧
      Coord.InRange (r.top.toInt + r.size.height.toNat)) :
    ((∃ state, w.kind = .client state ∧ state.active = true ∧ state.fullscreen = true) ∨
        (w.kind = .unmanaged ∧
          (w.geometry = layout.full ∨ layout.screenAt? w.geometry.center = some w.geometry))) ↔
      Fills layout w ∧ ¬Overlooked layout w := by
  have found : layout.screenAt? w.geometry.center = some w.geometry ↔
      w.geometry ∈ layout.screens ∧ w.geometry.Modest ∧
        ¬∃ m ∈ layout.before w.geometry, m.contains w.geometry.center = true := by
    rw [Layout.screenAt?_center_iff]
    refine and_congr_right fun listed => ?_
    obtain ⟨filled, across, down⟩ := monitors w.geometry listed
    rw [Rect.contains_center_iff filled across down]
    simp
  rw [found, Fills, Overlooked]
  cases w.kind with
  | client state => simp
  | unmanaged =>
    simp only [reduceCtorEq, false_and, exists_false, false_or, true_and]
    by_cases whole : w.geometry = layout.full
    · simp [whole]
    · simp only [whole, false_or, not_false_eq_true, ne_eq, true_and, not_or, not_not]
  | placeholder wasClient => simp

theorem isEligible_iff :
    s.isEligible layout context w = true ↔
      context.optionEnabled = true ∧ context.fullscreenEffect = false ∧
        w.bypassSuspended = false ∧ w.shaped = false ∧ w.hasAlpha = false ∧ 1 ≤ w.opacity ∧
        s.shouldBypass layout w = true := by
  simp only [isEligible, Opacity.isFull, Bool.and_eq_true, Bool.not_eq_true', decide_eq_true_eq,
    and_assoc]

/-- Monitors that share no point overlook nobody, except on one with an extent that leads
backwards. The same monitor may be listed several times. -/
theorem not_overlooked
    (monitors : ∀ r ∈ layout.screens, r.isEmpty = false ∧
      Coord.InRange (r.left.toInt + r.size.width.toNat) ∧
      Coord.InRange (r.top.toInt + r.size.height.toNat))
    (modest : ∀ r ∈ layout.screens, r.Modest)
    (apart : ∀ r ∈ layout.screens, ∀ m ∈ layout.screens, m = r ∨ m.Apart r)
    (fills : Fills layout w) : ¬Overlooked layout w := by
  rintro ⟨unmanaged, smaller, lost⟩
  have listed : w.geometry ∈ layout.screens := by
    rcases fills with ⟨state, client, -⟩ | ⟨-, whole | listed⟩
    · rw [unmanaged] at client
      contradiction
    · exact (smaller whole).elim
    · exact listed
  obtain ⟨filled, across, down⟩ := monitors w.geometry listed
  rcases lost with backwards | ⟨m, earlier, shown⟩
  · exact backwards (modest w.geometry listed)
  · have other : m ≠ w.geometry := by simpa using List.mem_takeWhile_imp earlier
    have middle := (Rect.contains_center_iff filled across down).mpr (modest w.geometry listed)
    rcases apart w.geometry listed m (List.takeWhile_subset _ earlier) with same | apart
    · exact other same
    · exact apart _ ⟨shown, middle⟩

/-- A window may bypass compositing exactly if the policy says so and it is not overlooked, so
the decision is the policy for all windows but those that are overlooked against it. Where
monitors with forward extents do not overlap it is the policy for all. -/
theorem eligible_iff_warranted_unless_overlooked (distinct : s.Distinct) (hw : w ∈ s.windows)
    (clamped : w.opacity.clamp = w.opacity)
    (monitors : ∀ r ∈ layout.screens, r.isEmpty = false ∧
      Coord.InRange (r.left.toInt + r.size.width.toNat) ∧
      Coord.InRange (r.top.toInt + r.size.height.toNat)) :
    (s.isEligible layout context w = true ↔
        s.Warranted layout context w ∧ ¬Overlooked layout w) ∧
      ((s.isEligible layout context w = true ↔ s.Warranted layout context w) ↔
        ¬(s.Warranted layout context w ∧ Overlooked layout w)) ∧
      ((∀ r ∈ layout.screens, r.Modest) →
        (∀ r ∈ layout.screens, ∀ m ∈ layout.screens, m = r ∨ m.Apart r) →
        (s.isEligible layout context w = true ↔ s.Warranted layout context w)) := by
  have decided : s.isEligible layout context w = true ↔
      s.Warranted layout context w ∧ ¬Overlooked layout w := by
    rw [isEligible_iff, shouldBypass_iff, isUncovered_iff distinct hw, fills_iff monitors]
    constructor
    · rintro ⟨enabled, noEffect, unsuspended, unshaped, noAlpha, full, uncovered, fills, noticed⟩
      have most : w.opacity ≤ 1 := clamped ▸ Opacity.clamp_le_one w.opacity
      exact ⟨⟨enabled, noEffect, unshaped, noAlpha, unsuspended, Rat.le_antisymm most full,
        uncovered, fills⟩, noticed⟩
    · rintro ⟨warranted, noticed⟩
      exact ⟨warranted.enabled, warranted.noEffect, warranted.unsuspended, warranted.unshaped,
        warranted.noAlpha, warranted.full ▸ Rat.le_refl, warranted.uncovered, warranted.fills,
        noticed⟩
  refine ⟨decided, ?_, fun modest apart => ?_⟩
  · rw [decided]
    constructor
    · rintro agrees ⟨warranted, overlooked⟩
      exact (agrees.mpr warranted).2 overlooked
    · intro never
      exact ⟨And.left, fun warranted => ⟨warranted, fun lost => never ⟨warranted, lost⟩⟩⟩
  · rw [decided]
    exact ⟨And.left, fun warranted =>
      ⟨warranted, not_overlooked monitors modest apart warranted.fills⟩⟩

/-- A small monitor that shows a part of a large one, and a third one beside them. -/
def mirrored : Layout where
  full := .ofCoords 0 0 3200 1080
  screens := [.ofCoords 0 0 1920 1080, .ofCoords 0 0 1280 720, .ofCoords 1920 0 1280 1024]

def behindTheMirror : Toplevel := Toplevel.unmanaged ⟨1⟩ (.ofCoords 0 0 1280 720)

def besideTheMirrors : Toplevel := Toplevel.unmanaged ⟨2⟩ (.ofCoords 1920 0 1280 1024)

def onTheMonitors : WindowStack := ⟨[behindTheMirror, besideTheMirrors]⟩

theorem besideTheMirrors_warranted :
    onTheMonitors.isEligible mirrored ⟨true, false⟩ besideTheMirrors = true ∧
      Warranted onTheMonitors mirrored ⟨true, false⟩ besideTheMirrors := by
  have listed : besideTheMirrors ∈ onTheMonitors.windows :=
    List.mem_cons_of_mem _ List.mem_cons_self
  have distinct : onTheMonitors.ids.Nodup := by decide
  have decided : onTheMonitors.isEligible mirrored ⟨true, false⟩ besideTheMirrors = true ↔
      Warranted onTheMonitors mirrored ⟨true, false⟩ besideTheMirrors ∧
        ¬Overlooked mirrored besideTheMirrors :=
    (eligible_iff_warranted_unless_overlooked distinct listed rfl (by decide)).1
  have eligible : onTheMonitors.isEligible mirrored ⟨true, false⟩ besideTheMirrors = true := by
    decide
  exact ⟨eligible, (decided.mp eligible).1⟩

/-- The policy lets the window on the second monitor bypass compositing, and the decision does
not. -/
theorem behindTheMirror_overlooked :
    ¬(onTheMonitors.isEligible mirrored ⟨true, false⟩ behindTheMirror = true ↔
      Warranted onTheMonitors mirrored ⟨true, false⟩ behindTheMirror) := by
  have refused : onTheMonitors.isEligible mirrored ⟨true, false⟩ behindTheMirror = false := by
    decide
  have fills : Fills mirrored behindTheMirror := .inr ⟨rfl, .inr (by decide)⟩
  have clear : ∀ v ∈ onTheMonitors.above behindTheMirror.id,
      v.geometry.intersects behindTheMirror.geometry = false := by
    have upper : onTheMonitors.above behindTheMirror.id = [besideTheMirrors] := rfl
    rw [upper]
    intro v hv
    rw [List.mem_singleton.mp hv]
    decide
  rw [refused]
  intro agrees
  exact Bool.false_ne_true (agrees.mpr ⟨rfl, rfl, rfl, rfl, rfl, rfl, clear, fills⟩)

end WindowStack

end Compositing
