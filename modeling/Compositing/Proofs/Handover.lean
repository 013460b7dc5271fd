import Compositing.Proofs.Audit
import Compositing.Proofs.Fetching
import Compositing.Proofs.Pacing
import Compositing.Proofs.Records
import Compositing.Proofs.Takedown
import Mathlib.Data.List.Dedup

/-!
# What a frame hands over

A frame that paints hands the renderer all that is pending, in one list of windows: those that are
ready to be painted, each once, with the elevated ones on top. What was handed over is pending no
more, and nothing else is forgotten. The next frame comes when what the renderer reports to have
used leaves of the interval is over. A frame with nothing pending tells the renderer so and arms no
timer.
-/

namespace Compositing

/-- A timer that is armed goes off when it was told to. -/
theorem Timers.deadline?_start (t : Timers) (id : TimerId) (after : Nanos) :
    (t.start id after).deadline? id = some (t.now + after) := by
  have disarmed : (t.stop id).deadline? id = none := by rw [deadline?_stop, if_pos rfl]
  rw [deadline?, Option.map_eq_none_iff] at disarmed
  rw [deadline?, start, List.find?_append, disarmed]
  simp

namespace FrameBudget

/-- What is left of an interval after a reported time, in milliseconds. -/
def waitAfter (interval : Int64) (time : Nanos) : Nat :=
  (min 250 (max 1 ((interval.toInt - min (time : Int) 9223372036854775807) / 1000000))).toNat

theorem recordPaint_nextWait (b : FrameBudget) (time : Nanos) :
    (b.recordPaint time).nextWait = waitAfter b.interval time := by
  have wait := waitMillis_toInt b.interval (b.recordPaint time).consumed
  rw [recordPaint_consumed] at wait
  rw [waitAfter, ← wait]
  rfl

end FrameBudget

namespace Toplevel

/-- What the renderer is told of a window. -/
structure Shows (w : Toplevel) (p : WindowPaint) : Prop where
  id : p.id = w.id
  geometry : p.geometry = w.geometry
  opacity : p.opacity = w.opacity
  unredirected : p.unredirected = w.unredirected
  damage : p.damage = w.damageRegion
  /-- What is pending of the window itself is moved to its place on the screen. -/
  repaints : p.repaints = (w.windowRepaints.translate w.geometry.origin).union w.layerRepaints

theorem shows_paintInfo (w : Toplevel) : w.Shows w.paintInfo := ⟨rfl, rfl, rfl, rfl, rfl, rfl⟩

/-- A window of which all that is pending was painted, and whose damage was told if it was in the
picture. -/
def cleared (w : Toplevel) : Toplevel :=
  { w with
    windowRepaints := Region.empty
    layerRepaints := Region.empty
    damageRegion := if w.readyForPainting then Region.empty else w.damageRegion }

end Toplevel

namespace Compositor

/-- Elevating ids one after the other puts them on top in the order in which each comes last. -/
theorem elevate_eq (elevated order : List WindowId) :
    elevate elevated order =
      order.filter (fun id => decide (id ∉ elevated)) ++
        elevated.dedup.filter (fun id => decide (id ∈ order)) := by
  induction elevated generalizing order with
  | nil => simp [elevate]
  | cons e rest ih =>
    by_cases known : e ∈ order
    · let raised := order.filter (· != e) ++ [e]
      have same (id : WindowId) : id ∈ raised ↔ id ∈ order := by
        by_cases here : id = e
        · simp [raised, here, known]
        · simp [raised, here]
      have lower : raised.filter (fun id => decide (id ∉ rest)) =
          order.filter (fun id => decide (id ∉ e :: rest)) ++
            [e].filter (fun id => decide (id ∉ rest)) := by
        rw [List.filter_append, List.filter_filter]
        congr 1
        refine List.filter_congr fun id _ => ?_
        rw [Bool.eq_iff_iff]
        simp [and_comm]
      have step : elevate (e :: rest) order = elevate rest raised := by
        simp [elevate, known, raised]
      rw [step, ih, lower, List.append_assoc]
      congr 1
      simp only [same]
      by_cases again : e ∈ rest
      · rw [List.dedup_cons_of_mem again]
        simp [again]
      · rw [List.dedup_cons_of_notMem again]
        simp [again, known]
    · have step : elevate (e :: rest) order = elevate rest order := by simp [elevate, known]
      have lower : order.filter (fun id => decide (id ∉ e :: rest)) =
          order.filter (fun id => decide (id ∉ rest)) := by
        refine List.filter_congr fun id listed => ?_
        have other : id ≠ e := fun here => known (here ▸ listed)
        simp [other]
      rw [step, ih, lower]
      by_cases again : e ∈ rest
      · rw [List.dedup_cons_of_mem again]
      · rw [List.dedup_cons_of_notMem again]
        simp [known]

end Compositor

namespace WindowStack

/-- The windows as they lie in the picture: those that are not elevated as they are stacked, and
above them the elevated ones in the order in which each is named last. Unknown ids are passed
over. -/
def layered (s : WindowStack) (elevated : List WindowId) : List Toplevel :=
  s.windows.filter (fun w => decide (w.id ∉ elevated)) ++ elevated.dedup.filterMap s.get?

variable {s : WindowStack}

theorem layered_eq (distinct : s.Distinct) (elevated : List WindowId) :
    (Compositor.elevate elevated s.ids).filterMap s.get? = s.layered elevated := by
  have lower : (s.ids.filter fun id => decide (id ∉ elevated)).filterMap s.get? =
      s.windows.filter fun w => decide (w.id ∉ elevated) := by
    rw [ids, List.filter_map, List.filterMap_map]
    conv_rhs => rw [← List.filterMap_some (l := s.windows.filter _)]
    exact List.filterMap_congr fun w hw => get?_of_mem distinct (List.mem_filter.mp hw).1
  have upper : (elevated.dedup.filter fun id => decide (id ∈ s.ids)).filterMap s.get? =
      elevated.dedup.filterMap s.get? := by
    rw [List.filterMap_filter]
    refine List.filterMap_congr fun id _ => ?_
    by_cases known : id ∈ s.ids
    · simp [known]
    · have unknown : s.get? id = none := get?_eq_none_iff.mpr fun w hw same =>
        known (same ▸ List.mem_map_of_mem hw)
      simp [known, unknown]
  rw [Compositor.elevate_eq, List.filterMap_append, lower, upper]
  rfl

theorem layered_ids_nodup (distinct : s.Distinct) (elevated : List WindowId) :
    ((s.layered elevated).map (·.id)).Nodup := by
  rw [layered, List.map_append]
  refine List.nodup_append.mpr
    ⟨distinct.filter _, filterMap_get?_nodup elevated.nodup_dedup, ?_⟩
  rintro a lower b upper rfl
  obtain ⟨v, hv, rfl⟩ := List.mem_map.mp lower
  obtain ⟨w, hw, same⟩ := List.mem_map.mp upper
  obtain ⟨id, named, found⟩ := List.mem_filterMap.mp hw
  rw [(mem_of_get? found).2] at same
  rw [List.mem_dedup, same] at named
  simp [named] at hv

/-- Every window is in the picture's order once. -/
theorem layered_perm (distinct : s.Distinct) (elevated : List WindowId) :
    (s.layered elevated).Perm s.windows := by
  refine (List.perm_ext_iff_of_nodup (List.Nodup.of_map _ (layered_ids_nodup distinct elevated))
    (List.Nodup.of_map _ distinct)).mpr fun w => ?_
  simp only [layered, List.mem_append, List.mem_filter, List.mem_filterMap, List.mem_dedup,
    decide_eq_true_eq]
  constructor
  · rintro (⟨hw, _⟩ | ⟨id, _, found⟩)
    · exact hw
    · exact (mem_of_get? found).1
  · intro hw
    by_cases named : w.id ∈ elevated
    · exact Or.inr ⟨w.id, named, get?_of_mem distinct hw⟩
    · exact Or.inl ⟨hw, named⟩

end WindowStack

namespace Compositor

open Toplevel (folded cleared)
open FrameBudget (waitAfter)
open WindowStack (layered layered_eq layered_perm layered_ids_nodup)

variable {ω δ σ : Type} [DisplayServer δ] [Renderer σ] {c : Compositor δ σ}

/-- The windows with what this frame's replies add to them. -/
def fetched (c : Compositor δ σ) : WindowStack :=
  ⟨List.zipWith folded c.windows.windows (harvest c.windows.windows c.display).1⟩

def Pending (c : Compositor δ σ) : Prop :=
  c.repaints.isEmpty = false ∨
    ∃ w ∈ c.fetched.windows, w.windowRepaints.isEmpty = false ∨ w.layerRepaints.isEmpty = false

/-- The windows that are ready for painting, from the lowest to the topmost in the picture. -/
def picture (c : Compositor δ σ) : List Toplevel :=
  (c.fetched.layered (Renderer.elevatedWindows c.renderer)).filter (·.readyForPainting)

omit [Renderer σ] in
theorem fetched_ids (c : Compositor δ σ) : c.fetched.ids = c.windows.ids := by
  have along (windows : List Toplevel) (regions : List Region)
      (places : regions.length = windows.length) :
      (List.zipWith folded windows regions).map (·.id) = windows.map (·.id) := by
    induction windows generalizing regions with
    | nil => simp
    | cons w rest ih =>
      obtain ⟨g, regions, rfl⟩ := List.exists_cons_of_length_eq_add_one places
      rw [List.zipWith_cons_cons, List.map_cons, ih regions (Nat.succ.inj places)]
      rfl
  exact along c.windows.windows _ (harvest_length _ _)

omit [Renderer σ] in
theorem fetched_distinct (distinct : c.windows.Distinct) : c.fetched.Distinct := by
  rw [WindowStack.Distinct, fetched_ids]
  exact distinct

omit [Renderer σ] in
/-- What the frame knows once the damage is fetched. -/
theorem fetchDamage_fetched (distinct : c.windows.Distinct) (calm : c.windows.Calm) :
    c.fetchDamage = { c with
      windows := c.fetched, display := (harvest c.windows.windows c.display).2 } :=
  fetchDamage_eq distinct calm

omit [Renderer σ] in
theorem pending_iff (distinct : c.windows.Distinct) (calm : c.windows.Calm) :
    (c.fetchDamage.repaints.isEmpty && !c.fetchDamage.windowRepaintsPending) = false ↔
      c.Pending := by
  rw [fetchDamage_fetched distinct calm, windowRepaintsPending, Pending, Bool.and_eq_false_iff]
  simp only [Bool.not_eq_false', List.any_eq_true, Toplevel.hasPendingRepaints_iff]

theorem paintList_eq (distinct : c.windows.Distinct) (calm : c.windows.Calm) :
    c.fetchDamage.paintList = c.picture.map (·.paintInfo) := by
  rw [fetchDamage_fetched distinct calm, paintList, picture, layered_eq (fetched_distinct distinct)]

/-- A frame that paints. -/
theorem performCompositing_paints (distinct : c.windows.Distinct) (calm : c.windows.Calm)
    (visible : c.overlayVisible = true) (pending : c.Pending) {entries : List WindowPaint}
    (told : entries = c.picture.map (·.paintInfo)) :
    c.performCompositing = { c with
      display := (harvest c.windows.windows c.display).2
      renderer := (Renderer.paint c.repaints entries c.renderer).2
      repaints := Region.empty
      frame := c.frame.recordPaint (Renderer.paint c.repaints entries c.renderer).1
      windows := ⟨c.fetched.windows.map cleared⟩
      timers := (c.timers.stop .repaint).start .repaint
        ((c.frame.recordPaint (Renderer.paint c.repaints entries c.renderer).1).nextWait *
          1000000) } := by
  have scene : c.hasScene = true := by
    simp only [overlayVisible, Bool.and_eq_true] at visible
    exact visible.1
  have due := (pending_iff distinct calm).mpr pending
  have windows : painted = cleared := by
    funext w
    rw [painted, cleared]
    cases ready : w.readyForPainting with
    | true => simp [Toplevel.resetRepaints, Toplevel.resetDamage, ready]
    | false => simp [Toplevel.resetRepaints, ready]
  rw [performCompositing, if_pos visible]
  dsimp only
  rw [due]
  simp only [Bool.false_eq_true, if_false, paint, paintList_eq distinct calm, ← told]
  rw [fetchDamage_fetched distinct calm, windows]
  simp [scheduleRepaint, scene, FrameBudget.schedule]

/-- A frame that finds nothing pending. -/
theorem performCompositing_idles (distinct : c.windows.Distinct) (calm : c.windows.Calm)
    (visible : c.overlayVisible = true) (nothing : ¬ c.Pending) :
    c.performCompositing = { c with
      display := (harvest c.windows.windows c.display).2
      renderer := Renderer.idle c.renderer
      frame := c.frame.startNow
      windows := c.fetched
      timers := c.timers.stop .repaint } := by
  have idle : (c.fetchDamage.repaints.isEmpty && !c.fetchDamage.windowRepaintsPending) = true := by
    rw [← Bool.not_eq_false, pending_iff distinct calm]
    exact nothing
  rw [performCompositing, if_pos visible]
  dsimp only
  rw [idle, if_pos rfl, goIdle, fetchDamage_fetched distinct calm]

/-- A frame has painted what was pending, and no more of it is. The renderer has reported a time. -/
structure HandedOver (c c' : Compositor δ σ) (entries : List WindowPaint) (time : Nanos)
    (calls : List SceneCall) : Prop where
  told : calls = [.painted c.repaints entries]
  shown : List.Forall₂ Toplevel.Shows c.picture entries
  /-- Every window that is ready for painting is in the picture, and none is in it twice. -/
  complete : c.picture.Perm (c.fetched.windows.filter (·.readyForPainting))
  once : (entries.map (·.id)).Nodup
  windows : c'.windows.windows = c.fetched.windows.map cleared
  order : c'.windows.ids = c.windows.ids
  repaints : c'.repaints = Region.empty
  reported : time = (Renderer.paint c.repaints entries c.renderer).1
  consumed : c'.frame.consumed.toInt = min (time : Int) 9223372036854775807
  /-- Nothing else of the budget has changed. -/
  budget : { c'.frame with consumed := c.frame.consumed } = c.frame
  rearmed : c'.timers.deadline? .repaint =
    some (c.timers.now + waitAfter c.frame.interval time * 1000000)

structure Idled (c c' : Compositor δ σ) (calls : List SceneCall) : Prop where
  told : calls = [.idle]
  windows : c'.windows = c.fetched
  repaints : c'.repaints = c.repaints
  unarmed : c'.timers.isArmed .repaint = false

theorem performCompositing_handedOver (distinct : c.windows.Distinct) (calm : c.windows.Calm)
    (visible : c.overlayVisible = true) (pending : c.Pending) : ∃ entries time,
    c.HandedOver c.performCompositing entries time
      c.recorded.performCompositing.renderer.calls := by
  obtain ⟨entries, described⟩ : ∃ entries, entries = c.picture.map (·.paintInfo) := ⟨_, rfl⟩
  have told := performCompositing_paints (c := c.recorded) distinct calm visible pending described
  refine ⟨entries, (Renderer.paint c.repaints entries c.renderer).1, ?_⟩
  rw [performCompositing_paints distinct calm visible pending described, told]
  exact {
    told := rfl
    shown := by
      rw [described, List.forall₂_map_right_iff, List.forall₂_same]
      exact fun w _ => w.shows_paintInfo
    complete := (layered_perm (fetched_distinct distinct) _).filter _
    once := by
      have listed := layered_ids_nodup (fetched_distinct distinct)
        (Renderer.elevatedWindows c.renderer)
      rw [described, List.map_map]
      exact listed.sublist (List.filter_sublist.map _)
    windows := rfl
    order := by
      have same : (WindowStack.mk (c.fetched.windows.map cleared)).ids = c.fetched.ids := by
        rw [WindowStack.ids, List.map_map]
        rfl
      exact same.trans (fetched_ids c)
    repaints := rfl
    reported := rfl
    consumed := FrameBudget.recordPaint_consumed _ _
    budget := rfl
    rearmed := by
      rw [Timers.deadline?_start, FrameBudget.recordPaint_nextWait]
      rfl }

theorem performCompositing_idled (distinct : c.windows.Distinct) (calm : c.windows.Calm)
    (visible : c.overlayVisible = true) (nothing : ¬ c.Pending) :
    c.Idled c.performCompositing c.recorded.performCompositing.renderer.calls := by
  have told := performCompositing_idles (c := c.recorded) distinct calm visible nothing
  rw [performCompositing_idles distinct calm visible nothing, told]
  exact ⟨rfl, rfl, rfl, Bool.eq_false_iff.mpr (by simp)⟩

/-- In every reachable state with a visible scene a frame either hands over exactly what is
pending, with the damage that it has just fetched, and clears exactly that; or nothing is pending,
and the renderer is told that it is idle and nothing else. -/
theorem frame_hands_over (W : World ω δ σ) (d : δ) (r : σ) (options : CompositingOptions)
    {steps : List (Step ω)} (fresh : ∀ k ∈ steps, k.AddsFresh)
    (reached : c = (Compositor.new d r options).run W steps) (visible : c.overlayVisible = true) :
    (c.Pending → ∃ entries time,
        c.HandedOver c.performCompositing entries time
          c.recorded.performCompositing.renderer.calls) ∧
      (¬ c.Pending →
        c.Idled c.performCompositing c.recorded.performCompositing.renderer.calls) := by
  have distinct : c.windows.Distinct := reached ▸ run_distinct W d r options steps
  have calm : c.windows.Calm := reached ▸ run_calm W d r options fresh
  exact ⟨performCompositing_handedOver distinct calm visible,
    performCompositing_idled distinct calm visible⟩

def crowdSteps : List (Step DisplayChange) :=
  [.setup, .addWindow (.unmanaged ⟨1⟩ (.ofCoords 0 0 10 10)),
    .addWindow (.unmanaged ⟨2⟩ (.ofCoords 5 5 10 10)),
    .addWindow (.unmanaged ⟨3⟩ (.ofCoords 9 9 10 10)),
    .addWindow (.client ⟨4⟩ (.ofCoords 0 0 10 10) ⟨true, false, false⟩),
    .outside (.reportDamage ⟨1⟩ [.ofCoords 2 2 3 3]), .dispatchDisplayEvents]

/-- One id is elevated twice, and one of a window that does not exist. -/
def crowd : Compositor HeadlessDisplay ScriptedRenderer :=
  (Compositor.new (.new Extension.all (.single 1920 1080))
    { ScriptedRenderer.new with elevated := [⟨2⟩, ⟨7⟩, ⟨3⟩, ⟨2⟩] }
    CompositingOptions.standard).run (DisplayChange.world id fun _ r => r) crowdSteps

theorem crowd_handedOver :
    crowd.overlayVisible = true ∧ crowd.Pending ∧
      crowd.picture.map (·.id) = [⟨1⟩, ⟨3⟩, ⟨2⟩] ∧
      ∃ entries time, crowd.HandedOver crowd.performCompositing entries time
        crowd.recorded.performCompositing.renderer.calls := by
  have fresh : ∀ k ∈ crowdSteps, k.AddsFresh := by
    simp [crowdSteps, Step.AddsFresh]
  have pending : crowd.Pending := Or.inr ⟨_, List.mem_cons_self, Or.inl rfl⟩
  refine ⟨rfl, pending, rfl, ?_⟩
  exact (frame_hands_over (DisplayChange.world id fun _ r => r) _ _ _ fresh (c := crowd) rfl
    rfl).1 pending

end Compositor

end Compositing
