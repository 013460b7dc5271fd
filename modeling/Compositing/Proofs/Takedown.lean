import Compositing.Proofs.Ownership
import Compositing.Proofs.Records
import Compositing.Proofs.Transitions

/-!
# What stopping gives back

Stopping undoes all that starting has done: the server gets back the damage objects, the replies
and the redirected windows, the windows that remain are as if they had never been tracked, and
the timers that only a scene needs are off. Nothing else changes. That no object and no reply is
forgotten holds because each is in some window's custody, and every window is let go.
-/

namespace Compositing

namespace Toplevel

def untracked (w : Toplevel) : Toplevel := if w.damage?.isSome then w.released else w

def closing (w : Toplevel) : SceneCall :=
  if w.isPlaceholder then .deleted w.id else .closed w.id false

@[simp] theorem untracked_id (w : Toplevel) : w.untracked.id = w.id := by
  rw [untracked]
  split <;> rfl

@[simp] theorem untracked_damage (w : Toplevel) : w.untracked.damage? = none := by
  rw [untracked]
  split
  · rfl
  · rename_i none
    simpa using none

@[simp] theorem untracked_isPlaceholder (w : Toplevel) :
    w.untracked.isPlaceholder = w.isPlaceholder := by
  rw [untracked]
  split <;> rfl

end Toplevel

/-- Some objects and replies of the server are gone, and each object that is gone was counted. -/
structure Drained (d d' : HeadlessDisplay) : Prop where
  rest : d' = { d with
    damages := d'.damages
    replies := d'.replies
    damagesDestroyed := d'.damagesDestroyed }
  counted : d'.damagesDestroyed + d'.damages.length = d.damagesDestroyed + d.damages.length

namespace Drained

variable {d d' : HeadlessDisplay}

theorem discardReply (h : Drained d d') (fetch : DamageFetch) :
    Drained d (d'.discardReply fetch) where
  rest := by
    rw [h.rest]
    rfl
  counted := h.counted

theorem destroyDamage (h : Drained d d') (once : (d'.damages.map (·.handle)).Nodup)
    (handle : DamageHandle) : Drained d (d'.destroyDamage handle) := by
  rw [HeadlessDisplay.destroyDamage]
  split
  · rename_i known
    obtain ⟨o, ho, same⟩ := List.any_eq_true.mp known
    obtain rfl : o.handle = handle := by simpa using same
    have fewer := HeadlessDisplay.length_filter_handle once ho
    have counted := h.counted
    constructor
    · rw [h.rest]
    · dsimp only
      omega
  · exact h

/-- Once nothing is kept any more, all objects were counted. -/
theorem empty (h : Drained d d') (objects : d'.damages = []) (replies : d'.replies = []) :
    d' = { d with
      damages := []
      replies := []
      damagesDestroyed := d.damagesDestroyed + d.damages.length } := by
  have counted := h.counted
  rw [objects, List.length_nil, Nat.add_zero] at counted
  rw [h.rest, objects, replies, counted]

end Drained

namespace Compositor

open WindowStack

section Turns

variable {δ σ : Type} [DisplayServer δ] [Renderer σ]

theorem untrackStep_window (w : Toplevel) (t : δ × σ) : (untrackStep w t).1 = w.untracked := by
  rw [untrackStep, Toplevel.untracked]
  rcases w.untrack_cases t.1 t.2 with ⟨none, e⟩ | ⟨handle, tracked, e⟩
  · rw [e, none]
    rfl
  · rw [e, tracked]
    rfl

theorem untrackStep_renderer (w : Toplevel) (t : δ × σ) :
    (untrackStep w t).2.2 =
      if w.damage?.isSome then Renderer.pixmapDiscarded w.id t.2 else t.2 := by
  rw [untrackStep]
  rcases w.untrack_cases t.1 t.2 with ⟨none, e⟩ | ⟨handle, tracked, e⟩
  · rw [e, none]
    rfl
  · rw [e, tracked]
    rfl

/-- Every window is let go in its place, whatever the order of the turns. -/
theorem visit_untrackStep_windows {s : WindowStack} (distinct : s.Distinct) {ids : List WindowId}
    (all : ids.Perm s.ids) (t : δ × σ) :
    (s.visit ids untrackStep t).1 = ⟨s.windows.map Toplevel.untracked⟩ := by
  have windows := visit_windows (untrackStep_window (δ := δ) (σ := σ)) Toplevel.untracked_id
    (all.nodup_iff.mpr distinct) distinct t
  have every : s.windows.map (fun w => if w.id ∈ ids then w.untracked else w) =
      s.windows.map Toplevel.untracked := by
    refine List.map_congr_left fun w hw => ?_
    rw [if_pos (all.mem_iff.mpr (List.mem_map_of_mem hw))]
  rw [every] at windows
  rw [← windows]

/-- The renderer discards what it holds of the tracked windows, one by one. -/
theorem visit_untrackStep_renderer {ids : List WindowId} (once : ids.Nodup) (s : WindowStack)
    (t : δ × σ) :
    (s.visit ids untrackStep t).2.2 =
      ((ids.filterMap s.get?).filter (·.damage?.isSome)).foldl
        (fun r w => Renderer.pixmapDiscarded w.id r) t.2 := by
  have keeps (w : Toplevel) (t : δ × σ) : (untrackStep w t).1.id = w.id := by
    rw [untrackStep_window, Toplevel.untracked_id]
  rw [visit_state keeps once]
  induction ids.filterMap s.get? generalizing t with
  | nil => rfl
  | cons w rest ih =>
    rw [List.foldl_cons, ih, untrackStep_renderer, List.filter_cons]
    split <;> rfl

end Turns

section Calls

variable {δ σ : Type} [Renderer σ]

omit [Renderer σ] in
/-- One call after the other. -/
theorem foldl_calls {f : Recorded σ → Toplevel → Recorded σ} (call : Toplevel → SceneCall)
    (told : ∀ r w, (f r w).calls = r.calls ++ [call w]) (windows : List Toplevel)
    (r : Recorded σ) : (windows.foldl f r).calls = r.calls ++ windows.map call := by
  induction windows generalizing r with
  | nil => simp
  | cons w rest ih =>
    rw [List.foldl_cons, ih, told, List.map_cons, List.append_assoc, List.singleton_append]

theorem closeWindow_calls (r : Recorded σ) (w : Toplevel) :
    (closeWindow r w).calls = r.calls ++ [w.closing] := by
  rw [closeWindow, Toplevel.closing]
  split <;> rfl

end Calls

variable {σ : Type} [Renderer σ]

/-- All that the server keeps goes with the windows that answer for it. -/
theorem visit_untrackStep_display {s : WindowStack} {d : HeadlessDisplay} (custody : Custody s d)
    {ids : List WindowId} (all : ids.Perm s.ids) (r : σ) :
    (s.visit ids untrackStep (d, r)).2.1 = { d with
      damages := []
      replies := []
      damagesDestroyed := d.damagesDestroyed + d.damages.length } := by
  let P : List WindowId → WindowStack → HeadlessDisplay × σ → Prop :=
    fun _ s t => Custody s t.1 ∧ Drained d t.1
  have start : P ids s (d, r) := ⟨custody, rfl, rfl⟩
  obtain ⟨kept, drained⟩ : P [] (s.visit ids untrackStep (d, r)).1
      (s.visit ids untrackStep (d, r)).2 := by
    refine visit_induction start (fun _ _ _ _ _ h => h) ?_
    rintro id rest s t w found ⟨custody, drained⟩
    refine ⟨custody.untrackStep found, ?_⟩
    rw [untrackStep]
    rcases w.untrack_cases t.1 t.2 with ⟨_, e⟩ | ⟨handle, _, e⟩
    · rw [e]
      exact drained
    · rw [e]
      cases w.pendingFetch? with
      | none => exact drained.destroyDamage custody.once handle
      | some fetch => exact (drained.discardReply fetch).destroyDamage custody.once handle
  obtain ⟨objects, replies⟩ := kept.nothing_kept fun v hv => by
    rw [visit_untrackStep_windows custody.distinct all] at hv
    obtain ⟨w, _, rfl⟩ := List.mem_map.mp hv
    exact w.untracked_damage
  exact drained.empty objects replies

omit [Renderer σ] in
theorem forwardOpacity_untracked (d : HeadlessDisplay) (w : Toplevel) :
    forwardOpacity d w.untracked = forwardOpacity d w := by
  rw [Toplevel.untracked]
  split <;> rfl

/-- Nothing of a server but the opacities changes when they are forwarded. -/
theorem forwardOpacities (windows : List Toplevel) {d d' : HeadlessDisplay}
    (same : d'.opacities = d.opacities) :
    windows.foldl forwardOpacity d' =
      { d' with opacities := (windows.foldl forwardOpacity d).opacities } := by
  induction windows generalizing d d' with
  | nil => simp [← same]
  | cons w rest ih =>
    have forwarded : (forwardOpacity d' w).opacities = (forwardOpacity d w).opacities := by
      rw [forwardOpacity, forwardOpacity]
      split
      · simp [DisplayServer.setOpacity, HeadlessDisplay.setOpacity, same]
      · exact same
    rw [List.foldl_cons, List.foldl_cons, ih forwarded, forwardOpacity]
    split <;> rfl

/-- The selection is given up if it is still held. -/
theorem released_selection (selection? : Option String) (d : HeadlessDisplay) :
    selection?.elim d (fun selection => DisplayServer.releaseSelection selection d) =
      { d with selectionOwner? :=
          if d.selectionOwner? = selection? then none else d.selectionOwner? } := by
  cases selection? with
  | none =>
    have same : (if d.selectionOwner? = none then none else d.selectionOwner?) =
        d.selectionOwner? := by
      split
      · rename_i free
        exact free.symm
      · rfl
    rw [same]
    rfl
  | some selection =>
    simp only [Option.elim, DisplayServer.releaseSelection, HeadlessDisplay.releaseSelection,
      beq_iff_eq]
    split <;> rfl

/-- A compositor once it has stopped and has let its windows go in the given order. -/
def takenDown (order : List Toplevel) (c : Compositor HeadlessDisplay σ) :
    Compositor HeadlessDisplay σ :=
  { c with
    hasScene := false
    phase := .inactive
    selection? := none
    events := c.events ++ [.toggled false]
    timers := ((c.timers.stop .repaint).stop .bypassCheck).stop .bypassRetry
    repaints := Region.empty
    bypass := c.bypass.reset
    windows := ⟨(c.windows.windows.filter fun w => !w.isPlaceholder).map Toplevel.released⟩
    renderer := (order.filter fun w => !w.isPlaceholder).foldl
      (fun r w => Renderer.pixmapDiscarded w.id r) (c.windows.windows.foldl closeWindow c.renderer)
    display := { c.display with
      damages := []
      replies := []
      damagesDestroyed := c.display.damagesDestroyed + c.display.damages.length
      subwindowsRedirected := false
      unredirected := []
      opacities := (c.windows.windows.foldl forwardOpacity c.display).opacities
      selectionOwner? :=
        if c.display.selectionOwner? = c.selection? then none else c.display.selectionOwner? } }

/-- Stopping takes down all that there is, whatever the order in which the windows are let go. -/
theorem finishBy_eq (enumerate : List WindowId → List WindowId) {c : Compositor HeadlessDisplay σ}
    (all : (enumerate c.windows.ids).Perm c.windows.ids) (scene : c.hasScene = true)
    (custody : Custody c.windows c.display)
    (tracked : ∀ w ∈ c.windows.windows, w.damage?.isSome = !w.isPlaceholder) :
    c.finishBy enumerate =
      c.takenDown ((enumerate c.windows.ids).filterMap c.windows.get?) := by
  have once := all.nodup_iff.mpr custody.distinct
  have display := visit_untrackStep_display custody all
    (c.windows.windows.foldl closeWindow c.renderer)
  have renderer := visit_untrackStep_renderer once c.windows
    (c.display, c.windows.windows.foldl closeWindow c.renderer)
  have windows := visit_untrackStep_windows custody.distinct all
    (c.display, c.windows.windows.foldl closeWindow c.renderer)
  have let_go : ((enumerate c.windows.ids).filterMap c.windows.get?).filter (·.damage?.isSome) =
      ((enumerate c.windows.ids).filterMap c.windows.get?).filter fun w => !w.isPlaceholder := by
    refine List.filter_congr fun w hw => ?_
    obtain ⟨id, _, found⟩ := List.mem_filterMap.mp hw
    exact tracked w (mem_of_get? found).1
  have real : (c.windows.windows.map Toplevel.untracked).filter (fun w => !w.isPlaceholder) =
      (c.windows.windows.filter fun w => !w.isPlaceholder).map Toplevel.released := by
    rw [List.filter_map]
    simp only [Function.comp_def, Toplevel.untracked_isPlaceholder]
    refine List.map_congr_left fun w hw => ?_
    obtain ⟨hw, kept⟩ := List.mem_filter.mp hw
    rw [Toplevel.untracked, if_pos ((tracked w hw).trans kept)]
  have forwarded (d : HeadlessDisplay) (same : d.opacities = c.display.opacities) :
      (c.windows.windows.map Toplevel.untracked).foldl forwardOpacity d =
        { d with opacities := (c.windows.windows.foldl forwardOpacity c.display).opacities } := by
    simp only [List.foldl_map, forwardOpacity_untracked]
    exact forwardOpacities c.windows.windows same
  rw [finishBy, if_pos scene]
  simp only [visitWindows, windows, display, renderer]
  rw [forwarded, releaseSelection_eq]
  · simp only [emit, released_selection, discardPlaceholders, let_go, real]
    rfl
  · rfl

theorem finish_eq {c : Compositor HeadlessDisplay σ} (scene : c.hasScene = true)
    (custody : Custody c.windows c.display)
    (tracked : ∀ w ∈ c.windows.windows, w.damage?.isSome = !w.isPlaceholder) :
    c.finish = c.takenDown c.windows.windows := by
  have stopped := finishBy_eq id (List.Perm.refl _) scene custody tracked
  rwa [id_eq, filterMap_get?_ids custody.distinct] at stopped

/-- What holds between two calls: all that the server keeps is in some window's custody, the
windows that should be tracked are, and the numbers of the server count what it gave out. -/
structure Balanced (c : Compositor HeadlessDisplay σ) : Prop where
  custody : Custody c.windows c.display
  idle : c.hasScene = false →
    ∀ w ∈ c.windows.windows, w.isPlaceholder = false ∧ w.damage? = none
  tracked : c.fault? = none → c.hasScene = true →
    ∀ w ∈ c.windows.windows, w.damage?.isSome = !w.isPlaceholder
  numbered : c.display.issued < UInt32.size - 1 →
    c.display.nextNumber.toNat = c.display.issued + 1

theorem run_balanced {ω : Type} (change : ω → DisplayChange) (renderer : ω → σ → σ)
    (offers : List Extension) (layout : Layout) (r : σ) (options : CompositingOptions)
    {steps : List (Step ω)} (fresh : ∀ k ∈ steps, k.AddsFresh)
    {c : Compositor HeadlessDisplay σ}
    (reached : c = (Compositor.new (.new offers layout) r options).run
      (DisplayChange.world change renderer) steps) : c.Balanced := by
  have sound : Sound offers [] (auditedRun change renderer offers layout r options steps) :=
    (auditedRun_sound change renderer layout r options fresh).1
  have same := auditedRun_erase change renderer offers layout r options steps
  rw [← reached] at same
  subst same
  exact ⟨sound.booked.custody, sound.covered.idle, sound.covered.tracked,
    fun left => (sound.booked.books left).numbered⟩

/-- In every reachable compositor with a scene, stopping takes down all that there is: the timers
of the scene are off and the others as they were, the windows without the placeholders stay in
their order, and the renderer is told once of each window, in that order, that it is gone. To
stop again does nothing. -/
theorem finish_undoes_setup {ω : Type} (change : ω → DisplayChange) (renderer : ω → σ → σ)
    (offers : List Extension) (layout : Layout) (r : σ) (options : CompositingOptions)
    {steps : List (Step ω)} (fresh : ∀ k ∈ steps, k.AddsFresh)
    {c : Compositor HeadlessDisplay σ}
    (reached : c = (Compositor.new (.new offers layout) r options).run
      (DisplayChange.world change renderer) steps)
    (sound : c.fault? = none) (scene : c.hasScene = true) :
    c.finish = c.takenDown c.windows.windows ∧
      (∀ id ∈ [TimerId.repaint, .bypassCheck, .bypassRetry],
        c.finish.timers.deadline? id = none) ∧
      (∀ id ∈ [TimerId.deferred, .restart, .supportSweep],
        c.finish.timers.deadline? id = c.timers.deadline? id) ∧
      c.finish.windows.ids = (c.windows.windows.filter fun w => !w.isPlaceholder).map (·.id) ∧
      c.recorded.finish.unrecorded = c.finish ∧
      c.recorded.finish.renderer.calls = c.windows.windows.map Toplevel.closing ++
        (c.windows.windows.filter fun w => !w.isPlaceholder).map (fun w => .discarded w.id) ∧
      c.finish.finish = c.finish := by
  have balanced := run_balanced change renderer offers layout r options fresh reached
  have tracked := balanced.tracked sound scene
  have stopped := finish_eq scene balanced.custody tracked
  have told := finish_eq (c := c.recorded) scene balanced.custody tracked
  refine ⟨stopped, ?_, ?_, ?_, finish_unrecorded c.recorded, ?_, ?_⟩
  · rw [stopped]
    intro id hid
    simp only [takenDown, Timers.deadline?_stop]
    simp only [List.mem_cons, List.not_mem_nil, or_false] at hid
    rcases hid with rfl | rfl | rfl <;> simp
  · rw [stopped]
    intro id hid
    simp only [takenDown, Timers.deadline?_stop]
    simp only [List.mem_cons, List.not_mem_nil, or_false] at hid
    rcases hid with rfl | rfl | rfl <;> simp
  · rw [stopped]
    simp only [takenDown, WindowStack.ids, List.map_map]
    rfl
  · rw [told]
    simp only [takenDown]
    rw [foldl_calls (fun w => .discarded w.id) (fun _ _ => rfl),
      foldl_calls Toplevel.closing closeWindow_calls]
    rfl
  · refine finish_of_off _ ?_
    rw [stopped]
    rfl

def strewnSteps : List (Step DisplayChange) :=
  [.addWindow (.client ⟨1⟩ (.ofCoords 0 0 10 10) ⟨false, false, false⟩),
    .addWindow (.client ⟨2⟩ (.ofCoords 0 0 1920 1080) ⟨true, true, false⟩), .setup,
    .handleTimer .bypassCheck, .removeWindow ⟨1⟩ true,
    .outside (.reportDamage ⟨2⟩ [.ofCoords 0 0 5 5]), .dispatchDisplayEvents]

def strewn : Compositor HeadlessDisplay HeadlessRenderer :=
  (Compositor.new (.new Extension.all (.single 1920 1080)) (.new ⟨1⟩ fun _ => 0)
    { CompositingOptions.standard with bypassFullscreen := true }).run
      (DisplayChange.world id fun _ r => r) strewnSteps

theorem strewn_undone :
    strewn.windows.windows.map
        (fun w => (w.id, w.isPlaceholder, w.isDamaged, w.unredirected)) =
      [(⟨1⟩, true, false, false), (⟨2⟩, false, true, true)] ∧
    strewn.finish.windows.windows.map
        (fun w => (w.id, w.damage?, w.isDamaged, w.unredirected)) =
      [(⟨2⟩, none, false, false)] ∧
    strewn.finish.display.damages.length = 0 ∧ strewn.finish.display.unredirected = [] ∧
    strewn.recorded.finish.renderer.calls =
      [.deleted ⟨1⟩, .closed ⟨2⟩ false, .discarded ⟨2⟩] := by
  have fresh : ∀ k ∈ strewnSteps, k.AddsFresh := by
    simp [strewnSteps, Step.AddsFresh]
  obtain ⟨stopped, _, _, _, _, calls, _⟩ := finish_undoes_setup id (fun _ r => r) Extension.all
    (.single 1920 1080) (HeadlessRenderer.new ⟨1⟩ fun _ => 0)
    { CompositingOptions.standard with bypassFullscreen := true } fresh (c := strewn) rfl rfl rfl
  exact ⟨rfl, by rw [stopped]; rfl, by rw [stopped]; rfl, by rw [stopped]; rfl, calls⟩

end Compositor

end Compositing
