import Compositing.Proofs.Quiescence
import Compositing.Proofs.Telling

/-!
# Idleness is told once

While the loop does nothing but let its timers go off, a scene is told that it is idle only once
before it paints again. Once it is, the repaint timer is off, and what arms it again has the whole
screen painted: that is a pass that has switched a window, or the start of another scene. After a
paint the timer is armed in any case, and only idleness or the end of the scene turns it off, so
when all timers have gone off no scene has painted last. Calls of others in between could arm the
timer with nothing to paint, or hide the overlay; of them nothing is claimed.
-/

namespace Compositing

inductive LastFrame where
  | none
  | painted
  | idle
deriving DecidableEq

def SceneCall.frame (last : LastFrame) : SceneCall → LastFrame
  | .created => .none
  | .painted _ _ => .painted
  | .idle => .idle
  | .added _ | .closed _ _ | .deleted _ | .discarded _ => last

def lastFrame (calls : List SceneCall) : LastFrame := calls.foldl SceneCall.frame .none

/-- No scene was told that it is idle when it was told so last. -/
def IdleOnce (calls : List SceneCall) : Prop :=
  ∀ before after, calls = before ++ .idle :: after → lastFrame before ≠ .idle

section Calls

variable {calls before between after : List SceneCall}

theorem lastFrame_snoc (calls : List SceneCall) (call : SceneCall) :
    lastFrame (calls ++ [call]) = call.frame (lastFrame calls) := by
  simp [lastFrame]

theorem SceneCall.OfWindow.frame {call : SceneCall} (h : call.OfWindow) (last : LastFrame) :
    call.frame last = last := by
  cases call with
  | added | closed | deleted | discarded => rfl
  | created | idle | painted => exact h.elim

theorem IdleOnce.snoc (h : IdleOnce calls) {call : SceneCall}
    (last : call = .idle → lastFrame calls ≠ .idle) : IdleOnce (calls ++ [call]) := by
  intro before after e
  rcases split_snoc e with ⟨rfl, here⟩ | ⟨rest, earlier⟩
  · exact last here
  · exact h before rest earlier

/-- Between two reports of idleness there is a paint, or another scene begins. -/
theorem IdleOnce.apart (h : IdleOnce calls)
    (split : calls = before ++ .idle :: between ++ .idle :: after) :
    .created ∈ between ∨ ∃ damage windows, .painted damage windows ∈ between := by
  by_contra none
  obtain ⟨old, unpainted⟩ := not_or.mp none
  have still : between.foldl SceneCall.frame .idle = .idle := by
    clear split none
    induction between with
    | nil => rfl
    | cons call rest ih =>
      have later := ih (fun begun => old (List.mem_cons_of_mem call begun))
        fun ⟨damage, windows, painted⟩ =>
          unpainted ⟨damage, windows, List.mem_cons_of_mem call painted⟩
      cases call with
      | created => exact (old List.mem_cons_self).elim
      | painted damage windows => exact (unpainted ⟨damage, windows, List.mem_cons_self⟩).elim
      | added | closed | deleted | discarded | idle => exact later
  refine h (before ++ .idle :: between) after split ?_
  simpa [lastFrame, SceneCall.frame] using still

/-- A scene that has painted was told something of its frames. -/
theorem lastFrame_of_painted {damage : Region} {windows : List WindowPaint}
    (split : calls = before ++ .painted damage windows :: after) (same : .created ∉ after) :
    lastFrame calls ≠ .none := by
  have told (last : LastFrame) (some : last ≠ .none) :
      after.foldl SceneCall.frame last ≠ .none := by
    clear split
    induction after generalizing last with
    | nil => exact some
    | cons call rest ih =>
      refine ih (fun begun => same (List.mem_cons_of_mem call begun)) _ ?_
      cases call with
      | created => exact (same List.mem_cons_self).elim
      | painted | idle => simp [SceneCall.frame]
      | added | closed | deleted | discarded => exact some
  rw [split]
  simpa [lastFrame, SceneCall.frame] using told .painted (by simp)

variable {σ : Type} {r r' : Recorded σ}

theorem lastFrame_of_tells (told : Recorded.Tells SceneCall.OfWindow r r') :
    lastFrame r'.calls = lastFrame r.calls :=
  told.induction (P := fun calls => lastFrame calls = lastFrame r.calls)
    (fun _ _ news same => by rw [lastFrame_snoc, news.frame, same]) rfl

theorem IdleOnce.of_tells (h : IdleOnce r.calls)
    (told : Recorded.Tells SceneCall.OfWindow r r') : IdleOnce r'.calls :=
  told.induction (P := IdleOnce)
    (fun _ _ news so => so.snoc fun idle => (idle ▸ news : SceneCall.OfWindow .idle).elim) h

end Calls

/-! A scene begins only on a screen that is not empty. -/

def Renderer.NeedsScreen (σ : Type) [Renderer σ] : Prop :=
  ∀ b (l : Layout) rate? (r : σ), (Renderer.start b l rate? r).1 = .ok () → l.full.isEmpty = false

theorem HeadlessRenderer.needsScreen : Renderer.NeedsScreen HeadlessRenderer := by
  intro b l rate? r started
  dsimp only [Renderer.start, HeadlessRenderer.start, HeadlessScene.create] at started
  by_contra empty
  rw [Bool.not_eq_false] at empty
  rw [empty] at started
  split at started
  · simp at started
  · rename_i scene created
    split at created <;> simp at created

theorem Recorded.needsScreen {σ : Type} [Renderer σ] (needs : Renderer.NeedsScreen σ) :
    Renderer.NeedsScreen (Recorded σ) := by
  intro b l rate? r started
  refine needs b l rate? r.renderer ?_
  dsimp only [Renderer.start, Recorded.start] at started
  split at started
  · simp at started
  · rename_i answer
    rw [answer]

namespace Compositor

open Recorded (Tells)
open SceneCall (OfWindow)
open Timers (Touches)

section Screen

variable {ω σ : Type} [Renderer σ] {c c' : Compositor HeadlessDisplay σ}

def Wide (c : Compositor HeadlessDisplay σ) : Prop :=
  c.hasScene = true → c.display.layout.full.isEmpty = false

theorem Shift.wide (needs : Renderer.NeedsScreen σ) (shift : Shift c c') (h : Wide c) :
    Wide c' := by
  have layout : c'.display.layout = c.display.layout := shift.fixed HeadlessDisplay.fixed_layout
  cases shift with
  | start s o b off _ =>
    intro on
    rw [layout]
    rcases (c.retune s o b).setup_cases with ⟨scene, _⟩ | ⟨_, e⟩ | ⟨_, e⟩ | ⟨_, _, acquired, _⟩
    · exact h scene
    · rw [e] at on
      exact h on
    · rw [e] at on
      simp at on
    · obtain ⟨d, r, a⟩ := acquire_ok _ acquired
      obtain ⟨d', claimed, started, _⟩ := a.claims
      have same : d'.layout = c.display.layout :=
        (congrArg (·.2.layout) claimed).symm.trans
          (HeadlessDisplay.fixed_layout.claimSelection _ c.display)
      rw [← same]
      exact needs _ _ _ _ (congrArg (·.1) started)
  | stop s o b _ => exact fun on => by simp at on
  | free reason scene => exact h

omit [Renderer σ] in
theorem Wide.of_standing (h : Wide c)
    (same : c'.standing (·.layout) = c.standing (·.layout)) : Wide c' := by
  obtain ⟨scene, _, layout⟩ : c'.hasScene = c.hasScene ∧ c'.selection? = c.selection? ∧
      c'.display.layout = c.display.layout := by simpa [standing] using same
  exact fun on => layout ▸ h (scene ▸ on)

theorem Move.wide (needs : Renderer.NeedsScreen σ) {ok : Occasion → Prop} (move : Move ok c c')
    (h : Wide c) : Wide c' := by
  rcases move.standing_cases HeadlessDisplay.fixed_layout.toLasting
    HeadlessDisplay.fixed_layout.toUnswitched with
    same | ⟨b, b', before, shifts, after⟩ | ⟨_, _, rfl⟩ | ⟨_, rfl⟩
  · exact h.of_standing same
  · have began : Wide b := h.of_standing (congrArg (fun s => (s.1, s.2.1, s.2.2.layout)) before)
    have ended : Wide b' := shifts.preserve (fun shift => shift.wide needs) began
    exact ended.of_standing (congrArg (fun s => (s.1, s.2.1, s.2.2.layout)) after)
  · exact fun on => by simp at on
  · exact h

theorem step_wide (needs : Renderer.NeedsScreen σ) (change : ω → DisplayChange)
    (renderer : ω → σ → σ) (k : Step ω) (h : Wide c) :
    Wide (c.step (DisplayChange.world change renderer) k) := by
  have own (own : k.Own fun _ => True) : Wide (c.step (DisplayChange.world change renderer) k) :=
    (step_moves _ c own).preserve (fun move => move.wide needs) h
  cases k with
  | takeEvents => exact h
  | outside o =>
    have layout : ((change o).apply c.display).layout = c.display.layout :=
      ((change o).apply_kept c.display).1
    exact fun on => (congrArg (·.full.isEmpty) layout).trans (h on)
  | handleDisplayEvent e => cases e <;> exact own trivial
  | _ => exact own trivial

theorem run_wide (needs : Renderer.NeedsScreen σ) (change : ω → DisplayChange)
    (renderer : ω → σ → σ) (d : HeadlessDisplay) (r : σ) (options : CompositingOptions)
    (steps : List (Step ω)) :
    Wide ((Compositor.new d r options).run (DisplayChange.world change renderer) steps) := by
  have keeps (c : Compositor HeadlessDisplay σ) (k : Step ω) (_ : True) (h : Wide c) :
      Wide (c.step (DisplayChange.world change renderer) k) :=
    step_wide needs change renderer k h
  have start : Wide (Compositor.new d r options) := fun on => by simp [Compositor.new] at on
  exact run_preserves _ keeps start fun _ _ => trivial

end Screen

/-! What holds while timers go off. -/

variable {c c' : Compositor HeadlessDisplay (Recorded HeadlessRenderer)}

/-- If the scene was told last that it is idle, the next frame has something to paint. If it
has painted last, there is a next frame. -/
structure Paced (c : Compositor HeadlessDisplay (Recorded HeadlessRenderer)) : Prop where
  once : IdleOnce c.renderer.calls
  idle : c.hasScene = true → lastFrame c.renderer.calls = .idle →
    c.timers.isArmed .repaint = true → c.repaints.isEmpty = false
  painted : c.overlayVisible = true → lastFrame c.renderer.calls = .painted →
    c.timers.isArmed .repaint = true

/-- Without a scene no frame is made. -/
theorem Paced.of_off (once : IdleOnce c.renderer.calls) (off : c.hasScene = false) : Paced c where
  once := once
  idle := fun on => by simp [off] at on
  painted := fun visible => by simp [overlayVisible, off] at visible

/-- Nothing was told of frames, and where the repaint timer was armed all is to be painted. -/
theorem Paced.of_tells (h : Paced c) (told : Tells OfWindow c.renderer c'.renderer)
    (scene : c'.hasScene = c.hasScene)
    (visible : c'.overlayVisible = true → c.overlayVisible = true)
    (stays : c.timers.isArmed .repaint = true → c'.timers.isArmed .repaint = true)
    (armed : c'.hasScene = true → c'.timers.isArmed .repaint = true →
      c'.repaints.isEmpty = false ∨
        (c.timers.isArmed .repaint = true ∧ c'.repaints = c.repaints)) : Paced c' where
  once := h.once.of_tells told
  idle := by
    intro on idle rearmed
    rw [lastFrame_of_tells told] at idle
    rcases armed on rearmed with filled | ⟨before, same⟩
    · exact filled
    · rw [same]
      exact h.idle (scene ▸ on) idle before
  painted := by
    intro shown painted
    rw [lastFrame_of_tells told] at painted
    exact stays (h.painted (visible shown) painted)

/-- What leaves the scene and its timer alone. -/
theorem Paced.of_same (h : Paced c) (renderer : c'.renderer = c.renderer)
    (scene : c'.hasScene = c.hasScene) (repaints : c'.repaints = c.repaints)
    {touched : List TimerId} (timers : Touches touched c.timers c'.timers)
    (free : .repaint ∉ touched) : Paced c' := by
  have told : Tells OfWindow c.renderer c'.renderer := renderer ▸ Tells.refl _
  have visible : c'.overlayVisible = c.overlayVisible := by
    rw [overlayVisible, overlayVisible, renderer, scene]
  exact h.of_tells told scene (fun shown => visible ▸ shown) (timers.isArmed free).mpr
    fun _ armed => Or.inr ⟨(timers.isArmed free).mp armed, repaints⟩

/-! Frames. -/

/-- A frame that is due is no second report of idleness, and it is followed by another unless
there was nothing to paint. -/
theorem performCompositing_paced (once : IdleOnce c.renderer.calls)
    (due : c.hasScene = true → lastFrame c.renderer.calls = .idle → c.repaints.isEmpty = false) :
    Paced c.performCompositing := by
  cases visible : c.overlayVisible with
  | false =>
    rw [performCompositing_hidden c visible]
    exact ⟨once, fun on idle _ => due on idle, fun shown => by simp [visible] at shown⟩
  | true =>
    have scene : c.hasScene = true := by
      rw [overlayVisible, Bool.and_eq_true] at visible
      exact visible.1
    rw [performCompositing, if_pos visible]
    dsimp only
    split
    · rename_i nothing
      have done : c.repaints.isEmpty = true := (Bool.and_eq_true _ _ ▸ nothing).1
      have calls : c.fetchDamage.goIdle.renderer.calls = c.renderer.calls ++ [.idle] := rfl
      have unarmed : c.fetchDamage.goIdle.timers.isArmed .repaint ≠ true := by
        simp [goIdle]
      refine ⟨?_, fun _ _ armed => (unarmed armed).elim, fun _ painted => ?_⟩
      · rw [calls]
        refine once.snoc fun _ idle => ?_
        simp [due scene idle] at done
      · rw [calls, lastFrame_snoc] at painted
        simp [SceneCall.frame] at painted
    · have calls := paint_told c.fetchDamage
      have armed : c.fetchDamage.paint.timers.isArmed .repaint = true := by
        simp [paint, scheduleRepaint, fetchDamage, scene]
      refine ⟨?_, fun _ idle => ?_, fun _ _ => armed⟩
      · rw [calls]
        exact once.snoc (by simp)
      · rw [calls, lastFrame_snoc] at idle
        simp [SceneCall.frame] at idle

/-! Passes. -/

theorem bypassStep_visible (now : Nanos) (eligible : List WindowId) (w : Toplevel)
    (p : BypassPass HeadlessDisplay (Recorded HeadlessRenderer)) :
    Renderer.overlayVisible (bypassStep now eligible w p).2.renderer =
      Renderer.overlayVisible p.renderer :=
  bypassStep_induction (P := fun _ _ r =>
    Renderer.overlayVisible r = Renderer.overlayVisible p.renderer) now eligible w p rfl rfl rfl

theorem switchWindows_visible (c : Compositor HeadlessDisplay (Recorded HeadlessRenderer)) :
    c.switchWindows.2.overlayVisible = c.overlayVisible := by
  have kept : Renderer.overlayVisible (c.midPass c.candidates).2.renderer =
      Renderer.overlayVisible c.renderer :=
    visit_view (fun p : BypassPass HeadlessDisplay (Recorded HeadlessRenderer) =>
      Renderer.overlayVisible p.renderer) (bypassStep_visible c.timers.now c.chosen) c.candidates
        c.windows _
  exact congrArg (c.hasScene && ·) kept

theorem addRepaintFull_filled (wide : Wide c) (scene : c.hasScene = true) :
    c.addRepaintFull.repaints.isEmpty = false ∧
      c.addRepaintFull.timers.isArmed .repaint = true := by
  have filled : (Region.ofRect (DisplayServer.layout c.display).full).isEmpty = false := by
    have wide : (DisplayServer.layout c.display).full.isEmpty = false := wide scene
    simp [Region.ofRect, Region.addRect, Region.empty, Region.isEmpty, wide, Rect.minusAll]
  rw [addRepaintFull, if_pos scene]
  exact ⟨by simpa using filled, by simp [scheduleRepaint, scene]⟩

/-- A pass that has changed something has the whole screen painted, and another one arms
nothing but its retry. -/
theorem bypassPass_paced (wide : Wide c) (h : Paced c) : Paced c.bypassPass := by
  rw [bypassPass_eq]
  split
  · rename_i applies
    have scene := (bypassApplies_cases applies).1
    have told := c.switchWindows_tells.mono fun _ h => SceneCall.IsDiscard.ofWindow h
    have timers : c.switchWindows.2.timers.isArmed .repaint = true ↔
        c.timers.isArmed .repaint = true := c.switchWindows_touches.isArmed (by simp)
    have visible := c.switchWindows_visible
    split
    · let shaped : Compositor HeadlessDisplay (Recorded HeadlessRenderer) :=
        { c.switchWindows.2 with
          renderer := Renderer.setOverlayShape c.switchWindows.2.overlayShape
            c.switchWindows.2.renderer }
      have layout : shaped.display.layout = c.display.layout :=
        midPass_unswitched HeadlessDisplay.fixed_layout.toUnswitched c.candidates
      obtain ⟨filled, armed⟩ :=
        addRepaintFull_filled (c := shaped) (fun _ => layout ▸ wide scene) scene
      obtain ⟨_, renderer, scene', _⟩ := addRepaintFull_frame shaped
      have told : Tells OfWindow c.renderer shaped.addRepaintFull.renderer := by
        rw [renderer]
        exact told
      have seen : shaped.addRepaintFull.overlayVisible = c.overlayVisible := by
        rw [overlayVisible, scene', renderer]
        exact visible
      exact h.of_tells told scene' (fun shown => seen ▸ shown) (fun _ => armed)
        fun _ _ => Or.inl filled
    · exact h.of_tells told rfl (fun shown => visible ▸ shown) timers.mpr
        fun _ armed => Or.inr ⟨timers.mp armed, rfl⟩
  · exact h

/-! Starting and stopping. -/

theorem finish_paced (h : Paced c) : Paced c.finish :=
  Paced.of_off (h.once.of_tells c.finish_tells) c.finish_frame.1

/-- A scene that has just begun was told nothing of frames yet. -/
theorem activate_paced (once : IdleOnce c.renderer.calls)
    (young : lastFrame c.renderer.calls = .none) : Paced (c.activate id) := by
  rcases c.activate_cases id with ⟨fault, e⟩ | ⟨frame, e⟩
  · rw [e]
    exact ⟨once, fun _ idle => by simp [young] at idle, fun _ painted => by simp [young] at painted⟩
  · have told := enable_tells { c with frame := frame }
    rw [e]
    refine performCompositing_paced (once.of_tells told) fun _ idle => ?_
    rw [lastFrame_of_tells told, young] at idle
    simp at idle

theorem setup_paced (h : Paced c) : Paced c.setup := by
  have acquired := acquire_tells { c with phase := .starting }
  rcases c.setup_cases with ⟨_, e⟩ | ⟨off, e⟩ | ⟨_, e⟩ | ⟨_, _, done, e⟩
  · rw [e]
    exact h
  · rw [e]
    exact Paced.of_off h.once off
  · rw [e]
    refine Paced.of_off ?_ (by simp)
    rw [(releaseSelection_frame _).1]
    rcases acquired with calls | ⟨_, calls⟩
    · exact calls ▸ h.once.snoc (by simp)
    · exact calls ▸ h.once
  · rw [e]
    rcases acquired with calls | ⟨undone, _⟩
    · refine activate_paced ?_ ?_
      · rw [calls]
        exact h.once.snoc (by simp)
      · rw [calls, lastFrame_snoc]
        rfl
    · exact (undone done).elim

theorem Shift.paced (shift : Shift c c') (h : Paced c) : Paced c' := by
  cases shift with
  | start s o b _ _ => exact setup_paced (c := c.retune s o b) ⟨h.once, h.idle, h.painted⟩
  | stop s o b _ => exact finish_paced (c := c.retune s o b) ⟨h.once, h.idle, h.painted⟩
  | free reason _ => exact ⟨h.once, h.idle, h.painted⟩

/-! Timers. -/

theorem handleTimer_paced {target : Nanos} {id : TimerId} {t : Timers}
    (popped : c.timers.popDue target = some (id, t)) (wide : Wide c) (h : Paced c) :
    Paced (({ c with timers := t } : Compositor _ _).handleTimer id) := by
  have touches : Touches [id] c.timers t := Timers.touches_popDue popped
  have other (free : TimerId.repaint ∉ [id]) : Paced { c with timers := t } :=
    h.of_same rfl rfl rfl touches free
  cases id with
  | repaint =>
    obtain ⟨moment, first, _, _⟩ := Timers.popDue_cases popped
    have armed : c.timers.isArmed .repaint = true :=
      Timers.isArmed_iff.mpr ⟨moment, (Timers.firstDue_of_first? first).mem⟩
    exact performCompositing_paced h.once fun scene idle => h.idle scene idle armed
  | bypassCheck => exact bypassPass_paced (c := { c with timers := t }) wide (other (by simp))
  | bypassRetry =>
    obtain ⟨_, renderer, scene, _, _, _, repaints, _⟩ :=
      checkBypass_frame ({ c with timers := t } : Compositor _ _) false
    exact (other (by simp)).of_same renderer scene repaints
      (checkBypass_touches false (Touches.refl [.bypassCheck] t) (by simp)) (by simp)
  | supportSweep =>
    obtain ⟨renderer, scene, _, _, _, repaints, _⟩ :=
      sweepSupport_frame ({ c with timers := t } : Compositor _ _) c.isBusy
    exact (other (by simp)).of_same renderer scene repaints
      (sweepSupport_touches ({ c with timers := t } : Compositor _ _) c.isBusy) (by simp)
  | restart =>
    have before := other (by simp)
    rw [Compositor.handleTimer, restart]
    split
    · exact Paced.of_off (finish_paced before).once (by simp)
    · exact before
  | deferred =>
    obtain ⟨once, idle, painted⟩ := other (by simp)
    exact (runDeferred_shifts _).preserve (fun shift => shift.paced) ⟨once, idle, painted⟩

structure Drained (c : Compositor HeadlessDisplay (Recorded HeadlessRenderer)) : Prop
    extends Paced c where
  silent : c.display.events = []
  wide : Wide c

theorem fireDue_drained (target : Nanos) (limit : Nat) (h : Drained c) :
    Drained (c.fireDue target limit).2 := by
  refine fireDue_induction (fun {c id t target} popped h => ?_) target limit h
  have silent := handleTimer_silent (c := { c with timers := t }) h.silent id
  have moves : Moves (fun _ => True) { c with timers := t }
      (handleTimer id { c with timers := t }) := handleTimer_moves _ id
  rw [dispatch_of_silent silent]
  exact ⟨handleTimer_paced popped h.wide h.toPaced, silent, moves.preserve
    (fun move => move.wide (Recorded.needsScreen HeadlessRenderer.needsScreen)) h.wide⟩

/-- From every reachable compositor with no event to handle on, a scene that was told that it is
idle is told so again only when it has painted in between, and when no timer is armed any more, a
scene that has painted and can be seen was told last that it is idle. -/
theorem idle_told_once {ω : Type} (change : ω → DisplayChange) (d : HeadlessDisplay)
    (r : HeadlessRenderer) (options : CompositingOptions) {steps : List (Step ω)}
    (fresh : ∀ k ∈ steps, k.AddsFresh) {c : Compositor HeadlessDisplay HeadlessRenderer}
    (reached : c = (Compositor.new d r options).run (DisplayChange.world change fun _ r => r)
      steps) (silent : c.display.events = []) :
    (∃ n quiet, ∀ target limit, quiet ≤ target → n ≤ limit →
      (c.fireDue target limit).2.timers.armed = []) ∧
    ∀ target limit, ∃ told, told = (c.recorded.fireDue target limit).2 ∧
      told.unrecorded = (c.fireDue target limit).2 ∧
      (∀ before between after,
        told.renderer.calls = before ++ .idle :: between ++ .idle :: after →
          .created ∈ between ∨ ∃ damage windows, .painted damage windows ∈ between) ∧
      (told.timers.armed = [] → told.overlayVisible = true →
        ∀ before damage windows after,
          told.renderer.calls = before ++ .painted damage windows :: after →
            .created ∉ after → lastFrame told.renderer.calls = .idle) := by
  constructor
  · have poised : Poised c := reached ▸ run_poised change d r options fresh
    obtain ⟨n, quiet, rests⟩ := poised.rests
    refine ⟨n, quiet, fun target limit late enough => ?_⟩
    rw [rests.bounded target limit enough]
    exact rests.idle target late
  · intro target limit
    have wide : Wide c :=
      reached ▸ run_wide HeadlessRenderer.needsScreen change (fun _ r => r) d r options steps
    have start : Drained c.recorded :=
      { once := by simp [IdleOnce, recorded]
        idle := fun _ idle => by simp [recorded, lastFrame] at idle
        painted := fun _ painted => by simp [recorded, lastFrame] at painted
        silent := silent
        wide := wide }
    have last := fireDue_drained target limit start
    refine ⟨_, rfl, fireDue_unrecorded _ target limit, fun _ _ _ split => last.once.apart split, ?_⟩
    intro unarmed visible before damage windows after split same
    cases frame : lastFrame (c.recorded.fireDue target limit).2.renderer.calls with
    | none => exact (lastFrame_of_painted split same frame).elim
    | painted =>
      have armed := last.painted visible frame
      simp [Timers.isArmed, Timers.deadline?, unarmed] at armed
    | idle => rfl

/-- A full-screen client that was drawn directly is so no more, too early to be switched, and a
restart is to come. -/
def twiceIdleSteps : List (Step DisplayChange) :=
  [.addWindow (.client ⟨1⟩ (.ofCoords 0 0 10 10) ⟨true, true, false⟩), .setup,
    .handleTimer .bypassCheck, .setClientState ⟨1⟩ ⟨true, false, false⟩, .scheduleRestart 300000000]

def twiceIdle : Compositor HeadlessDisplay HeadlessRenderer :=
  (Compositor.new (.new Extension.all (.single 20 10)) (.new ⟨1⟩ fun _ => 0)
    { CompositingOptions.standard with bypassFullscreen := true }).run
      (DisplayChange.world (fun o => o) fun _ r => r) twiceIdleSteps

/-- Both scenes come to be idle, the first one once more after the switch. -/
theorem twiceIdle_told :
    twiceIdle.display.events = [] ∧
      (∃ n quiet, ∀ target limit, quiet ≤ target → n ≤ limit →
        (twiceIdle.fireDue target limit).2.timers.armed = []) ∧
      ∃ told : Compositor HeadlessDisplay (Recorded HeadlessRenderer),
        told.unrecorded = (twiceIdle.fireDue 1000000000 30).2 ∧
        told.renderer.calls.map (SceneCall.frame .none) =
          [.painted, .idle, .none, .painted, .idle, .none, .none, .none, .none, .painted, .painted,
            .idle] ∧
        told.timers.armed = [] ∧ told.overlayVisible = true ∧
        (∀ before between after,
          told.renderer.calls = before ++ .idle :: between ++ .idle :: after →
            .created ∈ between ∨ ∃ damage windows, .painted damage windows ∈ between) ∧
        lastFrame told.renderer.calls = .idle := by
  have fresh : ∀ k ∈ twiceIdleSteps, k.AddsFresh := by
    simp [twiceIdleSteps, Step.AddsFresh]
  obtain ⟨rests, loop⟩ := idle_told_once (fun o => o)
    (HeadlessDisplay.new Extension.all (.single 20 10)) (HeadlessRenderer.new ⟨1⟩ fun _ => 0)
    { CompositingOptions.standard with bypassFullscreen := true } fresh (c := twiceIdle) rfl rfl
  obtain ⟨told, rfl, plain, apart, last⟩ := loop 1000000000 30
  refine ⟨rfl, rests, _, plain, rfl, rfl, rfl, apart, ?_⟩
  -- the last paint is the last but one call
  exact last rfl rfl ((twiceIdle.recorded.fireDue 1000000000 30).2.renderer.calls.take 10) _ _
    [.idle] rfl (by simp)

end Compositor

end Compositing
