import Compositing.Proofs.Audit
import Compositing.Proofs.Watching
import Compositing.Renderer.Headless

/-!
# Windows are called back

Once the option to bypass compositing is off, no pass takes place any more except the one that
calls back whoever is drawn directly. That the option was changed is remembered until such a pass
has let no window wait, or until the scene goes. So a window can be drawn directly only with a
scene, and only as long as the option is on or its change is remembered. This is said of any
renderer, and of windows that come from their builders: a copy can be drawn directly from the start.
-/

namespace Compositing.Compositor

open WindowStack

section Allowed

variable {δ σ : Type} {c c' : Compositor δ σ}

/-- There may be windows that bypass compositing: the option is on, or not yet settled. -/
def mayBypass (c : Compositor δ σ) : Bool :=
  c.hasScene && (c.options.bypassFullscreen || c.bypass.optionChanged)

theorem mayBypass_of_off (off : c.hasScene = false) : c.mayBypass = false := by
  rw [mayBypass, off, Bool.false_and]

theorem Aside.mayBypass [DisplayServer δ] [Renderer σ] (aside : Aside c c') :
    c'.mayBypass = c.mayBypass := by
  rw [Compositor.mayBypass, aside.scene, aside.option, aside.optionChanged, Compositor.mayBypass]

end Allowed

variable {ω σ : Type} [Renderer σ] {c c' : Compositor HeadlessDisplay σ}

structure Recalls (c : Compositor HeadlessDisplay σ) : Prop extends Watches c where
  plain : c.mayBypass = false → c.windows.Plain

omit [Renderer σ] in
theorem Recalls.of_plain (h : Watches c) (plain : c.windows.Plain) : Recalls c :=
  ⟨h, fun _ => plain⟩

omit [Renderer σ] in
theorem Recalls.resting (h : Recalls c) (off : c.hasScene = false) : c.windows.Plain :=
  h.plain (mayBypass_of_off off)

theorem Recalls.aside (h : Recalls c) (aside : Aside c c') : Recalls c' := by
  refine ⟨h.toWatches.aside aside, fun none => ?_⟩
  rw [aside.mayBypass] at none
  exact (aside.windows h.orderly.distinct).plain (h.plain none)

/-! Starting and stopping. -/

/-- A scene begins with no window drawn directly, whatever is remembered of the option. -/
theorem setup_recalls (h : Watches c) (plain : c.windows.Plain) (off : c.hasScene = false)
    (sound : c.setup.fault? = none) : Recalls c.setup := by
  by_cases on : c.setup.hasScene = true
  · obtain ⟨_, possible, a, d, r, frame, b, acquired, tracked, asides⟩ :=
      c.setup_begins off on sound
    obtain ⟨watches, still⟩ := acquired.watches possible h.orderly plain frame
    have begun := ((Recalls.of_plain watches still).aside tracked).aside (Aside.checkBypass b true)
    have active : Recalls (({ b.checkBypass true with phase := .active } :
        Compositor HeadlessDisplay σ).emit (.toggled true)) := { begun with }
    exact active.aside asides
  · obtain ⟨d, r, stack, selection, e, _, which, _⟩ := c.setup_rests off (by simpa using on)
    rw [e]
    rcases which with rfl | rfl
    · exact Recalls.of_plain (Watches.idle h.orderly off) plain
    · have orderly := (Evolves.discardPlaceholders h.orderly.distinct).orderly h.orderly
      refine Recalls.of_plain (Watches.idle orderly off) fun w hw => ?_
      exact plain w (List.mem_filter.mp hw).1

/-- When the scene goes, what was remembered of the option goes with the windows drawn directly. -/
theorem finish_recalls (h : Watches c) (resting : c.hasScene = false → c.windows.Plain) :
    Recalls c.finish := by
  cases scene : c.hasScene with
  | true => exact Recalls.of_plain h.finish (h.finish_plain scene)
  | false =>
    rw [c.finish_of_off scene]
    exact Recalls.of_plain h (resting scene)

/-! Passes, and windows that come, go and change their place. -/

theorem Recalls.pass (h : Recalls c) : Recalls c.bypassPass := by
  rw [bypassPass_eq]
  split
  · rename_i applies
    have switched : Recalls c.switchWindows.2 := by
      refine ⟨h.toWatches.switchWindows, fun none => ?_⟩
      have scene : c.switchWindows.2.hasScene = true := (bypassApplies_cases applies).1
      rw [mayBypass, scene, Bool.true_and, Bool.or_eq_false_iff] at none
      exact h.toWatches.switchWindows_plain applies none.1 none.2
    split
    · have shaped : Recalls { c.switchWindows.2 with
          renderer := Renderer.setOverlayShape c.switchWindows.2.overlayShape
            c.switchWindows.2.renderer } := { switched with }
      exact shaped.aside (Aside.addRepaintFull _)
    · exact switched
  · exact h

theorem Recalls.entered (h : Recalls c) {w : Toplevel} (off : w.unredirected = false)
    (fresh : c.windows.contains w.id = false) : Recalls (c.entered w) := by
  refine ⟨h.toWatches.entered off fresh, fun none v hv => ?_⟩
  rcases List.mem_append.mp hv with old | new
  · exact h.plain none v old
  · rw [List.mem_singleton.mp new]
    exact entering_plain off

theorem Recalls.left (h : Recalls c) (w : Toplevel) (keepPlaceholder : Bool) :
    Recalls (c.left w keepPlaceholder) := by
  refine ⟨h.toWatches.left w keepPlaceholder, fun none v hv => ?_⟩
  rcases left_old w keepPlaceholder hv with ⟨_, _, rfl⟩ | ⟨old, _⟩
  · rfl
  · exact h.plain none v old

omit [Renderer σ] in
theorem Recalls.replaced (h : Recalls c) {id : WindowId} {old w : Toplevel}
    (found : c.windows.get? id = some old) (same : Toplevel.Same old w) (r : σ) :
    Recalls { c with windows := c.windows.modify id fun _ => w, renderer := r } := by
  refine ⟨h.toWatches.replaced found same r, fun none v hv => ?_⟩
  rcases (mem_replace found).mp hv with rfl | ⟨hv, _⟩
  · rw [same.direct]
    exact h.plain none old (mem_of_get? found).1
  · exact h.plain none v hv

/-! The moves. -/

theorem Shift.recalls (shift : Shift c c') (sound : c'.fault? = none) (h : Recalls c) :
    Recalls c' := by
  cases shift with
  | start s o b off _ =>
    have tuned : Watches (c.retune s o b) := { h.toWatches with }
    exact setup_recalls tuned (h.resting off) off sound
  | stop s o b _ =>
    have tuned : Watches (c.retune s o b) := { h.toWatches with }
    exact finish_recalls tuned h.resting
  | free _ _ => exact { h with }

omit [Renderer σ] in
/-- The option is switched and its change remembered, so windows may bypass compositing until a
pass settles it. -/
theorem Recalls.noted (h : Recalls c) (o : CompositingOptions) :
    Recalls (c.retune c.suspended o c.bypass.noteOptionChanged) := by
  refine ⟨{ h.toWatches with }, fun none => h.resting ?_⟩
  simpa [mayBypass, retune, BypassState.noteOptionChanged] using none

theorem Move.recalls (move : Move (Occasion.Brings fun w => w.unredirected = false) c c')
    (sound : c'.fault? = none) (h : Recalls c) : Recalls c' := by
  cases move with
  | aside aside => exact h.aside aside
  | shift shift => exact shift.recalls sound h
  | lose _ _ =>
    have free : Watches { c with selection? := none } := { h.toWatches with }
    exact finish_recalls free h.resting
  | restart scene =>
    have finished := finish_recalls h.toWatches h.resting
    have stopped : Recalls { c.finish with phase := .starting } := { finished with }
    rw [Compositor.restart, if_pos scene]
    exact stopped.aside (Aside.defer _ _)
  | switch _ asides => exact ((h.noted _).aside asides).aside (Aside.checkBypass _ true)
  | pass popped =>
    rcases popped with rfl | ⟨_, t, _, rfl⟩
    · exact h.pass
    · have timed : Recalls { c with timers := t } := { h with }
      exact timed.pass
  | turn popped =>
    have start : Recalls { c with deferred := [] } := { h with }
    rcases popped with rfl | ⟨_, t, _, rfl⟩
    · exact runDeferred_preserve_unbroken Shift.recalls sound start
    · exact runDeferred_preserve_unbroken (c := { c with timers := t }) Shift.recalls sound
        { start with }
  | enter off fresh =>
    exact ((h.entered off fresh).aside (Aside.checkBypass _ true)).aside (Aside.scheduleRepaint _)
  | leave keepPlaceholder _ _ _ =>
    rename_i w _ _ _
    exact ((h.left w keepPlaceholder).aside (Aside.addRepaint _ _)).aside (Aside.checkBypass _ true)
  | reshape id geometry =>
    rcases c.setGeometry_cases id geometry with e | ⟨old, w, r, found, same, _, e⟩
    · rw [e]
      exact h
    · rw [e]
      exact ((h.replaced found same r).aside (Aside.addRepaint _ _)).aside
        (Aside.checkBypass _ true)
  | hear _ => exact { h with }

/-! Steps and runs. -/

theorem step_recalls (change : ω → DisplayChange) (renderer : ω → σ → σ) {k : Step ω}
    (plain : k.Adds fun w => w.unredirected = false)
    (sound : (c.step (DisplayChange.world change renderer) k).fault? = none) (h : Recalls c) :
    Recalls (c.step (DisplayChange.world change renderer) k) := by
  have own (own : k.Own (Occasion.Brings fun w => w.unredirected = false)) :=
    (step_moves (DisplayChange.world change renderer) c own).preserve_unbroken Move.recalls sound h
  cases k with
  | takeEvents => exact { h with }
  | outside o =>
    obtain ⟨_, extensions, _⟩ := (change o).apply_kept c.display
    exact { h with able := fun scene => extensions.symm ▸ h.able scene }
  | addWindow w => exact own plain
  | handleDisplayEvent e => cases e <;> exact own trivial
  | _ => exact own trivial

theorem run_recalls (change : ω → DisplayChange) (renderer : ω → σ → σ) (d : HeadlessDisplay)
    (r : σ) (options : CompositingOptions) {steps : List (Step ω)}
    (plain : ∀ k ∈ steps, k.Adds fun w => w.unredirected = false)
    (sound : ((Compositor.new d r options).run
      (DisplayChange.world change renderer) steps).fault? = none) :
    Recalls ((Compositor.new d r options).run (DisplayChange.world change renderer) steps) := by
  refine run_along _ (Recalls.of_plain (new_watches d r options) (new_plain d r options))
    (fun before k reached h => ?_) List.prefix_rfl
  have unbroken := run_unbroken _ reached sound
  rw [run_snoc] at unbroken
  exact step_recalls change renderer (plain k (reached.subset (by simp))) unbroken h

/-- In every reachable compositor whose option is off, with no change of it left to settle, no
window is drawn directly to the screen. -/
theorem all_called_back (change : ω → DisplayChange) (renderer : ω → σ → σ) (d : HeadlessDisplay)
    (r : σ) (options : CompositingOptions) {steps : List (Step ω)}
    (fresh : ∀ k ∈ steps, k.AddsFresh) {c : Compositor HeadlessDisplay σ}
    (reached : c = (Compositor.new d r options).run (DisplayChange.world change renderer) steps)
    (sound : c.fault? = none) (off : c.options.bypassFullscreen = false)
    (settled : c.bypass.optionChanged = false) :
    ∀ w ∈ c.windows.windows, w.unredirected = false := by
  subst reached
  have recalls := run_recalls change renderer d r options
    (fun k member => (fresh k member).plain) sound
  exact recalls.plain (by simp [mayBypass, off, settled])

/-- A client has just come to be drawn directly when the option goes off. The pass that follows
comes too early, and after it the first timers that are due by its retry go off. -/
def recallSteps (fired : Nat) : List (Step DisplayChange) :=
  [.setup, .addWindow (.client ⟨1⟩ (.ofCoords 0 0 10 10) ⟨true, true, false⟩), .fireTimer 0,
    .setBypassFullscreen false, .fireTimer 0] ++ List.replicate fired (.fireTimer 100000000)

def recalled (fired : Nat) : Compositor HeadlessDisplay HeadlessRenderer :=
  (Compositor.new (.new Extension.all (.single 20 10)) (.new ⟨1⟩ fun _ => 0)
    { CompositingOptions.standard with bypassFullscreen := true }).run
      (DisplayChange.world id fun _ r => r) (recallSteps fired)

/-- Two frames and the retry later, the next pass has called the client back. -/
theorem client_called_back :
    (recalled 4).hasScene = true ∧ (recalled 4).windows.ids = [⟨1⟩] ∧
      ∀ w ∈ (recalled 4).windows.windows, w.unredirected = false := by
  have fresh : ∀ k ∈ recallSteps 4, k.AddsFresh := by
    simp [recallSteps, Step.AddsFresh]
  refine ⟨rfl, rfl, ?_⟩
  exact all_called_back id (fun _ r => r)
    (HeadlessDisplay.new Extension.all (.single 20 10)) (HeadlessRenderer.new ⟨1⟩ fun _ => 0)
    { CompositingOptions.standard with bypassFullscreen := true } fresh (c := recalled 4)
    rfl rfl rfl rfl

/-- Before that pass the client is drawn directly although the option is off already. -/
example : (recalled 3).options.bypassFullscreen = false ∧
    (recalled 3).bypass.optionChanged = true ∧
    (recalled 3).windows.windows.map (·.unredirected) = [true] :=
  ⟨rfl, rfl, rfl⟩

def bypasser : Compositor HeadlessDisplay HeadlessRenderer :=
  (Compositor.new (.new Extension.all (.single 20 10)) (.new ⟨9⟩ fun _ => 0)
    { CompositingOptions.standard with bypassFullscreen := true }).run
      (DisplayChange.world id fun _ r => r)
      [.setup, .addWindow (.client ⟨1⟩ (.ofCoords 0 0 20 10) ⟨true, true, false⟩), .fireTimer 0]

/-- The client goes, the option goes off, and what that asks for is done before the copy comes. -/
def returnSteps (w : Toplevel) : List (Step DisplayChange) :=
  [.removeWindow ⟨1⟩ false, .setBypassFullscreen false, .fireTimer 0, .addWindow w]

/-- A copy of the client from when it was drawn directly is not called back. -/
theorem returning_copy_not_called :
    ∃ w, bypasser.windows.get? ⟨1⟩ = some w ∧
      ∃ c, c = bypasser.run (DisplayChange.world id fun _ r => r) (returnSteps w) ∧
        c.fault? = none ∧ c.options.bypassFullscreen = false ∧ c.bypass.optionChanged = false ∧
        ∃ v ∈ c.windows.windows, v.unredirected = true :=
  ⟨_, rfl, _, rfl, rfl, rfl, rfl, _, List.mem_singleton_self _, rfl⟩

end Compositing.Compositor
