import Compositing.Remote.Request
import Mathlib.Data.List.Induction

/-!
# Runs of a compositor

A step is one call of the window manager, one display event, one timer that goes off, or
something that others do to the display and the renderer in between. A compositor is
reachable if a run of steps leads to it from a new one. Claims about all reachable
compositors go from what one step preserves to what every run preserves.
-/

namespace Compositing

/-- What happens to a compositor, where `ω` are the things that others do. -/
inductive Step (ω : Type) where
  | setup
  | finish
  | suspend (reason : Suspension)
  | resume (reason : Suspension)
  | toggle
  | toggleRemote
  | setCompositing (active : Bool)
  | reconfigure (options : CompositingOptions)
  | startOver (options : CompositingOptions)
  | restart
  | scheduleRestart (after : Nanos)
  | shutdown
  | blockFor (id : WindowId)
  | unblock
  | performCompositing
  | scheduleRepaint
  | addRepaint (g : Region)
  | addRepaintFull
  | addWindow (w : Toplevel)
  | removeWindow (id : WindowId) (keepPlaceholder : Bool)
  | discardPlaceholder (id : WindowId)
  | setGeometry (id : WindowId) (geometry : Rect)
  | setStackingOrder (order : List WindowId)
  | raiseWindow (id : WindowId)
  | setWindowOpacity (id : WindowId) (o : Opacity)
  | setClientState (id : WindowId) (state : ClientState)
  | setShaped (id : WindowId) (shaped : Bool)
  | suspendBypass (id : WindowId) (suspended : Bool)
  | addWindowRepaint (id : WindowId) (g : Region)
  | addWindowRepaintFull (id : WindowId)
  | addWindowLayerRepaint (id : WindowId) (g : Region)
  | handleDisplayEvent (e : DisplayEvent)
  | dispatchDisplayEvents
  /-- A timer is handled whether it is armed or not. -/
  | handleTimer (id : TimerId)
  /-- The first timer due by a moment goes off. -/
  | fireTimer (target : Nanos)
  | advanceClock (target : Nanos)
  | checkBypass (force : Bool)
  | setBypassFullscreen (on : Bool)
  | setOverlayVisible (visible : Bool)
  | keepSupportProperty (a : Atom)
  | removeSupportProperty (a : Atom)
  | takeEvents
  | handleRequest (r : ControlRequest)
  | outside (o : ω)

/-- How the things that others do change the display and the renderer. -/
structure World (ω δ σ : Type) where
  display : ω → δ → δ
  renderer : ω → σ → σ

def World.closed {δ σ : Type} : World Empty δ σ := ⟨fun o => o.elim, fun o => o.elim⟩

namespace Compositor

variable {ω δ σ : Type} [DisplayServer δ] [Renderer σ]

/-- Takes off the first timer due by `target`, if there is one, and handles it. -/
def fireTimer (target : Nanos) (c : Compositor δ σ) : Compositor δ σ :=
  match c.timers.popDue target with
  | none => c
  | some (id, timers) => handleTimer id { c with timers := timers }

def step (W : World ω δ σ) (c : Compositor δ σ) : Step ω → Compositor δ σ
  | .setup => c.setup
  | .finish => c.finish
  | .suspend reason => c.suspend reason
  | .resume reason => c.resume reason
  | .toggle => c.toggle
  | .toggleRemote => c.toggleRemote
  | .setCompositing active => c.setCompositing active
  | .reconfigure options => c.reconfigure options
  | .startOver options => c.startOver options
  | .restart => c.restart
  | .scheduleRestart after => c.scheduleRestart after
  | .shutdown => c.shutdown
  | .blockFor id => c.blockFor id
  | .unblock => c.unblock
  | .performCompositing => c.performCompositing
  | .scheduleRepaint => c.scheduleRepaint
  | .addRepaint g => c.addRepaint g
  | .addRepaintFull => c.addRepaintFull
  | .addWindow w => c.addWindow w
  | .removeWindow id keepPlaceholder => (c.removeWindow id keepPlaceholder).2
  | .discardPlaceholder id => (c.discardPlaceholder id).2
  | .setGeometry id geometry => c.setGeometry id geometry
  | .setStackingOrder order => c.setStackingOrder order
  | .raiseWindow id => c.raiseWindow id
  | .setWindowOpacity id o => c.setWindowOpacity id o
  | .setClientState id state => (c.setClientState id state).2
  | .setShaped id shaped => c.setShaped id shaped
  | .suspendBypass id suspended => c.suspendBypass id suspended
  | .addWindowRepaint id g => c.addWindowRepaint id g
  | .addWindowRepaintFull id => c.addWindowRepaintFull id
  | .addWindowLayerRepaint id g => c.addWindowLayerRepaint id g
  | .handleDisplayEvent e => c.handleDisplayEvent e
  | .dispatchDisplayEvents => c.dispatchDisplayEvents.2
  | .handleTimer id => c.handleTimer id
  | .fireTimer target => c.fireTimer target
  | .advanceClock target => { c with timers := c.timers.advanceTo target }
  | .checkBypass force => c.checkBypass force
  | .setBypassFullscreen on => c.setBypassFullscreen on
  | .setOverlayVisible visible => c.setOverlayVisible visible
  | .keepSupportProperty a => c.keepSupportProperty a
  | .removeSupportProperty a => c.removeSupportProperty a
  | .takeEvents => c.takeEvents.2
  | .handleRequest r => (c.handleRequest r).2
  | .outside o => { c with display := W.display o c.display, renderer := W.renderer o c.renderer }

def run (W : World ω δ σ) (c : Compositor δ σ) (steps : List (Step ω)) : Compositor δ σ :=
  steps.foldl (step W) c

theorem run_append (W : World ω δ σ) (c : Compositor δ σ) (before after : List (Step ω)) :
    c.run W (before ++ after) = (c.run W before).run W after :=
  List.foldl_append

/-- What one step preserves, every run preserves. -/
theorem run_preserves (W : World ω δ σ) {P : Compositor δ σ → Prop} {ok : Step ω → Prop}
    (keeps : ∀ c k, ok k → P c → P (c.step W k)) {c : Compositor δ σ} (start : P c)
    {steps : List (Step ω)} (allowed : ∀ k ∈ steps, ok k) : P (c.run W steps) := by
  induction steps generalizing c with
  | nil => exact start
  | cons k rest ih =>
    refine ih (keeps c k (allowed k List.mem_cons_self) start) ?_
    intro k' hk
    exact allowed k' (List.mem_cons_of_mem k hk)

def noted {α : Type} (note : Compositor δ σ → Step ω → List α) (W : World ω δ σ)
    (c : Compositor δ σ) : List (Step ω) → List α
  | [] => []
  | k :: rest => note c k ++ noted note W (c.step W k) rest

/-- What one step preserves with what is noted of it, every run preserves. -/
theorem run_noted (W : World ω δ σ) {α : Type} {note : Compositor δ σ → Step ω → List α}
    {P : List α → Compositor δ σ → Prop} {ok : Step ω → Prop}
    (keeps : ∀ log c k, ok k → P log c → P (log ++ note c k) (c.step W k)) {log : List α}
    {c : Compositor δ σ} (start : P log c) {steps : List (Step ω)}
    (allowed : ∀ k ∈ steps, ok k) : P (log ++ noted note W c steps) (c.run W steps) := by
  induction steps generalizing c log with
  | nil => simpa [noted, run] using start
  | cons k rest ih =>
    have further := ih (keeps log c k (allowed k List.mem_cons_self) start) fun k' hk =>
      allowed k' (List.mem_cons_of_mem k hk)
    simpa [noted, run, List.append_assoc] using further

theorem run_snoc (W : World ω δ σ) (c : Compositor δ σ) (before : List (Step ω)) (k : Step ω) :
    c.run W (before ++ [k]) = (c.run W before).step W k :=
  run_append W c before [k]

/-- What each step of a run preserves when its turn comes, holds at every moment of the run. -/
theorem run_along (W : World ω δ σ) {P : Compositor δ σ → Prop} {c : Compositor δ σ}
    {steps : List (Step ω)} (start : P c)
    (keeps : ∀ before k, before ++ [k] <+: steps → P (c.run W before) →
      P ((c.run W before).step W k))
    {before : List (Step ω)} (reached : before <+: steps) : P (c.run W before) := by
  induction before using List.reverseRecOn with
  | nil => exact start
  | append_singleton before k ih =>
    rw [run_snoc]
    exact keeps before k reached (ih ((List.prefix_append before [k]).trans reached))

end Compositor

/-- The moment of a run at which a step is taken is told by the number of steps before. -/
theorem Step.taken_at {ω : Type} {before steps : List (Step ω)} {k : Step ω}
    (reached : before ++ [k] <+: steps) :
    before = steps.take before.length ∧ steps[before.length]? = some k ∧
      before.length < steps.length := by
  obtain ⟨after, rfl⟩ := reached
  simp

@[simp] def Step.Adds {ω : Type} (P : Toplevel → Prop) : Step ω → Prop
  | .addWindow w => P w
  | _ => True

theorem Step.Adds.imp {ω : Type} {P Q : Toplevel → Prop} (imp : ∀ w, P w → Q w) {k : Step ω}
    (adds : k.Adds P) : k.Adds Q := by
  cases k with
  | addWindow w => exact imp w adds
  | _ => trivial

namespace Toplevel

/-- A window as its builders leave it: new, with a chosen opacity, shape and alpha channel. -/
def Fresh (w : Toplevel) : Prop :=
  w.isPlaceholder = false ∧
    w = { new w.id w.kind w.geometry with
      opacity := w.opacity, shaped := w.shaped, hasAlpha := w.hasAlpha }

theorem Fresh.blank {w : Toplevel} (fresh : w.Fresh) :
    w.damage? = none ∧ w.pendingFetch? = none ∧ w.isDamaged = false ∧ w.unredirected = false ∧
      w.windowRepaints = Region.empty ∧ w.layerRepaints = Region.empty := by
  rw [fresh.2]
  exact ⟨rfl, rfl, rfl, rfl, rfl, rfl⟩

theorem Fresh.plain {w : Toplevel} (fresh : w.Fresh) : w.unredirected = false :=
  fresh.blank.2.2.2.1

@[simp] theorem client_fresh (id : WindowId) (geometry : Rect) (state : ClientState) :
    (client id geometry state).Fresh := ⟨rfl, rfl⟩

@[simp] theorem unmanaged_fresh (id : WindowId) (geometry : Rect) :
    (unmanaged id geometry).Fresh := ⟨rfl, rfl⟩

end Toplevel

namespace Step

variable {ω : Type} {k : Step ω}

/-- The windows that are added come from their builders. A window of the stack, or a copy of one
that was there before, does not. -/
def AddsFresh (k : Step ω) : Prop := k.Adds Toplevel.Fresh

theorem AddsFresh.real (fresh : k.AddsFresh) : k.Adds fun w => w.isPlaceholder = false :=
  Adds.imp (fun _ fresh => fresh.1) fresh

theorem AddsFresh.plain (fresh : k.AddsFresh) : k.Adds fun w => w.unredirected = false :=
  Adds.imp (fun _ fresh => fresh.plain) fresh

end Step

end Compositing
