import Compositing.Proofs.Forgetting
import Compositing.Renderer.Scripted

/-!
# Servers and renderers that keep a record

A logged server notes each request with its outcome, and a recorded renderer what its scenes are
told; both answer as they would without. The record may begin at any moment of a run. Without
its record the compositor does the same, so what the record says is what was asked and told.
-/

namespace Compositing

inductive DisplayCall where
  | claimed (selection : String) (granted : Bool)
  | released (selection : String)
  | redirectedAll (done : Bool)
  | unredirectedAll
  | redirected (window : WindowId)
  | unredirected (window : WindowId)
  | created (window : WindowId) (handle? : Option DamageHandle)
  | destroyed (handle : DamageHandle)
  | requested (handle : DamageHandle) (fetch? : Option DamageFetch)
  | collected (fetch : DamageFetch)
  | discarded (fetch : DamageFetch)
  | flushed
  | deletedProperty (property : Atom)
  | changedOpacity (window : WindowId) (opacity : Opacity)
  | tookEvents

structure Logged (δ : Type) where
  server : δ
  calls : List DisplayCall

namespace Logged

variable {δ α : Type}

def lift (call : DisplayCall) (f : δ → δ) (d : Logged δ) : Logged δ :=
  ⟨f d.server, d.calls ++ [call]⟩

/-- What is noted depends on the answer. -/
def answer (call : α → DisplayCall) (f : δ → α × δ) (d : Logged δ) : α × Logged δ :=
  ((f d.server).1, ⟨(f d.server).2, d.calls ++ [call (f d.server).1]⟩)

instance [DisplayServer δ] : DisplayServer (Logged δ) where
  hasExtension d := DisplayServer.hasExtension d.server
  screenNumber d := DisplayServer.screenNumber d.server
  layout d := DisplayServer.layout d.server
  refreshRate? d := DisplayServer.refreshRate? d.server
  claimSelection s := answer (fun a => .claimed s a.isOk) (DisplayServer.claimSelection s)
  releaseSelection s := lift (.released s) (DisplayServer.releaseSelection s)
  redirectSubwindows := answer (fun a => .redirectedAll a.isOk) DisplayServer.redirectSubwindows
  unredirectSubwindows := lift .unredirectedAll DisplayServer.unredirectSubwindows
  redirectWindow w := lift (.redirected w) (DisplayServer.redirectWindow w)
  unredirectWindow w := lift (.unredirected w) (DisplayServer.unredirectWindow w)
  createDamage w := answer (fun a => .created w a.toOption) (DisplayServer.createDamage w)
  destroyDamage h := lift (.destroyed h) (DisplayServer.destroyDamage h)
  requestDamage h := answer (fun a => .requested h a.toOption) (DisplayServer.requestDamage h)
  damageReply f := answer (fun _ => .collected f) (DisplayServer.damageReply f)
  discardReply f := lift (.discarded f) (DisplayServer.discardReply f)
  flush := lift .flushed DisplayServer.flush
  deleteRootProperty a := lift (.deletedProperty a) (DisplayServer.deleteRootProperty a)
  setOpacity w o := lift (.changedOpacity w o) (DisplayServer.setOpacity w o)
  takeEvents := answer (fun _ => .tookEvents) DisplayServer.takeEvents

/-- No answer depends on the log. -/
theorem forgets [DisplayServer δ] : DisplayServer.Forgets (server : Logged δ → δ) := by
  constructor
  all_goals intros; rfl

end Logged

/-- Each paint was as `P` says, given what was told before. -/
def EachPaint (P : List SceneCall → Region → List WindowPaint → Prop)
    (calls : List SceneCall) : Prop :=
  ∀ before damage windows after, calls = before ++ .painted damage windows :: after →
    P before damage windows

/-- A split of a list that ends with a known element is before that element or at it. -/
theorem split_snoc {α : Type} {l before after : List α} {a x : α}
    (e : l ++ [a] = before ++ x :: after) :
    (before = l ∧ a = x) ∨ ∃ rest, l = before ++ x :: rest := by
  rcases List.eq_nil_or_concat after with rfl | ⟨rest, final, rfl⟩
  · obtain ⟨rfl, same⟩ := List.append_inj' e rfl
    exact Or.inl ⟨rfl, List.singleton_inj.mp same⟩
  · have e : l ++ [a] = (before ++ x :: rest) ++ [final] := by simpa using e
    obtain ⟨rfl, _⟩ := List.append_inj' e rfl
    exact Or.inr ⟨rest, rfl⟩

theorem EachPaint.snoc {P : List SceneCall → Region → List WindowPaint → Prop}
    {calls : List SceneCall} (h : EachPaint P calls) {call : SceneCall}
    (last : ∀ damage windows, call = .painted damage windows → P calls damage windows) :
    EachPaint P (calls ++ [call]) := by
  intro before damage windows after e
  rcases split_snoc e with ⟨rfl, here⟩ | ⟨rest, earlier⟩
  · exact last damage windows here
  · exact h before damage windows rest earlier

structure Recorded (σ : Type) where
  renderer : σ
  calls : List SceneCall

namespace Recorded

variable {σ : Type}

def tell (call : SceneCall) (f : σ → σ) (r : Recorded σ) : Recorded σ :=
  ⟨f r.renderer, r.calls ++ [call]⟩

/-- Only a start that succeeds begins a scene. -/
def start [Renderer σ] (backend : Backend) (layout : Layout) (rate? : Option UInt32)
    (r : Recorded σ) : Except SceneError Unit × Recorded σ :=
  match Renderer.start backend layout rate? r.renderer with
  | (.error e, renderer) => (.error e, { r with renderer := renderer })
  | (.ok (), renderer) => (.ok (), ⟨renderer, r.calls ++ [.created]⟩)

def paint [Renderer σ] (damage : Region) (windows : List WindowPaint) (r : Recorded σ) :
    Nanos × Recorded σ :=
  ((Renderer.paint damage windows r.renderer).1,
    r.tell (.painted damage windows) fun r => (Renderer.paint damage windows r).2)

instance [Renderer σ] : Renderer (Recorded σ) where
  start := start
  backend r := Renderer.backend r.renderer
  syncsToBlank r := Renderer.syncsToBlank r.renderer
  paint := paint
  windowAdded w := tell (.added w) (Renderer.windowAdded w)
  windowClosed w stays := tell (.closed w stays) (Renderer.windowClosed w stays)
  windowDeleted w := tell (.deleted w) (Renderer.windowDeleted w)
  pixmapDiscarded w := tell (.discarded w) (Renderer.pixmapDiscarded w)
  idle := tell .idle Renderer.idle
  elevatedWindows r := Renderer.elevatedWindows r.renderer
  fullscreenEffect r := Renderer.fullscreenEffect r.renderer
  overlayWindow? r := Renderer.overlayWindow? r.renderer
  overlayVisible r := Renderer.overlayVisible r.renderer
  setOverlayVisible on r := { r with renderer := Renderer.setOverlayVisible on r.renderer }
  setOverlayShape shape r := { r with renderer := Renderer.setOverlayShape shape r.renderer }

/-- No answer depends on the record. -/
theorem forgets [Renderer σ] : Renderer.Forgets (renderer : Recorded σ → σ) := by
  constructor
  case start =>
    intro b l rate? r
    dsimp only [Renderer.start, start]
    rcases Renderer.start b l rate? r.renderer with ⟨e | ⟨⟩, renderer⟩
    · rfl
    · rfl
  all_goals intros; rfl

end Recorded

namespace Compositor

variable {δ σ : Type}

def logged (c : Compositor δ σ) : Compositor (Logged δ) σ := { c with display := ⟨c.display, []⟩ }

def unlogged (c : Compositor (Logged δ) σ) : Compositor δ σ :=
  { c with display := c.display.server }

def recorded (c : Compositor δ σ) : Compositor δ (Recorded σ) :=
  { c with renderer := ⟨c.renderer, []⟩ }

def unrecorded (c : Compositor δ (Recorded σ)) : Compositor δ σ :=
  { c with renderer := c.renderer.renderer }

variable [DisplayServer δ] [Renderer σ]

theorem setup_unlogged (c : Compositor (Logged δ) σ) : c.setup.unlogged = c.unlogged.setup :=
  (c.setup_forget Logged.forgets Renderer.Forgets.id).symm

theorem finishBy_unrecorded (c : Compositor δ (Recorded σ))
    (enumerate : List WindowId → List WindowId) :
    (c.finishBy enumerate).unrecorded = c.unrecorded.finishBy enumerate :=
  (c.finishBy_forget DisplayServer.Forgets.id Recorded.forgets enumerate).symm

theorem finish_unrecorded (c : Compositor δ (Recorded σ)) :
    c.finish.unrecorded = c.unrecorded.finish :=
  c.finishBy_unrecorded id

end Compositor

theorem Compositor.fireDue_unrecorded {δ σ : Type} [DisplayServer δ] [Renderer σ]
    (c : Compositor δ (Recorded σ)) (target : Nanos) (limit : Nat) :
    (c.fireDue target limit).2.unrecorded = (c.unrecorded.fireDue target limit).2 :=
  (congrArg (·.2) (c.fireDue_forget DisplayServer.Forgets.id Recorded.forgets target limit)).symm

def World.recorded {ω δ σ : Type} (W : World ω δ σ) : World ω δ (Recorded σ) :=
  ⟨W.display, fun o r => { r with renderer := W.renderer o r.renderer }⟩

/-- The record changes nothing. -/
theorem Compositor.run_unrecorded {ω δ σ : Type} [DisplayServer δ] [Renderer σ] (W : World ω δ σ)
    (c : Compositor δ (Recorded σ)) (steps : List (Step ω)) :
    (c.run W.recorded steps).unrecorded = c.unrecorded.run W steps :=
  (c.run_forget DisplayServer.Forgets.id Recorded.forgets ⟨fun _ _ => rfl, fun _ _ => rfl⟩
    steps).symm

end Compositing
