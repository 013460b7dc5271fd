import Compositing.Display.Headless
import Compositing.Proofs.Forgetting

/-!
# An audit of the damage objects

The server in memory passes over a request to destroy a damage object that it does not
know. An audited server notes such requests besides, and answers as the server does. The
audit changes nothing: without its notes, a run on an audited server is the run on the
server.
-/

namespace Compositing

inductive DisplayChange where
  | reportDamage (w : WindowId) (rects : List Rect)
  | stealSelection
  | setRootProperty (a : Atom)
  | refuseSelection (refuses : Bool)
  | setRefreshRate (rate? : Option UInt32)

def DisplayChange.apply (d : HeadlessDisplay) : DisplayChange → HeadlessDisplay
  | .reportDamage w rects => (d.reportDamage w rects).2
  | .stealSelection => d.stealSelection
  | .setRootProperty a => d.setRootProperty a
  | .refuseSelection refuses => { d with refusesSelection := refuses }
  | .setRefreshRate rate? => { d with refreshRate? := rate? }

structure AuditedDisplay where
  server : HeadlessDisplay
  /-- The unknown handles that were to be destroyed. -/
  strays : List DamageHandle

namespace AuditedDisplay

def ofServer (server : HeadlessDisplay) : AuditedDisplay := ⟨server, []⟩

def lift (f : HeadlessDisplay → HeadlessDisplay) (d : AuditedDisplay) : AuditedDisplay :=
  { d with server := f d.server }

def answer {α : Type} (f : HeadlessDisplay → α × HeadlessDisplay) (d : AuditedDisplay) :
    α × AuditedDisplay :=
  ((f d.server).1, { d with server := (f d.server).2 })

def destroyDamage (h : DamageHandle) (d : AuditedDisplay) : AuditedDisplay where
  server := d.server.destroyDamage h
  strays := if d.server.damages.any (·.handle == h) then d.strays else d.strays ++ [h]

end AuditedDisplay

instance : DisplayServer AuditedDisplay where
  hasExtension d := d.server.hasExtension
  screenNumber _ := 0
  layout d := d.server.layout
  refreshRate? d := d.server.refreshRate?
  claimSelection s := AuditedDisplay.answer (·.claimSelection s)
  releaseSelection s := AuditedDisplay.lift (·.releaseSelection s)
  redirectSubwindows := AuditedDisplay.answer (·.redirectSubwindows)
  unredirectSubwindows := AuditedDisplay.lift (·.unredirectSubwindows)
  redirectWindow w := AuditedDisplay.lift (·.redirectWindow w)
  unredirectWindow w := AuditedDisplay.lift (·.unredirectWindow w)
  createDamage w := AuditedDisplay.answer (·.createDamage w)
  destroyDamage := AuditedDisplay.destroyDamage
  requestDamage h := AuditedDisplay.answer (·.requestDamage h)
  damageReply f := AuditedDisplay.answer (·.damageReply f)
  discardReply f := AuditedDisplay.lift (·.discardReply f)
  flush := AuditedDisplay.lift (·.flush)
  deleteRootProperty a := AuditedDisplay.lift (·.deleteRootProperty a)
  setOpacity w o := AuditedDisplay.lift (·.setOpacity w o)
  takeEvents := AuditedDisplay.answer (·.takeEvents)

namespace DisplayChange

variable {ω σ : Type}

def world (change : ω → DisplayChange) (renderer : ω → σ → σ) : World ω HeadlessDisplay σ :=
  ⟨fun o d => (change o).apply d, renderer⟩

/-- Nobody else changes the screens, the extensions or which windows are drawn directly. -/
theorem apply_kept (change : DisplayChange) (d : HeadlessDisplay) :
    (change.apply d).layout = d.layout ∧ (change.apply d).extensions = d.extensions ∧
      (change.apply d).unredirected = d.unredirected := by
  cases change with
  | reportDamage w rects =>
    dsimp only [apply, HeadlessDisplay.reportDamage]
    split <;> exact ⟨rfl, rfl, rfl⟩
  | stealSelection =>
    dsimp only [apply, HeadlessDisplay.stealSelection]
    split <;> exact ⟨rfl, rfl, rfl⟩
  | setRootProperty a =>
    dsimp only [apply, HeadlessDisplay.setRootProperty]
    split <;> exact ⟨rfl, rfl, rfl⟩
  | refuseSelection refuses => exact ⟨rfl, rfl, rfl⟩
  | setRefreshRate rate? => exact ⟨rfl, rfl, rfl⟩

def auditedWorld (change : ω → DisplayChange) (renderer : ω → σ → σ) :
    World ω AuditedDisplay σ :=
  ⟨fun o => AuditedDisplay.lift fun d => (change o).apply d, renderer⟩

end DisplayChange

namespace AuditedDisplay

/-- No answer depends on the notes. -/
theorem forgets : DisplayServer.Forgets AuditedDisplay.server := by
  constructor
  all_goals intros; rfl

end AuditedDisplay

namespace Compositor

variable {ω σ : Type}

def erase (c : Compositor AuditedDisplay σ) : Compositor HeadlessDisplay σ :=
  { c with display := c.display.server }

/-- The audit changes nothing. -/
theorem run_erase [Renderer σ] (c : Compositor AuditedDisplay σ) (change : ω → DisplayChange)
    (renderer : ω → σ → σ) (steps : List (Step ω)) :
    (c.run (DisplayChange.auditedWorld change renderer) steps).erase =
      c.erase.run (DisplayChange.world change renderer) steps := by
  have outside : World.Forgets (DisplayChange.auditedWorld change renderer)
      (DisplayChange.world change renderer) AuditedDisplay.server id :=
    ⟨fun _ _ => rfl, fun _ _ => rfl⟩
  exact (c.run_forget AuditedDisplay.forgets Renderer.Forgets.id outside steps).symm

end Compositor

end Compositing
