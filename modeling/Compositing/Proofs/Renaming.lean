import Compositing.Proofs.Commutation
import Compositing.Proofs.Takedown
import Compositing.Proofs.Tidiness
import Mathlib.Logic.Equiv.Basic
import Mathlib.Logic.Function.Iterate

/-!
# The order of the turns cannot be seen

Starting and stopping take every window in turn, in no order that is known. When tracking begins,
the order decides which window gets which number, and nothing else: two orders lead to states
that are the same once the handles of the one are renamed. Renaming goes along with all that
still happens before the start is over, the first frame included. When tracking ends, the
numbers go, and not even they differ.
-/

namespace Compositing

/-! Handles under other names. -/

def Toplevel.rename (ρ : Equiv.Perm DamageHandle) (w : Toplevel) : Toplevel :=
  { w with damage? := w.damage?.map ρ }

def DamageObject.rename (ρ : Equiv.Perm DamageHandle) (o : DamageObject) : DamageObject :=
  { o with handle := ρ o.handle }

theorem Toplevel.rename_refl (w : Toplevel) : w.rename (Equiv.refl _) = w := by
  simp [rename]

theorem DamageObject.rename_refl (o : DamageObject) : o.rename (Equiv.refl _) = o := rfl

/-- The handles that windows get when they take their turns in the order of the ids, from the
number on. -/
def numbering (n : UInt32) : List WindowId → WindowId → DamageHandle
  | [], _ => ⟨n⟩
  | id :: rest, i => if i = id then ⟨n⟩ else numbering (HeadlessDisplay.succNumber n) rest i

namespace HeadlessDisplay

end HeadlessDisplay

namespace Compositor

open WindowStack

variable {σ : Type} [Renderer σ]

theorem trackStep_of_new {d : HeadlessDisplay} (able : d.hasExtension .damage = true)
    {w : Toplevel} (real : w.isPlaceholder = false) (untracked : w.damage? = none) (r : σ) :
    trackStep w (d, r) =
      (w.trackedBy ⟨d.nextNumber⟩, d.created w.id, Renderer.windowAdded w.id r) := by
  rcases d.createDamage_cases w.id with ⟨_, made⟩ | ⟨off, _⟩
  · rw [trackStep, Toplevel.track_of_created real untracked made]
  · simp [off] at able

/-- What the turns of new windows lead to. -/
theorem visit_trackStep {s : WindowStack} (distinct : s.Distinct) {ids : List WindowId}
    (once : ids.Nodup) (known : ∀ id ∈ ids, id ∈ s.ids)
    (new : ∀ w ∈ s.windows, w.id ∈ ids → w.isPlaceholder = false ∧ w.damage? = none)
    {d : HeadlessDisplay} (able : d.hasExtension .damage = true) (r : σ) :
    s.visit ids trackStep (d, r) =
      (⟨s.windows.map fun w =>
          if w.id ∈ ids then w.trackedBy (numbering d.nextNumber ids w.id) else w⟩,
        ids.foldl HeadlessDisplay.created d,
        ids.foldl (fun r id => Renderer.windowAdded id r) r) := by
  induction ids generalizing s d r with
  | nil => simp [visit]
  | cons id rest ih =>
    obtain ⟨w, hw, rfl⟩ := List.mem_map.mp (known id List.mem_cons_self)
    have found := get?_of_mem distinct hw
    obtain ⟨fresh, once⟩ := List.nodup_cons.mp once
    obtain ⟨real, untracked⟩ := new w hw List.mem_cons_self
    let s' := s.modify w.id fun _ => w.trackedBy ⟨d.nextNumber⟩
    have same : s'.ids = s.ids := modify_ids fun _ _ _ => rfl
    have distinct' : s'.Distinct := distinct.modify fun _ _ _ => rfl
    have new' : ∀ v ∈ s'.windows, v.id ∈ rest → v.isPlaceholder = false ∧ v.damage? = none := by
      intro v hv listed
      rcases (mem_replace found).mp hv with rfl | ⟨hv, _⟩
      · exact absurd listed fresh
      · exact new v hv (List.mem_cons_of_mem _ listed)
    have turned := ih distinct' once (fun i hi => same ▸ known i (List.mem_cons_of_mem _ hi)) new'
      (d := d.created w.id) able (Renderer.windowAdded w.id r)
    rw [visit, found]
    dsimp only
    rw [trackStep_of_new able real untracked]
    refine turned.trans ?_
    congr 2
    simp only [s', WindowStack.modify, List.map_map]
    refine List.map_congr_left fun v hv => ?_
    by_cases here : v.id = w.id
    · obtain rfl := eq_of_get? distinct found hv here
      simp [Toplevel.trackedBy, fresh, numbering]
    · have other : (v.id == w.id) = false := by simpa using here
      simp only [Function.comp_def, other, Bool.false_eq_true, if_false, List.mem_cons, here,
        false_or, numbering]
      rfl

/-! Compositors that differ by a renaming. -/

/-- The one is the other with its handles renamed, the objects of its server in some order, and
a renderer that counts as the same. -/
structure SameUpTo (ρ : Equiv.Perm DamageHandle) (same : σ → σ → Prop)
    (c c' : Compositor HeadlessDisplay σ) : Prop where
  renamed : c' = { c with
    windows := ⟨c.windows.windows.map (Toplevel.rename ρ)⟩
    display := { c.display with damages := c'.display.damages }
    renderer := c'.renderer }
  damages : (c.display.damages.map (DamageObject.rename ρ)).Perm c'.display.damages
  renderer : same c.renderer c'.renderer

namespace SameUpTo

variable {ρ : Equiv.Perm DamageHandle} {same : σ → σ → Prop}
  {c c' : Compositor HeadlessDisplay σ}

omit [Renderer σ] in
/-- Only the renderers differ. -/
theorem of_renderer (rest : c' = { c with renderer := c'.renderer })
    (renderer : same c.renderer c'.renderer) : SameUpTo (Equiv.refl _) same c c' where
  renamed := by
    have windows : c.windows.windows.map (Toplevel.rename (Equiv.refl _)) = c.windows.windows :=
      List.map_id'' Toplevel.rename_refl _
    rw [windows, rest]
  damages := by rw [rest, List.map_id'' DamageObject.rename_refl]
  renderer := renderer

theorem refl (blind : Renderer.OrderBlind same) (c : Compositor HeadlessDisplay σ) :
    SameUpTo (Equiv.refl _) same c c :=
  of_renderer rfl (blind.equivalence.refl c.renderer)

theorem checkBypass (blind : Renderer.OrderBlind same) (h : SameUpTo ρ same c c') (force : Bool) :
    SameUpTo ρ same (c.checkBypass force) (c'.checkBypass force) := by
  have applies : c'.bypassApplies = c.bypassApplies := by
    rw [h.renamed, bypassApplies, bypassApplies]
    simp only [blind.overlayWindow? h.renderer]
  have timers : c'.timers = c.timers := by rw [h.renamed]
  have bypass : c'.bypass = c.bypass := by rw [h.renamed]
  rw [Compositor.checkBypass, Compositor.checkBypass, applies, timers, bypass]
  split
  · exact ⟨by rw [h.renamed], h.damages, h.renderer⟩
  · exact h

omit [Renderer σ] in
theorem announce (h : SameUpTo ρ same c c') (phase : Phase) (e : Event) :
    SameUpTo ρ same (({ c with phase := phase } : Compositor HeadlessDisplay σ).emit e)
      (({ c' with phase := phase } : Compositor HeadlessDisplay σ).emit e) := by
  have events : c'.events = c.events := by rw [h.renamed]
  rw [emit, emit]
  dsimp only
  rw [events]
  exact ⟨by rw [h.renamed], h.damages, h.renderer⟩

/-- What is painted does not show the handles. -/
theorem paintList (blind : Renderer.OrderBlind same) (h : SameUpTo ρ same c c') :
    c'.paintList = c.paintList := by
  let s : WindowStack := ⟨c.windows.windows.map (Toplevel.rename ρ)⟩
  have ids : s.ids = c.windows.ids := by
    simp [s, WindowStack.ids, Function.comp_def, Toplevel.rename]
  have found (id : WindowId) : s.get? id = (c.windows.get? id).map (Toplevel.rename ρ) := by
    rw [WindowStack.get?, List.find?_map]
    rfl
  have windows : c'.windows = s := by rw [h.renamed]
  rw [Compositor.paintList, Compositor.paintList, blind.elevatedWindows h.renderer, windows, ids]
  simp only [found, ← List.map_filterMap, List.filter_map, List.map_map]
  rfl

theorem paint (blind : Renderer.OrderBlind same) (h : SameUpTo ρ same c c') :
    SameUpTo ρ same c.paint c'.paint := by
  obtain ⟨time, renderer⟩ := blind.paint c.repaints c.paintList h.renderer
  have windows : c'.windows.windows.map painted =
      (c.windows.windows.map painted).map (Toplevel.rename ρ) := by
    rw [h.renamed, List.map_map, List.map_map]
    refine List.map_congr_left fun w _ => ?_
    rw [Function.comp_apply, Function.comp_apply, painted, painted,
      apply_ite (Toplevel.rename ρ)]
    rfl
  have scene : c'.hasScene = c.hasScene := by rw [h.renamed]
  have frame : c'.frame = c.frame := by rw [h.renamed]
  have timers : c'.timers = c.timers := by rw [h.renamed]
  have repaints : c'.repaints = c.repaints := by rw [h.renamed]
  simp only [Compositor.paint, scheduleRepaint, h.paintList blind, repaints, time, frame, timers,
    windows, scene]
  split
  · exact ⟨by rw [h.renamed], h.damages, renderer⟩
  · exact ⟨by rw [h.renamed], h.damages, renderer⟩

theorem goIdle (blind : Renderer.OrderBlind same) (h : SameUpTo ρ same c c') :
    SameUpTo ρ same c.goIdle c'.goIdle := by
  have frame : c'.frame = c.frame := by rw [h.renamed]
  have timers : c'.timers = c.timers := by rw [h.renamed]
  rw [Compositor.goIdle, Compositor.goIdle, frame, timers]
  exact ⟨by rw [h.renamed], h.damages, blind.idle h.renderer⟩

/-- A frame that finds nothing to fetch. -/
theorem performCompositing (blind : Renderer.OrderBlind same) (h : SameUpTo ρ same c c')
    (idle : c.fetchDamage = c) (idle' : c'.fetchDamage = c') :
    SameUpTo ρ same c.performCompositing c'.performCompositing := by
  have visible : c'.overlayVisible = c.overlayVisible := by
    rw [h.renamed, overlayVisible, overlayVisible]
    simp only [blind.overlayVisible h.renderer]
  have repaints : c'.repaints = c.repaints := by rw [h.renamed]
  have pending : c'.windowRepaintsPending = c.windowRepaintsPending := by
    rw [h.renamed, windowRepaintsPending, windowRepaintsPending, List.any_map]
    rfl
  rw [Compositor.performCompositing, Compositor.performCompositing, visible, idle, idle']
  dsimp only
  rw [repaints, pending]
  split
  · split
    · exact h.goIdle blind
    · exact h.paint blind
  · exact h

omit [Renderer σ] in
theorem unrecorded {c c' : Compositor HeadlessDisplay (Recorded σ)}
    (h : SameUpTo ρ (Recorded.Alike same) c c') : SameUpTo ρ same c.unrecorded c'.unrecorded where
  renamed := by
    rw [h.renamed]
    rfl
  damages := h.damages
  renderer := h.renderer.renderer

end SameUpTo

structure Ready (c : Compositor HeadlessDisplay σ) : Prop where
  distinct : c.windows.Distinct
  new : ∀ w ∈ c.windows.windows, w.isPlaceholder = false ∧ w.damage? = none
  clean : ∀ w ∈ c.windows.windows, w.isDamaged = false
  nothing : c.display.damages = []
  able : c.display.hasExtension .damage = true

namespace Ready

variable {same : σ → σ → Prop} {c : Compositor HeadlessDisplay σ} {ids ids' : List WindowId}

/-- The turns of all windows. -/
theorem visit (h : c.Ready) (all : ids.Perm c.windows.ids) :
    c.windows.visit ids trackStep (c.display, c.renderer) =
      (⟨c.windows.windows.map fun w => w.trackedBy (numbering c.display.nextNumber ids w.id)⟩,
        ids.foldl HeadlessDisplay.created c.display,
        ids.foldl (fun r id => Renderer.windowAdded id r) c.renderer) := by
  rw [visit_trackStep h.distinct (all.nodup_iff.mpr h.distinct) (fun id hid => all.mem_iff.mp hid)
    (fun w hw _ => h.new w hw) h.able]
  congr 2
  refine List.map_congr_left fun w hw => ?_
  rw [if_pos (all.mem_iff.mpr (List.mem_map_of_mem hw))]

omit [Renderer σ] in
/-- Only the windows and the server matter. -/
theorem of_eq {c' : Compositor HeadlessDisplay σ} (h : c.Ready) (windows : c'.windows = c.windows)
    (display : c'.display = c.display) : c'.Ready where
  distinct := windows ▸ h.distinct
  new := windows ▸ h.new
  clean := windows ▸ h.clean
  nothing := display ▸ h.nothing
  able := display ▸ h.able

variable {enumerate enumerate' : List WindowId → List WindowId}

end Ready

/-- To acquire what is needed takes no number and touches no object. -/
theorem Acquires.server {c a : Compositor HeadlessDisplay σ} {d : HeadlessDisplay} {r : σ}
    (h : Acquires c a d r) : d = { c.display with
      claimAttempts := d.claimAttempts
      selectionOwner? := d.selectionOwner?
      subwindowsRedirected := d.subwindowsRedirected } := by
  obtain ⟨d', claimed, _, redirected⟩ := h.claims
  dsimp only [DisplayServer.claimSelection, HeadlessDisplay.claimSelection] at claimed
  dsimp only [DisplayServer.redirectSubwindows, HeadlessDisplay.redirectSubwindows] at redirected
  split at claimed
  · simp at claimed
  · split at redirected
    · obtain ⟨_, rfl⟩ := Prod.mk.inj claimed
      obtain ⟨_, rfl⟩ := Prod.mk.inj redirected
      rfl
    · simp at redirected

namespace Balanced

variable {same : σ → σ → Prop} {c : Compositor HeadlessDisplay σ}
  {enumerate enumerate' : List WindowId → List WindowId}

theorem ready (h : c.Balanced) (tidy : c.windows.Tidy) (off : c.hasScene = false)
    (possible : c.isPossible = true) {a : Compositor HeadlessDisplay σ} {d : HeadlessDisplay}
    {r : σ} (acquired : Acquires { c with phase := .starting } a d r) :
    a.Ready ∧ a.display.issued = c.display.issued ∧
      a.display.nextNumber = c.display.nextNumber := by
  have idle := h.idle off
  have real : c.windows.discardPlaceholders = c.windows := by
    rw [WindowStack.discardPlaceholders, List.filter_eq_self.mpr fun w hw => by simp [idle w hw]]
  have kept := acquired.server
  rw [acquired.shape, real, kept]
  refine ⟨⟨h.custody.distinct, idle, fun w hw => tidy w hw (idle w hw).2, ?_, ?_⟩, rfl, rfl⟩
  · exact (h.custody.nothing_kept fun w hw => (idle w hw).2).1
  · exact hasExtension_of_isPossible c possible

omit [Renderer σ] in
theorem recorded (h : c.Balanced) : c.recorded.Balanced :=
  ⟨h.custody, h.idle, h.tracked, h.numbered⟩

end Balanced

def pairSteps : List (Step DisplayChange) :=
  [.addWindow (.client ⟨1⟩ (.ofCoords 0 0 10 10) ⟨true, false, false⟩),
    .addWindow (.unmanaged ⟨2⟩ (.ofCoords 20 0 10 10))]

def pair : Compositor HeadlessDisplay HeadlessRenderer :=
  (Compositor.new (.new Extension.all (.single 1920 1080)) (.new ⟨1⟩ fun _ => 0)
    CompositingOptions.standard).run (DisplayChange.world id fun _ r => r) pairSteps

end Compositor

end Compositing
