import Compositing.Proofs.Turnover

/-!
# What a window keeps

The compositor does few things to a single window. Whatever a window keeps through each of them,
it keeps through every step. So if every window has it that the window manager adds, then all
windows of a reachable compositor have it.
-/

namespace Compositing

/-- A window that has it keeps it, whatever the compositor does to the window. -/
structure Toplevel.Hereditary (P : Toplevel → Prop) : Prop where
  same : ∀ {w w'}, Same w w' → P w → P w'
  tracked : ∀ {w} handle, P w → P (w.trackedBy handle)
  released : ∀ {w}, P w → P w.released
  /-- Damage is reported of tracked windows only. -/
  marked : ∀ {w}, w.damage?.isSome = true → P w → P w.marked
  requested : ∀ {w} fetch?, P w → P { w with isDamaged := false, pendingFetch? := fetch? }
  collected : ∀ {w} g, P w → P { w with
    pendingFetch? := none
    damageRegion := w.damageRegion.union g
    windowRepaints := w.windowRepaints.union g }
  /-- The window is of another kind or drawn in another way. -/
  recast : ∀ {w} kind direct ready, P w → P { w with
    kind := kind, unredirected := direct, readyForPainting := ready }

namespace WindowStack

def Each (P : Toplevel → Prop) (s : WindowStack) : Prop := ∀ w ∈ s.windows, P w

variable {P : Toplevel → Prop} {s s' : WindowStack}

/-- Windows that have come from others, each by a change that keeps `P`. -/
theorem Each.of_old (h : s.Each P) (old : ∀ w' ∈ s'.windows, ∃ w ∈ s.windows, P w → P w') :
    s'.Each P := by
  intro w' hw'
  obtain ⟨w, hw, kept⟩ := old w' hw'
  exact kept (h w hw)

theorem Each.visit {τ : Type} (h : s.Each P) {f : Toplevel → τ → Toplevel × τ}
    (turn : ∀ w t, P w → P (f w t).1) (ids : List WindowId) (t : τ) :
    (s.visit ids f t).1.Each P :=
  h.of_old (visit_old (fun _ h => h) (fun _ _ _ first second h => second (first h)) turn ids s t)

theorem Each.modify (h : s.Each P) (id : WindowId) {f : Toplevel → Toplevel}
    (kept : ∀ w ∈ s.windows, w.id = id → P (f w)) : (s.modify id f).Each P := by
  intro v hv
  rcases mem_modify.mp hv with ⟨w, hw, here, rfl⟩ | ⟨hv, _⟩
  · exact kept w hw here
  · exact h v hv

theorem Each.filter (h : s.Each P) (keep : Toplevel → Bool) : Each P ⟨s.windows.filter keep⟩ :=
  fun w hw => h w (List.mem_filter.mp hw).1

theorem Each.restack (h : s.Each P) (order : List WindowId) : (s.restack order).Each P := by
  intro w hw
  rcases List.mem_append.mp hw with below | listed
  · exact h w (List.mem_filter.mp below).1
  · obtain ⟨id, _, found⟩ := List.mem_filterMap.mp listed
    exact h w (mem_of_get? found).1

end WindowStack

section OneWindow

open Compositor

variable {δ σ : Type} [DisplayServer δ] [Renderer σ] {P : Toplevel → Prop}

theorem Toplevel.Hereditary.trackStep (kept : Hereditary P) (w : Toplevel) (t : δ × σ) (h : P w) :
    P (Compositor.trackStep w t).1 :=
  trackStep_induction (P := fun u _ _ => P u) w t h (fun _ _ _ => h)
    fun handle _ _ _ => kept.tracked handle h

theorem Toplevel.Hereditary.untrackStep (kept : Hereditary P) (w : Toplevel) (t : δ × σ)
    (h : P w) : P (Compositor.untrackStep w t).1 :=
  untrackStep_induction (P := fun u _ _ => P u) w t (fun _ => h) fun _ _ _ => kept.released h

omit [Renderer σ] in
theorem Toplevel.Hereditary.requestStep (kept : Hereditary P) (w : Toplevel)
    (t : List WindowId × δ) (h : P w) : P (Compositor.requestStep w t).1 := by
  rw [Compositor.requestStep]
  rcases w.requestDamage_cases t.2 with
    ⟨_, e⟩ | ⟨_, _, ⟨_, e⟩ | ⟨_, _, _, _, _, e⟩ | ⟨_, fetch, _, _, _, e⟩⟩
  · rw [e]
    exact h
  · rw [e]
    exact kept.requested w.pendingFetch? h
  · rw [e]
    exact kept.requested w.pendingFetch? h
  · rw [e]
    exact kept.requested (some fetch) h

omit [Renderer σ] in
theorem Toplevel.Hereditary.collectStep (kept : Hereditary P) (w : Toplevel) (d : δ) (h : P w) :
    P (Compositor.collectStep w d).1 := by
  rw [Compositor.collectStep]
  rcases w.collectDamage_cases d with ⟨_, e⟩ | ⟨_, _, e⟩
  · rw [e]
    exact h
  · rw [e]
    exact kept.collected _ h

theorem Toplevel.Hereditary.bypassStep (kept : Hereditary P) (now : Nanos)
    (eligible : List WindowId) (w : Toplevel) (p : BypassPass δ σ) (h : P w) :
    P (Compositor.bypassStep now eligible w p).1 := by
  refine bypassStep_induction (P := fun u _ _ => P u) now eligible w p h
    (kept.recast w.kind true w.readyForPainting h) ?_
  exact kept.same (addDamageFull_same _) (kept.recast w.kind false w.readyForPainting h)

theorem Toplevel.Hereditary.painted (kept : Hereditary P) (w : Toplevel) (h : P w) :
    P (Compositor.painted w) := by
  refine kept.same ?_ h
  rw [Compositor.painted]
  split <;> exact ⟨rfl, rfl, rfl, rfl, rfl, rfl, fun most => most⟩

end OneWindow

namespace Compositor

open Toplevel (Hereditary)
open WindowStack

variable {ω δ σ : Type} [DisplayServer δ] [Renderer σ] {c : Compositor δ σ} {P : Toplevel → Prop}

omit [Renderer σ] in
theorem fetchDamage_each (kept : Hereditary P) (h : c.windows.Each P) :
    c.fetchDamage.windows.Each P := by
  rw [fetchDamage]
  exact (h.visit kept.requestStep _ _).visit kept.collectStep _ _

theorem performCompositing_each (kept : Hereditary P) (h : c.windows.Each P) :
    c.performCompositing.windows.Each P := by
  have fetched := fetchDamage_each kept h
  rw [performCompositing]
  split
  · dsimp only
    split
    · exact fetched
    · refine fetched.of_old fun w' hw' => ?_
      obtain ⟨w, hw, rfl⟩ : ∃ w ∈ c.fetchDamage.windows.windows, painted w = w' := by
        simpa [paint] using hw'
      exact ⟨w, hw, kept.painted w⟩
  · exact h

theorem bypassPass_each (kept : Hereditary P) (h : c.windows.Each P) :
    c.bypassPass.windows.Each P := by
  have switched : c.switchWindows.2.windows.Each P :=
    h.visit (kept.bypassStep c.timers.now _) _ _
  rw [bypassPass_eq]
  split
  · split
    · simpa using switched
    · exact switched
  · exact h

theorem setup_each (kept : Hereditary P) (h : c.windows.Each P) : c.setup.windows.Each P := by
  have acquired : ({ c with phase := .starting } : Compositor δ σ).acquire.2.windows.Each P :=
    fun w hw => h w (mem_acquire { c with phase := .starting } hw)
  rcases c.setup_cases with ⟨_, e⟩ | ⟨_, e⟩ | ⟨_, e⟩ | ⟨_, _, _, e⟩
  · rw [e]
    exact h
  · rw [e]
    exact h
  · rw [e]
    simpa using acquired
  · rw [e]
    rcases activate_cases ({ c with phase := .starting } : Compositor δ σ).acquire.2 id
      with ⟨fault, e'⟩ | ⟨frame, e'⟩
    · rw [e']
      exact acquired
    · rw [e']
      refine performCompositing_each kept ?_
      simpa [enable, visitWindows] using acquired.visit kept.trackStep _ _

theorem finish_each (kept : Hereditary P) (h : c.windows.Each P) : c.finish.windows.Each P := by
  rw [finish, finishBy]
  split
  · simp only [releaseSelection_frame, emit_frame, visitWindows]
    exact (h.visit kept.untrackStep _ _).filter _
  · exact h

omit [DisplayServer δ] in
theorem discardPlaceholder_each (id : WindowId) (h : c.windows.Each P) :
    (c.discardPlaceholder id).2.windows.Each P := by
  rcases c.discardPlaceholder_cases id with e | ⟨w, r, _, _, _, e⟩
  · rw [e]
    exact h
  · have removed : (c.windows.remove id).Each P := h.filter _
    rw [e]
    simpa using removed

omit [DisplayServer δ] in
theorem setGeometry_each (kept : Hereditary P) (id : WindowId) (geometry : Rect)
    (h : c.windows.Each P) : (c.setGeometry id geometry).windows.Each P := by
  rcases c.setGeometry_cases id geometry with e | ⟨old, w, r, found, same, _, e⟩
  · rw [e]
    exact h
  · rw [e]
    simpa using h.modify id fun _ _ _ => kept.same same (h old (mem_of_get? found).1)

theorem damaged_each (kept : Hereditary P) (id : WindowId) (h : c.windows.Each P) :
    (c.handleDisplayEvent (.damaged id)).windows.Each P := by
  rcases c.damaged_cases id with ⟨_, e⟩ | ⟨w, found, tracked, e⟩
  · rw [e]
    exact h
  · rw [e]
    simpa using h.modify id fun _ _ _ => kept.marked tracked (h w (mem_of_get? found).1)

theorem dispatchDisplayEvents_each (kept : Hereditary P) (h : c.windows.Each P) :
    c.dispatchDisplayEvents.2.windows.Each P := by
  refine dispatch_induction (Q := fun _ c => c.windows.Each P) h ?_
  intro e _ c h
  cases e with
  | damaged id => exact damaged_each kept id h
  | selectionCleared =>
    rcases c.selectionCleared_cases with e | e
    · rw [e]
      exact h
    · rw [e]
      exact finish_each (c := { c with selection? := none }) kept h

theorem each_preserved (kept : Hereditary P) :
    Preserved fun c : Compositor δ σ => c.windows.Each P where
  still := fun h same _ => same.windows ▸ h
  frame := fun h same => performCompositing_each kept (same.windows ▸ h)
  addRepaint := fun g h => by simpa using h
  addRepaintFull := fun h => by simpa using h
  sweepSupport := fun busy h => h
  bypassPass := bypassPass_each kept
  setup := setup_each kept
  finish := finish_each kept
  discardPlaceholder := discardPlaceholder_each
  setGeometry := setGeometry_each kept
  restack := fun order h => by simpa using h.restack order
  reshape := fun id f same _ h => h.modify id fun w hw _ => kept.same (same w).1 (h w hw)
  retouch := fun id f same _ h => by
    simpa using h.modify id fun w hw _ => kept.same (same w) (h w hw)
  damaged := damaged_each kept
  dispatch := dispatchDisplayEvents_each kept
  setOverlayVisible := fun {c} visible h => by
    rcases c.setOverlayVisible_cases visible with ⟨_, e⟩ | ⟨_, _, e⟩ | ⟨_, _, e⟩
    · rw [e]
      exact h
    · rw [e]
      simpa using h
    · rw [e]
      exact h

/-- Windows that are added have to have it. -/
theorem step_each (kept : Hereditary P) (W : World ω δ σ) (k : Step ω)
    (new : k.Adds P) (h : c.windows.Each P) : (c.step W k).windows.Each P := by
  by_cases inner : k.Inner
  · exact (each_preserved kept).step W inner h
  · cases k with
    | addWindow w =>
      rcases c.addWindow_windows w with e | ⟨_, e⟩
      · exact e ▸ h
      · have entered : P (c.entering w).1 := by
          rw [entering]
          split
          · exact kept.trackStep w _ new
          · exact new
        refine e ▸ fun v hv => ?_
        rcases List.mem_append.mp hv with old | top
        · exact h v old
        · exact List.mem_singleton.mp top ▸ entered
    | removeWindow id keepPlaceholder =>
      rcases c.removeWindow_windows id keepPlaceholder with e | ⟨w, found, _, e⟩
      · exact e ▸ h
      · have gone : P (c.leaving w (keepPlaceholder && c.hasScene)).1 := by
          have here := h w (mem_of_get? found).1
          rw [leaving]
          split
          · exact kept.untrackStep w _ here
          · exact here
        refine e ▸ ?_
        dsimp only [left]
        split
        · exact h.modify w.id fun _ _ _ => kept.recast _ false true gone
        · exact h.filter _
    | setClientState id state =>
      rcases c.setClientState_windows id state with e | ⟨w, old, _, _, e⟩
      · exact e ▸ h
      · exact e ▸ h.modify id fun w hw _ =>
          kept.recast _ w.unredirected w.readyForPainting (h w hw)
    | outside o => exact h
    | _ => exact (inner trivial).elim

/-- What all added windows have, all windows of a reachable compositor have. -/
theorem run_each (kept : Hereditary P) (W : World ω δ σ) (d : δ) (r : σ)
    (options : CompositingOptions) {steps : List (Step ω)}
    (new : ∀ k ∈ steps, k.Adds P) :
    ((Compositor.new d r options).run W steps).windows.Each P := by
  refine run_preserves W (P := fun c => c.windows.Each P)
    (fun c k new h => step_each kept W k new h) ?_ new
  simp [WindowStack.Each, Compositor.new, WindowStack.empty]

end Compositor

end Compositing
