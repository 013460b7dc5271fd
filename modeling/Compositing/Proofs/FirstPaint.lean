import Compositing.Proofs.Acquaintance
import Compositing.Proofs.Handover
import Compositing.Proofs.Sightings

/-!
# A window is damaged all over when it is first painted

Until a window is painted its damage is only added to, and what is cleared after a frame is cleared
of the windows that were in it. So the damage that goes with the first paint of a window covers all
of it, however many frames passed it over and whatever became of its size. What others damage never
matters: the argument rests on what the compositor itself does to the damage of a window. The copy
of a tracked window grows without a scene, and is not damaged where it has grown.
-/

namespace Compositing

namespace Compositor

open Toplevel (Intact)
open WindowStack

variable {δ σ : Type} [DisplayServer δ] [Renderer σ]

/-! Frames. -/

variable {c c' : Compositor δ (Recorded σ)}

def Presents (c : Compositor δ (Recorded σ)) : Prop := Presented c.windows c.renderer.calls

omit [DisplayServer δ] [Renderer σ] in
theorem Presents.persist (h : c.Presents) (windows : Persists c.windows c'.windows)
    (sights : SameSights c.renderer.calls c'.renderer.calls) : c'.Presents :=
  Presented.persist h windows sights

omit [DisplayServer δ] [Renderer σ] in
theorem Presents.of_eq (h : c.Presents) (windows : c'.windows = c.windows)
    (calls : c'.renderer.calls = c.renderer.calls) : c'.Presents := by
  rw [Presents, windows, calls]
  exact h

omit [Renderer σ] in
theorem fetchDamage_persists (distinct : c.windows.Distinct) :
    Persists c.windows c.fetchDamage.windows := by
  have keeps (v w : Toplevel) (h : Intact v w) : w.id = v.id := h.id
  have asked : Becomes Intact c.windows
      (c.windows.visit c.windows.ids requestStep ([], c.display)).1 :=
    Becomes.round Intact.refl Intact.trans keeps requestStep_intact distinct _ _
  rw [fetchDamage]
  refine (asked.trans Intact.trans ?_).persists
  exact Becomes.round Intact.refl Intact.trans keeps collectStep_intact
    (asked.distinct keeps distinct) _ _

omit [DisplayServer δ] in
theorem paint_presents (distinct : c.windows.Distinct) (h : c.Presents) : c.paint.Presents := by
  have listed (p : WindowPaint) : p ∈ c.paintList ↔
      ∃ w ∈ c.windows.windows, w.readyForPainting = true ∧ w.paintInfo = p := by
    rw [paintList, layered_eq distinct]
    simp [(layered_perm distinct _).mem_iff, and_assoc]
  have windows : c.paint.windows = ⟨c.windows.windows.map painted⟩ := by simp [paint]
  rw [Presents, paint_told, windows]
  exact Presented.paint h distinct listed

theorem performCompositing_presents (distinct : c.windows.Distinct) (h : c.Presents) :
    c.performCompositing.Presents := by
  have fetched : c.fetchDamage.Presents :=
    h.persist (fetchDamage_persists distinct) (SameSights.refl _)
  have same : c.fetchDamage.windows.Distinct := by
    rw [WindowStack.Distinct, fetchDamage_ids]
    exact distinct
  rw [performCompositing]
  split
  · dsimp only
    split
    · exact fetched.persist (Persists.refl _) (SameSights.idle _)
    · exact paint_presents same fetched
  · exact h

theorem bypassPass_presents (distinct : c.windows.Distinct) (h : c.Presents) :
    c.bypassPass.Presents := by
  have windows : Persists c.windows c.switchWindows.2.windows := by
    refine Becomes.persists ?_
    exact Becomes.round Intact.refl Intact.trans (fun _ _ h => h.id)
      (bypassStep_intact c.timers.now _) distinct _ _
  have sights := SameSights.of_discards c.switchWindows_tells
  have switched : c.switchWindows.2.Presents := h.persist windows sights
  rw [bypassPass_eq]
  split
  · split
    · exact switched.of_eq (by simp) (by simp [Renderer.setOverlayShape])
    · exact switched
  · exact h

/-! Stopping. -/

omit [DisplayServer δ] in
/-- Once the scene is told that each window is gone, it knows of none. -/
theorem closings_forget (windows : List Toplevel) {r : Recorded σ}
    (whole : FirstPaintsWhole r.calls)
    (listed : ∀ id, sightingAfter r.calls id ≠ .untracked → id ∈ windows.map (·.id)) :
    FirstPaintsWhole (windows.foldl closeWindow r).calls ∧
      ∀ id, sightingAfter (windows.foldl closeWindow r).calls id = .untracked := by
  induction windows generalizing r with
  | nil =>
    refine ⟨whole, fun id => ?_⟩
    by_contra known
    simpa using listed id known
  | cons w rest ih =>
    have told := closeWindow_calls r w
    have sight (id : WindowId) : sightingAfter (closeWindow r w).calls id =
        if w.id = id then .untracked else sightingAfter r.calls id := by
      rw [told, sightingAfter_snoc, Toplevel.closing]
      split <;> rfl
    refine ih ?_ fun id known => ?_
    · rw [told]
      refine whole.snoc fun damage windows same => ?_
      rw [Toplevel.closing] at same
      split at same <;> simp at same
    · rw [sight] at known
      split at known
      · simp at known
      · rename_i other
        have either := listed id known
        rw [List.map_cons, List.mem_cons] at either
        exact either.resolve_left (Ne.symm other)

theorem finish_presents (h : c.Presents) : c.finish.Presents := by
  have closed := closings_forget c.windows.windows h.whole fun id known => by
    obtain ⟨w, hw, rfl, _⟩ := h.there id known
    exact List.mem_map_of_mem hw
  have released := SameSights.of_discards (untracked_tells c.windows c.windows.ids
    (c.display, c.windows.windows.foldl closeWindow c.renderer))
  rw [finish, finishBy]
  split
  · refine Presented.of_untracked ?_ ?_ fun id => ?_
    · rw [releaseSelection_eq]
      exact released.whole closed.1
    · intro w hw
      rw [releaseSelection_eq] at hw
      exact untracked_all _ _ w (List.mem_filter.mp hw).1
    · rw [releaseSelection_eq]
      exact (released.same id).trans (closed.2 id)
  · exact h

/-! Changes of one window, and events. -/

omit [DisplayServer δ] in
theorem discardPlaceholder_presents (distinct : c.windows.Distinct)
    (bare : ∀ w ∈ c.windows.windows, w.isPlaceholder = true → w.damage? = none) (id : WindowId)
    (h : c.Presents) : (c.discardPlaceholder id).2.Presents := by
  rcases c.discardPlaceholder_cases id with e | ⟨w, r, found, placeholder, told, e⟩
  · rw [e]
    exact h
  -- only the placeholder goes, and it was not tracked
  have others (v : Toplevel) (hv : v ∈ c.windows.windows) (tracked : v.damage?.isSome = true) :
      v.id ≠ id := by
    intro here
    obtain rfl := eq_of_get? distinct found hv here
    simp [bare v hv placeholder] at tracked
  have stays (v : Toplevel) (hv : v ∈ c.windows.windows) (other : v.id ≠ id) :
      v ∈ (c.windows.remove id).windows := List.mem_filter.mpr ⟨hv, by simpa using other⟩
  have gone : Presented (c.windows.remove id) r.calls := by
    rcases told with rfl | rfl
    · refine Presented.persist h ⟨?_, ?_⟩ (SameSights.refl _)
      · intro v hv _
        exact ⟨v, (List.mem_filter.mp hv).1, Intact.refl v⟩
      · intro v hv tracked
        exact ⟨v, stays v hv (others v hv tracked), Intact.refl v⟩
    · refine Presented.dismiss h (Or.inl rfl) ?_ fun v hv _ => stays v hv
      intro v hv tracked
      have old := (List.mem_filter.mp hv).1
      exact ⟨old, others v old tracked⟩
  rw [e, Presents, (addRepaint_frame _ _).2.2.2.1, (addRepaint_frame _ _).2.1]
  exact gone

omit [DisplayServer δ] in
/-- A window of another size is damaged all over, and one that was only moved has the same
extents in its own coordinates. -/
theorem setGeometry_presents (distinct : c.windows.Distinct)
    (idle : c.hasScene = false → ∀ w ∈ c.windows.windows, w.damage? = none) (id : WindowId)
    (geometry : Rect) (h : c.Presents) : (c.setGeometry id geometry).Presents := by
  rw [setGeometry]
  cases found : c.windows.get? id with
  | none => exact h
  | some old =>
    dsimp only
    split
    · exact h
    · split
      · rename_i resized
        have placed : Toplevel.Same old { old with geometry := geometry } :=
          ⟨rfl, rfl, rfl, rfl, rfl, rfl, fun most => most⟩
        have full := Toplevel.addDamageFull_same { old with geometry := geometry }
        have intact : Intact old ({ old with geometry := geometry } : Toplevel).addDamageFull :=
          ⟨full.id, full.damage, fun tracked _ => Toplevel.allDamaged_addDamageFull tracked⟩
        refine h.persist ?_ ?_
        · simpa [Toplevel.discardPixmap] using persists_replace distinct found intact
        · have told : Recorded.Tells SceneCall.IsDiscard c.renderer
              (Renderer.pixmapDiscarded old.id c.renderer) := Recorded.Tells.one rfl trivial
          simpa [Toplevel.discardPixmap] using SameSights.of_discards told
      · rename_i kept
        have intact : Intact old { old with geometry := geometry } := by
          refine ⟨rfl, rfl, fun tracked whole p inside => whole p ?_⟩
          cases on : c.hasScene with
          | false => simp [idle on old (mem_of_get? found).1] at tracked
          | true =>
            have same : old.geometry.size = geometry.size := by
              by_contra other
              exact kept ⟨other, on⟩
            rw [Toplevel.localRect, Rect.atOrigin, same]
            exact inside
        refine h.persist ?_ ?_
        · simpa using persists_replace distinct found intact
        · simpa using SameSights.refl c.renderer.calls

theorem damaged_presents (distinct : c.windows.Distinct) (id : WindowId) (h : c.Presents) :
    (c.handleDisplayEvent (.damaged id)).Presents := by
  rcases c.damaged_cases id with ⟨_, e⟩ | ⟨w, found, _, e⟩
  · rw [e]
    exact h
  · have marked : Intact w w.marked := ⟨rfl, rfl, fun _ whole => whole⟩
    rw [e]
    refine h.persist ?_ ?_
    · simpa using persists_replace distinct found marked
    · simpa using SameSights.refl c.renderer.calls

theorem setOverlayVisible_presents (visible : Bool) (h : c.Presents) :
    (c.setOverlayVisible visible).Presents := by
  rcases c.setOverlayVisible_cases visible with ⟨_, e⟩ | ⟨_, _, e⟩ | ⟨_, _, e⟩
  · rw [e]
    exact h
  · rw [e]
    exact h.of_eq (by simp) (by simp [Renderer.setOverlayVisible])
  · rw [e]
    exact h.of_eq rfl rfl

theorem dispatch_presents (distinct : c.windows.Distinct) (h : c.Presents) :
    c.dispatchDisplayEvents.2.Presents := by
  have taken : ({ c with display := (DisplayServer.takeEvents c.display).2 } :
      Compositor δ (Recorded σ)).Presents := h.of_eq rfl rfl
  refine (dispatch_induction (Q := fun _ c => c.windows.Distinct ∧ c.Presents)
    ⟨distinct, taken⟩ ?_).2
  rintro e _ c ⟨distinct, h⟩
  cases e with
  | damaged id => exact ⟨(damaged_evolves id distinct).distinct, damaged_presents distinct id h⟩
  | selectionCleared =>
    rcases c.selectionCleared_cases with e | e
    · rw [e]
      exact ⟨distinct, h⟩
    · have free : ({ c with selection? := none } : Compositor δ (Recorded σ)).Presents :=
        h.of_eq rfl rfl
      rw [e]
      exact ⟨(finish_evolves (c := { c with selection? := none }) distinct).distinct,
        finish_presents free⟩

/-! Starting. -/

/-- What is told on the way to a start is of no window. -/
theorem acquire_presents (bare : ∀ w ∈ c.windows.windows, w.damage? = none) (h : c.Presents) :
    c.acquire.2.Presents := by
  have nothing := h.nothing bare
  have left (w : Toplevel) (hw : w ∈ c.acquire.2.windows.windows) : w.damage? = none :=
    bare w (c.mem_acquire hw)
  rcases c.acquire_tells with begun | ⟨_, same⟩
  · refine Presented.of_untracked ?_ left fun id => ?_
    · exact begun ▸ h.whole.snoc (by simp)
    · rw [begun]
      exact sightingAfter_snoc _ _ id
  · exact Presented.of_untracked (same ▸ h.whole) left (same ▸ nothing)

theorem enable_presents (distinct : c.windows.Distinct) (h : c.Presents) :
    (c.enable id).windows.Distinct ∧ (c.enable id).Presents := by
  let P : List WindowId → WindowStack → δ × Recorded σ → Prop :=
    fun _ s t => s.Distinct ∧ Presented s t.2.calls
  have start : P c.windows.ids c.windows (c.display, c.renderer) := ⟨distinct, h⟩
  have tracked : P [] (c.windows.visit c.windows.ids trackStep (c.display, c.renderer)).1
      (c.windows.visit c.windows.ids trackStep (c.display, c.renderer)).2 := by
    refine visit_induction start (fun _ _ _ _ _ h => h) ?_
    rintro id _ s t w found ⟨distinct, h⟩
    have same : (trackStep w t).1.id = id := (trackStep_kept w t).id.trans (mem_of_get? found).2
    exact ⟨distinct.modify fun _ _ _ => same, trackStep_presented distinct found h⟩
  have windows : (c.enable id).windows =
      (c.windows.visit c.windows.ids trackStep (c.display, c.renderer)).1 := by
    simp [enable, visitWindows]
  have renderer : (c.enable id).renderer =
      (c.windows.visit c.windows.ids trackStep (c.display, c.renderer)).2.2 := by
    simp [enable, visitWindows, emit]
  rw [Presents, windows, renderer]
  exact tracked

theorem activate_presents (distinct : c.windows.Distinct) (h : c.Presents) :
    (c.activate id).Presents := by
  rcases c.activate_cases id with ⟨fault, e⟩ | ⟨frame, e⟩
  · rw [e]
    exact h
  · obtain ⟨apart, presents⟩ := enable_presents (c := { c with frame := frame }) distinct h
    rw [e]
    exact performCompositing_presents apart presents

theorem setup_presents (distinct : c.windows.Distinct)
    (idle : c.hasScene = false → ∀ w ∈ c.windows.windows, w.damage? = none) (h : c.Presents) :
    c.setup.Presents := by
  have acquired (off : c.hasScene = false) :
      ({ c with phase := .starting } : Compositor δ (Recorded σ)).acquire.2.Presents :=
    acquire_presents (c := { c with phase := .starting }) (idle off) h
  rcases c.setup_cases with ⟨_, e⟩ | ⟨_, e⟩ | ⟨off, e⟩ | ⟨off, _, _, e⟩
  · rw [e]
    exact h
  · rw [e]
    exact h.of_eq rfl rfl
  · rw [e]
    exact (acquired off).of_eq (by simp) (by simp)
  · have apart := (acquire_evolves (c := { c with phase := .starting }) distinct).distinct
    rw [e]
    exact activate_presents apart (acquired off)

/-! Windows that come and go. -/

theorem entering_told (c : Compositor δ (Recorded σ)) (w : Toplevel) :
    ((c.entering w).1 = w ∧ (c.entering w).2.2.calls = c.renderer.calls) ∨
      ∃ handle, (c.entering w).1 = w.trackedBy handle ∧
        (c.entering w).2.2.calls = c.renderer.calls ++ [.added w.id] := by
  rw [entering]
  split
  · exact trackStep_told w (c.display, c.renderer)
  · exact Or.inl ⟨rfl, rfl⟩

theorem entered_presents {w : Toplevel} (fresh : w.Fresh)
    (unknown : c.windows.contains w.id = false) (h : c.Presents) : (c.entered w).Presents := by
  rw [Presents, entered]
  dsimp only
  rcases c.entering_told w with ⟨same, calls⟩ | ⟨handle, tracked, calls⟩
  · rw [same, calls]
    refine Presented.persist h ⟨?_, ?_⟩ (SameSights.refl _)
    · intro v hv tracked
      rcases List.mem_append.mp hv with old | new
      · exact ⟨v, old, Intact.refl v⟩
      · rw [List.mem_singleton.mp new, fresh.blank.1] at tracked
        simp at tracked
    · intro v hv _
      exact ⟨v, List.mem_append_left _ hv, Intact.refl v⟩
  · rw [tracked, calls]
    refine Presented.announce h (u := w.trackedBy handle) (fun v => ?_) rfl
      (w.allDamaged_trackedBy handle)
    have apart (hv : v ∈ c.windows.windows) : v.id ≠ w.id := contains_eq_false_iff.mp unknown v hv
    simp only [List.mem_append, List.mem_singleton]
    exact ⟨fun either => either.elim (fun old => Or.inr ⟨old, apart old⟩) Or.inl,
      fun either => either.elim Or.inr fun old => Or.inl old.1⟩

theorem addWindow_presents {w : Toplevel} (fresh : w.Fresh)
    (h : c.Presents) : (c.addWindow w).Presents := by
  rcases c.addWindow_cases w with ⟨_, e⟩ | ⟨unknown, e⟩
  · rw [e]
    exact h
  · have entered := entered_presents fresh unknown h
    rw [e]
    split
    · exact entered.of_eq (by simp) (by simp)
    · exact entered.of_eq (by simp) (by simp)

/-- Who leaves with a scene is told to be closed, and is tracked no more. -/
theorem left_presents_of_scene (on : c.hasScene = true) (w : Toplevel) (keepPlaceholder : Bool)
    (h : c.Presents) : (c.left w keepPlaceholder).Presents := by
  have gone := untrackStep_untracked w (c.display,
    Renderer.windowClosed w.id keepPlaceholder c.renderer)
  have rest : Presented (c.left w keepPlaceholder).windows
      (c.renderer.calls ++ [.closed w.id keepPlaceholder]) := by
    refine Presented.dismiss h (Or.inr ⟨keepPlaceholder, rfl⟩) ?_ ?_
    · intro v hv tracked
      simp only [Compositor.left, leaving, on, Bool.and_true, if_true] at hv
      split at hv
      · rcases mem_modify.mp hv with ⟨_, _, _, rfl⟩ | old
        · simp [Toplevel.becomePlaceholder, gone] at tracked
        · exact old
      · simpa using List.mem_filter.mp hv
    · intro v hv _ other
      simp only [Compositor.left, on, Bool.and_true]
      split
      · exact mem_modify.mpr (Or.inr ⟨hv, other⟩)
      · exact List.mem_filter.mpr ⟨hv, by simpa using other⟩
  have released : SameSights (c.renderer.calls ++ [.closed w.id keepPlaceholder]) _ :=
    SameSights.of_discards (untrackStep_tells w
      (c.display, Renderer.windowClosed w.id keepPlaceholder c.renderer))
  refine rest.persist (Persists.refl _) ?_
  simpa [Compositor.left, leaving, on] using released

theorem left_presents
    (idle : c.hasScene = false → ∀ w ∈ c.windows.windows, w.damage? = none) (w : Toplevel)
    (keepPlaceholder : Bool) (h : c.Presents) : (c.left w keepPlaceholder).Presents := by
  cases on : c.hasScene with
  | true => exact left_presents_of_scene on w keepPlaceholder h
  | false =>
    refine Presented.of_untracked ?_ (fun v hv => idle on v ?_) ?_
    · simpa [Compositor.left, leaving, on] using h.whole
    · simp only [Compositor.left, on, Bool.and_false, Bool.false_eq_true, if_false] at hv
      exact (List.mem_filter.mp hv).1
    · simpa [Compositor.left, leaving, on] using h.nothing (idle on)

theorem removeWindow_presents
    (idle : c.hasScene = false → ∀ w ∈ c.windows.windows, w.damage? = none) (id : WindowId)
    (keepPlaceholder : Bool) (h : c.Presents) :
    (c.removeWindow id keepPlaceholder).2.Presents := by
  rcases c.removeWindow_cases id keepPlaceholder with ⟨_, e⟩ | ⟨w, _, _, e⟩
  · rw [e]
    exact h
  · have left := left_presents idle w keepPlaceholder h
    rw [e]
    split
    · exact left.of_eq (by simp) (by simp)
    · exact left.of_eq (by simp) (by simp)

omit [DisplayServer δ] in
theorem setClientState_presents (id : WindowId) (state : ClientState) (h : c.Presents) :
    (c.setClientState id state).2.Presents := by
  rcases c.setClientState_cases id state with e | ⟨w, old, _, _, e⟩
  · rw [e]
    exact h
  have restated : (c.restated id state).Presents :=
    h.persist (persists_modify _ id fun v _ _ => ⟨rfl, rfl, fun _ whole => whole⟩)
      (SameSights.refl _)
  rw [e]
  split
  · exact restated.of_eq (by simp) (by simp)
  · split
    · exact restated.of_eq (by simp) (by simp)
    · exact restated.of_eq (by simp) (by simp)

/-! Steps and runs. -/

section Runs

variable {offers : List Extension} {c : Compositor AuditedDisplay (Recorded σ)}

theorem presents_preserved :
    Preserved fun c : Compositor AuditedDisplay (Recorded σ) =>
      Sound offers [] c ∧ c.Presents where
  still := fun ⟨sound, h⟩ same armed => ⟨sound_preserved.still sound same armed,
    h.of_eq same.windows (by rw [same.renderer])⟩
  frame := fun {c c'} ⟨sound, h⟩ same => by
    have h : c'.Presents := h.of_eq same.windows (by rw [same.renderer])
    exact ⟨sound_preserved.frame sound same,
      performCompositing_presents (same.windows ▸ sound.distinct) h⟩
  addRepaint := fun g ⟨sound, h⟩ =>
    ⟨sound_preserved.addRepaint g sound, h.of_eq (by simp) (by simp)⟩
  addRepaintFull := fun ⟨sound, h⟩ =>
    ⟨sound_preserved.addRepaintFull sound, h.of_eq (by simp) (by simp)⟩
  sweepSupport := fun busy ⟨sound, h⟩ =>
    ⟨sound_preserved.sweepSupport busy sound, h.of_eq rfl rfl⟩
  bypassPass := fun ⟨sound, h⟩ =>
    ⟨sound_preserved.bypassPass sound, bypassPass_presents sound.distinct h⟩
  setup := fun ⟨sound, h⟩ => ⟨sound_preserved.setup sound,
    setup_presents sound.distinct (fun off w hw => (sound.covered.idle off w hw).2) h⟩
  finish := fun ⟨sound, h⟩ => ⟨sound_preserved.finish sound, finish_presents h⟩
  discardPlaceholder := fun id ⟨sound, h⟩ => ⟨sound_preserved.discardPlaceholder id sound,
    discardPlaceholder_presents sound.distinct sound.booked.custody.bare id h⟩
  setGeometry := fun id geometry ⟨sound, h⟩ => ⟨sound_preserved.setGeometry id geometry sound,
    setGeometry_presents sound.distinct (fun off w hw => (sound.covered.idle off w hw).2)
      id geometry h⟩
  restack := fun {c} order ⟨sound, h⟩ => by
    have restacked : ({ c with windows := c.windows.restack order } :
        Compositor AuditedDisplay (Recorded σ)).Presents :=
      h.persist (persists_restack sound.distinct order) (SameSights.refl _)
    exact ⟨sound_preserved.restack order sound, restacked.of_eq (by simp) (by simp)⟩
  reshape := fun {c} id f same intact ⟨sound, h⟩ => by
    have reshaped : ({ c with windows := c.windows.modify id f } :
        Compositor AuditedDisplay (Recorded σ)).Presents :=
      h.persist (persists_modify _ id fun w _ _ => (same w).1.intact (intact w))
        (SameSights.refl _)
    exact ⟨sound_preserved.reshape id same intact sound, reshaped⟩
  retouch := fun {c} id f same intact ⟨sound, h⟩ => by
    have retouched : ({ c with windows := c.windows.modify id f } :
        Compositor AuditedDisplay (Recorded σ)).Presents :=
      h.persist (persists_modify _ id fun w _ _ => (same w).intact (intact w))
        (SameSights.refl _)
    exact ⟨sound_preserved.retouch id same intact sound, retouched.of_eq (by simp) (by simp)⟩
  damaged := fun id ⟨sound, h⟩ =>
    ⟨sound_preserved.damaged id sound, damaged_presents sound.distinct id h⟩
  dispatch := fun ⟨sound, h⟩ =>
    ⟨sound_preserved.dispatch sound, dispatch_presents sound.distinct h⟩
  setOverlayVisible := fun visible ⟨sound, h⟩ =>
    ⟨sound_preserved.setOverlayVisible visible sound, setOverlayVisible_presents visible h⟩

theorem step_presents {ω : Type} (change : ω → DisplayChange)
    (renderer : ω → Recorded σ → Recorded σ) (silent : ∀ o r, (renderer o r).calls = r.calls)
    (k : Step ω) (fresh : k.AddsFresh) (sound : Sound offers [] c) (h : c.Presents) :
    (c.step (DisplayChange.auditedWorld change renderer) k).Presents := by
  by_cases inner : k.Inner
  · exact (presents_preserved.step _ inner ⟨sound, h⟩).2
  · cases k with
    | addWindow w => exact addWindow_presents fresh h
    | removeWindow id keepPlaceholder =>
      exact removeWindow_presents
        (fun off w hw => (sound.covered.idle off w hw).2) id keepPlaceholder h
    | setClientState id state => exact setClientState_presents id state h
    | outside o => exact h.of_eq rfl (silent o c.renderer)
    | _ => exact (inner trivial).elim

theorem run_presents {ω : Type} (change : ω → DisplayChange)
    (renderer : ω → Recorded σ → Recorded σ) (silent : ∀ o r, (renderer o r).calls = r.calls)
    (layout : Layout) (r : σ) (options : CompositingOptions) {steps : List (Step ω)}
    (fresh : ∀ k ∈ steps, k.AddsFresh) :
    (auditedRun change renderer offers layout ⟨r, []⟩ options steps).Presents := by
  have start : (Compositor.new (AuditedDisplay.ofServer (.new offers layout))
      (⟨r, []⟩ : Recorded σ) options).Presents := by
    refine Presented.of_untracked ?_ ?_ fun _ => rfl
    · simp [FirstPaintsWhole, EachPaint, Compositor.new]
    · simp [Compositor.new, WindowStack.empty]
  refine (run_preserves _ (P := fun c => Sound offers [] c ∧ c.Presents) ?_
    ⟨new_sound layout ⟨r, []⟩ options, start⟩ fresh).2
  rintro c k adds ⟨sound, h⟩
  exact ⟨step_sound change renderer k adds sound,
    step_presents change renderer silent k adds sound h⟩

end Runs

/-- In every reachable compositor a window is damaged all over as long as it was not painted since
its damage object was made. So whatever was painted on the way, the first paint of a window since
then came with damage all over. The record tells of just the windows that have a damage object. -/
theorem first_paint_covers {ω : Type} (change : ω → DisplayChange) (renderer : ω → σ → σ)
    (offers : List Extension) (layout : Layout) (r : σ) (options : CompositingOptions)
    {steps : List (Step ω)} (fresh : ∀ k ∈ steps, k.AddsFresh)
    {c : Compositor HeadlessDisplay σ}
    (reached : c = (Compositor.new (.new offers layout) r options).run
      (DisplayChange.world change renderer) steps) :
    ∃ told : Compositor HeadlessDisplay (Recorded σ),
      told = (Compositor.new (.new offers layout) r options).recorded.run
        (DisplayChange.world change renderer).recorded steps ∧
      told.unrecorded = c ∧
      (∀ id, sightingAfter told.renderer.calls id ≠ .untracked ↔
        ∃ w ∈ c.windows.windows, w.id = id ∧ w.damage?.isSome = true) ∧
      (∀ w ∈ c.windows.windows, w.damage?.isSome = true →
        sightingAfter told.renderer.calls w.id = .unseen → w.AllDamaged) ∧
      FirstPaintsWhole told.renderer.calls := by
  let beside (o : ω) (r : Recorded σ) : Recorded σ := { r with renderer := renderer o r.renderer }
  let audited : Compositor AuditedDisplay (Recorded σ) :=
    auditedRun change beside offers layout ⟨r, []⟩ options steps
  have presents : audited.Presents :=
    run_presents change beside (fun _ _ => rfl) layout r options fresh
  have told : audited.erase = (Compositor.new (.new offers layout) r options).recorded.run
      (DisplayChange.world change renderer).recorded steps :=
    auditedRun_erase change beside offers layout ⟨r, []⟩ options steps
  have plain : audited.erase.unrecorded = c := by
    rw [told, reached]
    exact run_unrecorded _ _ steps
  subst plain
  refine ⟨audited.erase, told, rfl, fun id => ⟨presents.there id, ?_⟩, presents.fresh,
    presents.whole⟩
  rintro ⟨w, hw, rfl, tracked⟩
  exact presents.told w hw tracked

/-- A client that was not drawn to yet is moved, resized and passed over by two frames. -/
def passedOverSteps : List (Step DisplayChange) :=
  [.setup, .addWindow (.client ⟨1⟩ (.ofCoords 0 0 10 10) ⟨true, false, false⟩),
    .addWindow (.unmanaged ⟨2⟩ (.ofCoords 20 0 10 10)), .performCompositing,
    .setGeometry ⟨1⟩ (.ofCoords 5 5 20 30), .addWindowRepaintFull ⟨2⟩, .performCompositing,
    .setGeometry ⟨1⟩ (.ofCoords 7 7 20 30)]

def passedOver : Compositor HeadlessDisplay HeadlessRenderer :=
  (Compositor.new (.new Extension.all (.single 1920 1080)) (.new ⟨9⟩ fun _ => 0)
    CompositingOptions.standard).run (DisplayChange.world id fun _ r => r) passedOverSteps

theorem passedOver_damaged :
    passedOver.windows.windows.map (fun w => (w.id, w.localRect, w.readyForPainting)) =
      [(⟨1⟩, .ofCoords 0 0 20 30, false), (⟨2⟩, .ofCoords 0 0 10 10, true)] ∧
    (∃ w ∈ passedOver.windows.windows, w.id = ⟨1⟩ ∧ w.AllDamaged) ∧
    ∃ told : Compositor HeadlessDisplay (Recorded HeadlessRenderer), told.unrecorded = passedOver ∧
      sightingAfter told.renderer.calls ⟨1⟩ = .unseen ∧
      sightingAfter told.renderer.calls ⟨2⟩ = .seen ∧ FirstPaintsWhole told.renderer.calls := by
  have fresh : ∀ k ∈ passedOverSteps, k.AddsFresh := by
    simp [passedOverSteps, Step.AddsFresh]
  obtain ⟨told, rfl, plain, tracked, damaged, whole⟩ := first_paint_covers id (fun _ r => r)
    Extension.all (.single 1920 1080) (HeadlessRenderer.new ⟨9⟩ fun _ => 0)
    CompositingOptions.standard fresh (c := passedOver) rfl
  obtain ⟨w, hw, here, held⟩ :=
    (tracked ⟨1⟩).mp fun unknown : Sighting.unseen = .untracked => by simp at unknown
  have all : w.AllDamaged := damaged w hw held (by rw [here]; rfl)
  exact ⟨rfl, ⟨w, hw, here, all⟩, _, plain, rfl, rfl, whole⟩

def unpaintedSteps : List (Step DisplayChange) :=
  [.setup, .addWindow (.unmanaged ⟨7⟩ (.ofCoords 0 0 10 10))]

def unpaintedOne : Compositor HeadlessDisplay (Recorded HeadlessRenderer) :=
  ((Compositor.new (.new Extension.all (.single 1920 1080)) (.new ⟨9⟩ fun _ => 0)
    CompositingOptions.standard).recorded).run (DisplayChange.world id fun _ r => r) unpaintedSteps

/-- The scene and the window go, a copy of the window is added, grows, and is set up again. -/
def regrowthSteps (w : Toplevel) : List (Step DisplayChange) :=
  [.finish, .removeWindow ⟨7⟩ false, .addWindow w, .setGeometry ⟨7⟩ (.ofCoords 0 0 20 20)]

/-- The copy still holds a damage object, and is damaged only where it was before it grew. That is
what the next scene is given to paint first. -/
theorem regrown_copy_uncovered :
    ∃ w, unpaintedOne.windows.get? ⟨7⟩ = some w ∧
      ∃ c, c = unpaintedOne.run (DisplayChange.world id fun _ r => r) (regrowthSteps w) ∧
        (∀ damage windows, .painted damage windows ∈ c.renderer.calls → windows = []) ∧
        (∃ v ∈ c.windows.windows, v.damage?.isSome = true ∧ ¬ v.AllDamaged) ∧
        ∃ damage p, c.setup.renderer.calls.getLast? = some (.painted damage [p]) ∧
          p.id = ⟨7⟩ ∧ ¬ p.AllDamaged := by
  have inside : (Rect.ofCoords 0 0 20 20).contains ⟨15, 15⟩ = true := by decide +kernel
  have outside : (Region.ofRect (.ofCoords 0 0 10 10)).contains ⟨15, 15⟩ = false := by
    decide +kernel
  refine ⟨_, rfl, _, rfl, ?_, ⟨_, List.mem_singleton_self _, rfl, fun all => ?_⟩,
    _, _, rfl, rfl, fun all => ?_⟩
  · intro damage windows painted
    -- the one paint told of is that of the empty scene when it began
    have told : .painted damage windows ∈ [SceneCall.created, .painted _ [], .added ⟨7⟩,
        .closed ⟨7⟩ false, .discarded ⟨7⟩] := painted
    simp only [List.mem_cons, SceneCall.painted.injEq, reduceCtorEq, List.not_mem_nil, or_false,
      false_or] at told
    exact told.2
  · exact Bool.false_ne_true (outside.symm.trans (all ⟨15, 15⟩ inside))
  · exact Bool.false_ne_true (outside.symm.trans (all ⟨15, 15⟩ inside))

end Compositor

end Compositing
