import Compositing.Proofs.Bookkeeping
import Compositing.Renderer.Headless

/-!
# Damage objects are neither lost nor destroyed twice

With a scene every window but the placeholders is tracked, and without one there are neither
tracked windows nor placeholders. Together with the books this says which damage objects
the server has: one for each tracked window and no others.
-/

namespace Compositing

namespace Toplevel

structure Holding (w w' : Toplevel) : Prop where
  placeholder : w'.isPlaceholder = w.isPlaceholder
  damage : w'.damage? = w.damage?

theorem Holding.refl (w : Toplevel) : Holding w w := ⟨rfl, rfl⟩

theorem Holding.trans (u v w : Toplevel) (first : Holding u v) (second : Holding v w) :
    Holding u w :=
  ⟨second.placeholder.trans first.placeholder, second.damage.trans first.damage⟩

theorem Refreshed.holding {w w' : Toplevel} (same : Refreshed w w') : Holding w w' :=
  ⟨same.looks.isPlaceholder, same.damage⟩

theorem Alike.holding {w w' : Toplevel} (alike : Alike w w') : Holding w w' :=
  ⟨alike.placeholder, alike.damage⟩

end Toplevel

namespace Compositor

open WindowStack
open Toplevel (Holding)

variable {σ : Type} {offers : List Extension} {queue : List DisplayEvent}
  {c c' : Compositor AuditedDisplay σ}

/-- Which windows are tracked. A start that breaks off says nothing of them. -/
structure Covered (offers : List Extension) (c : Compositor AuditedDisplay σ) : Prop where
  able : c.hasScene = true → .damage ∈ offers
  idle : c.hasScene = false →
    ∀ w ∈ c.windows.windows, w.isPlaceholder = false ∧ w.damage? = none
  tracked : c.fault? = none → c.hasScene = true →
    ∀ w ∈ c.windows.windows, w.damage?.isSome = !w.isPlaceholder

/-- All windows were there before and hold what they held. -/
theorem Covered.of_old (h : Covered offers c) (scene : c'.hasScene = c.hasScene)
    (fault : c'.fault? = c.fault?)
    (old : ∀ w' ∈ c'.windows.windows, ∃ w ∈ c.windows.windows, Holding w w') :
    Covered offers c' where
  able := by rw [scene]; exact h.able
  idle := by
    intro off w' hw'
    obtain ⟨w, hw, holding⟩ := old w' hw'
    rw [holding.placeholder, holding.damage]
    exact h.idle (scene ▸ off) w hw
  tracked := by
    intro sound on w' hw'
    obtain ⟨w, hw, holding⟩ := old w' hw'
    rw [holding.placeholder, holding.damage]
    exact h.tracked (fault ▸ sound) (scene ▸ on) w hw

/-- The windows are the same. -/
theorem Covered.of_eq (h : Covered offers c) (scene : c'.hasScene = c.hasScene)
    (fault : c'.fault? = c.fault?) (windows : c'.windows = c.windows) : Covered offers c' := by
  refine h.of_old scene fault ?_
  rw [windows]
  intro w hw
  exact ⟨w, hw, Holding.refl w⟩

theorem modify_old {s : WindowStack} {id : WindowId} {f : Toplevel → Toplevel}
    (holding : ∀ w ∈ s.windows, w.id = id → Holding w (f w)) :
    ∀ w' ∈ (s.modify id f).windows, ∃ w ∈ s.windows, Holding w w' := by
  intro w' hw'
  rcases mem_modify.mp hw' with ⟨w, hw, same, rfl⟩ | ⟨hw', _⟩
  · exact ⟨w, hw, holding w hw same⟩
  · exact ⟨w', hw', Holding.refl w'⟩

theorem replace_old {s : WindowStack} {id : WindowId} {w u : Toplevel}
    (found : s.get? id = some w) (holding : Holding w u) :
    ∀ w' ∈ (s.modify id fun _ => u).windows, ∃ v ∈ s.windows, Holding v w' := by
  intro w' hw'
  rcases (mem_replace found).mp hw' with rfl | ⟨hw', _⟩
  · exact ⟨w, (mem_of_get? found).1, holding⟩
  · exact ⟨w', hw', Holding.refl w'⟩

theorem fetchDamage_old :
    ∀ w' ∈ c.fetchDamage.windows.windows, ∃ w ∈ c.windows.windows, Holding w w' := by
  intro w' hw'
  obtain ⟨v, hv, later⟩ := visit_old Holding.refl Holding.trans
    (fun w d => (collectStep_refreshed w d).holding) _ _ _ w' hw'
  obtain ⟨w, hw, earlier⟩ := visit_old Holding.refl Holding.trans
    (fun w t => (requestStep_refreshed w t).holding) _ _ _ v hv
  exact ⟨w, hw, Holding.trans w v w' earlier later⟩

variable [Renderer σ]

theorem performCompositing_old :
    ∀ w' ∈ c.performCompositing.windows.windows, ∃ w ∈ c.windows.windows, Holding w w' := by
  rw [performCompositing]
  split
  · dsimp only
    split
    · exact fetchDamage_old
    · intro w' hw'
      obtain ⟨v, hv, rfl⟩ : ∃ v ∈ c.fetchDamage.windows.windows, painted v = w' := by
        simpa [paint] using hw'
      obtain ⟨w, hw, holding⟩ := fetchDamage_old v hv
      exact ⟨w, hw, Holding.trans w v _ holding (painted_refreshed v).holding⟩
  · intro w hw
    exact ⟨w, hw, Holding.refl w⟩

theorem performCompositing_covered (h : Covered offers c) : Covered offers c.performCompositing :=
  h.of_old (by simp) (by simp) performCompositing_old

theorem bypassPass_covered (h : Covered offers c) : Covered offers c.bypassPass := by
  have switched : ∀ w' ∈ c.switchWindows.2.windows.windows,
      ∃ w ∈ c.windows.windows, Holding w w' := by
    refine visit_old Holding.refl Holding.trans ?_ _ _
      (⟨c.bypass, c.display, c.renderer, false, false⟩ : BypassPass AuditedDisplay σ)
    intro w p
    exact (bypassStep_alike c.timers.now _ w p).1.holding
  refine h.of_old (by simp) (by simp) ?_
  rw [bypassPass_eq]
  split
  · split
    · simpa using switched
    · exact switched
  · intro w hw
    exact ⟨w, hw, Holding.refl w⟩

/-! Starting and stopping. -/

omit [Renderer σ] in
theorem isPossible_damage (possible : c.isPossible = true)
    (same : c.display.server.extensions = offers) : .damage ∈ offers := by
  have answer : c.display.server.extensions.contains .damage = true :=
    c.hasExtension_of_isPossible possible
  simpa [same] using answer

/-- A server that offers damage objects never refuses one. -/
theorem trackStep_tracks {t : AuditedDisplay × σ} (same : t.1.server.extensions = offers)
    (able : .damage ∈ offers) {w : Toplevel} (real : w.isPlaceholder = false) :
    (trackStep w t).1.isPlaceholder = false ∧ (trackStep w t).1.damage?.isSome = true := by
  rw [trackStep]
  rcases w.track_cases t.1 t.2 with ⟨skip, e⟩ | ⟨_, _, ⟨_, _, failed, e⟩ | ⟨_, _, _, e⟩⟩
  · rw [e]
    exact ⟨real, by simpa [real] using skip⟩
  · rcases t.1.createDamage_cases w.id with ⟨_, made⟩ | ⟨off, _⟩
    · simp [made] at failed
    · simp [HeadlessDisplay.hasExtension, same, able] at off
  · rw [e]
    exact ⟨real, rfl⟩

/-- Starting to track all windows leaves none untracked. -/
theorem enable_tracked (booked : Booked offers queue c) (able : .damage ∈ offers)
    (real : ∀ w ∈ c.windows.windows, w.isPlaceholder = false) :
    ∀ w ∈ (c.enable id).windows.windows, w.isPlaceholder = false ∧ w.damage?.isSome = true := by
  let I : WindowStack → AuditedDisplay × σ → Prop := fun s t =>
    Ledger.Kept offers queue s t.1 ∧ ∀ w ∈ s.windows, w.isPlaceholder = false
  have start : I c.windows (c.display, c.renderer) := ⟨booked, real⟩
  have listed (w : Toplevel) (hw : w ∈ c.windows.windows) :
      (w.isPlaceholder = false ∧ w.damage?.isSome = true) ∨ w.id ∈ c.windows.ids :=
    Or.inr (List.mem_map_of_mem hw)
  intro w hw
  have hw : w ∈ (c.windows.visit c.windows.ids trackStep (c.display, c.renderer)).1.windows := by
    simpa [enable, visitWindows] using hw
  refine visit_all start listed ?_ w hw
  rintro id s t w found ⟨kept, real⟩
  have turn := trackStep_tracks kept.same able (real w (mem_of_get? found).1)
  refine ⟨⟨trackStep_books found kept, fun v hv => ?_⟩, turn⟩
  rcases (mem_replace found).mp hv with rfl | ⟨hv, _⟩
  · exact turn.1
  · exact real v hv

theorem setup_covered (booked : Booked offers queue c) (h : Covered offers c) :
    Covered offers c.setup := by
  let a := ({ c with phase := .starting } : Compositor AuditedDisplay σ).acquire
  have old (off : c.hasScene = false) :
      ∀ w ∈ a.2.windows.windows, w.isPlaceholder = false ∧ w.damage? = none :=
    fun w hw => h.idle off w (mem_acquire { c with phase := .starting } hw)
  rcases c.setup_cases with ⟨_, e⟩ | ⟨_, e⟩ | ⟨off, e⟩ | ⟨off, possible, acquired, e⟩
  · rw [e]
    exact h
  · rw [e]
    exact h.of_eq rfl rfl rfl
  · rw [e]
    refine ⟨by simp, fun _ => ?_, by simp⟩
    simpa using old off
  · have able := isPossible_damage possible booked.same
    have scene : a.2.hasScene = true := acquire_scene _ acquired
    rw [e]
    rcases a.2.activate_cases id with ⟨fault, e'⟩ | ⟨frame, e'⟩
    · rw [e']
      exact ⟨fun _ => able, by simp [scene], by simp⟩
    · have ready : Booked offers queue { a.2 with frame := frame } :=
        acquire_booked (c := { c with phase := .starting }) booked
      have tracked := enable_tracked ready able fun w hw => (old off w hw).1
      rw [e']
      refine performCompositing_covered ⟨fun _ => able, by simp [scene], fun _ _ w hw => ?_⟩
      rw [(tracked w hw).1, (tracked w hw).2]
      rfl

/-- Stopping to track all windows leaves none tracked. -/
theorem untracked_all {δ : Type} [DisplayServer δ] (s : WindowStack) (t : δ × σ) :
    ∀ w ∈ (s.visit s.ids untrackStep t).1.windows, w.damage? = none := by
  refine visit_all (I := fun _ _ => True) trivial ?_ ?_
  · intro w hw
    exact Or.inr (List.mem_map_of_mem hw)
  · intro id s t w _ _
    exact ⟨trivial, untrackStep_untracked w t⟩

theorem finish_covered (h : Covered offers c) : Covered offers c.finish := by
  rw [finish, finishBy]
  split
  · refine ⟨by simp, fun _ w hw => ?_, by simp⟩
    simp only [releaseSelection_frame, emit_frame, visitWindows, id_eq] at hw
    obtain ⟨hw, real⟩ := List.mem_filter.mp hw
    exact ⟨by simpa using real, untracked_all _ _ w hw⟩
  · exact h

/-! The steps. -/

structure Sound (offers : List Extension) (queue : List DisplayEvent)
    (c : Compositor AuditedDisplay σ) : Prop where
  distinct : c.windows.Distinct
  booked : Booked offers queue c
  covered : Covered offers c

omit [Renderer σ] in
/-- What only arms timers, or changes neither windows nor server. -/
theorem Sound.of_eq (h : Sound offers queue c) (windows : c'.windows = c.windows)
    (display : c'.display = c.display) (scene : c'.hasScene = c.hasScene)
    (fault : c'.fault? = c.fault?) : Sound offers queue c' where
  distinct := windows ▸ h.distinct
  booked := h.booked.of_eq windows display
  covered := h.covered.of_eq scene fault windows

theorem damaged_covered (id : WindowId) (h : Covered offers c) :
    Covered offers (c.handleDisplayEvent (.damaged id)) := by
  rcases c.damaged_cases id with ⟨_, e⟩ | ⟨w, found, _, e⟩
  · rw [e]
    exact h
  · rw [e]
    have marked : Holding w w.marked := ⟨rfl, rfl⟩
    refine h.of_old (by simp) (by simp) ?_
    simpa using replace_old found marked

theorem discardPlaceholder_covered (id : WindowId) (h : Covered offers c) :
    Covered offers (c.discardPlaceholder id).2 := by
  rcases c.discardPlaceholder_cases id with e | ⟨w, r, _, _, _, e⟩
  · rw [e]
    exact h
  · rw [e]
    refine h.of_old (by simp) (by simp) ?_
    intro v hv
    simp only [addRepaint_frame] at hv
    exact ⟨v, (List.mem_filter.mp hv).1, Holding.refl v⟩

theorem setGeometry_covered (id : WindowId) (geometry : Rect) (h : Covered offers c) :
    Covered offers (c.setGeometry id geometry) := by
  rcases c.setGeometry_cases id geometry with e | ⟨old, w, r, found, same, _, e⟩
  · rw [e]
    exact h
  · rw [e]
    refine h.of_old (by simp) (by simp) ?_
    simpa using replace_old found same.alike.holding

theorem dispatchDisplayEvents_sound (h : Sound offers queue c) :
    Sound offers queue c.dispatchDisplayEvents.2 := by
  have evolved := (evolves_preserved h.distinct).dispatch (Evolves.refl h.distinct)
  refine ⟨evolved.distinct, dispatchDisplayEvents_booked h.booked, ?_⟩
  have start : Covered offers { c with display := (DisplayServer.takeEvents c.display).2 } :=
    h.covered.of_eq rfl rfl rfl
  refine dispatch_induction (Q := fun _ c => Covered offers c) start ?_
  intro e rest c covered
  cases e with
  | damaged id => exact damaged_covered id covered
  | selectionCleared =>
    rcases c.selectionCleared_cases with e | e
    · rw [e]
      exact covered
    · rw [e]
      exact finish_covered (c := { c with selection? := none }) (covered.of_eq rfl rfl rfl)

/-- All steps but the four that are looked at one by one. -/
theorem sound_preserved :
    Preserved fun c : Compositor AuditedDisplay σ => Sound offers queue c where
  still := fun h same _ => h.of_eq same.windows same.display same.scene same.fault
  frame := fun h same => by
    have h := h.of_eq same.windows same.display same.scene same.fault
    exact ⟨(performCompositing_evolves h.distinct).distinct, performCompositing_booked h.booked,
      performCompositing_covered h.covered⟩
  addRepaint := fun g h => h.of_eq (by simp) (by simp) (by simp) (by simp)
  addRepaintFull := fun h => h.of_eq (by simp) (by simp) (by simp) (by simp)
  sweepSupport := fun busy h =>
    ⟨h.distinct, sweepSupport_booked busy h.booked, h.covered.of_eq rfl rfl rfl⟩
  bypassPass := fun h =>
    ⟨(bypassPass_evolves h.distinct).distinct, bypassPass_booked h.booked,
      bypassPass_covered h.covered⟩
  setup := fun h =>
    ⟨(setup_evolves h.distinct).distinct, setup_booked h.booked, setup_covered h.booked h.covered⟩
  finish := fun h =>
    ⟨(finish_evolves h.distinct).distinct, finish_booked h.booked, finish_covered h.covered⟩
  discardPlaceholder := fun id h =>
    ⟨(discardPlaceholder_evolves id h.distinct).distinct, discardPlaceholder_booked id h.booked,
      discardPlaceholder_covered id h.covered⟩
  setGeometry := fun id geometry h =>
    ⟨(setGeometry_evolves id geometry h.distinct).distinct, setGeometry_booked id geometry h.booked,
      setGeometry_covered id geometry h.covered⟩
  restack := fun {c} order h => by
    have restacked : Sound offers queue { c with windows := c.windows.restack order } := by
      refine ⟨h.distinct.restack order, Ledger.Kept.restack h.booked order, ?_⟩
      refine h.covered.of_old rfl rfl fun w hw => ?_
      exact ⟨w, (mem_restack h.distinct order).mp hw, Holding.refl w⟩
    exact restacked.of_eq (by simp) (by simp) (by simp) (by simp)
  reshape := fun id f same _ h => by
    refine ⟨h.distinct.modify fun w _ e => (same w).1.id.trans e,
      Ledger.Kept.modify h.booked id fun w _ _ => (same w).1.alike, ?_⟩
    exact h.covered.of_old rfl rfl (modify_old fun w _ _ => (same w).1.alike.holding)
  retouch := fun {c} id f same _ h => by
    have retouched : Sound offers queue { c with windows := c.windows.modify id f } := by
      refine ⟨h.distinct.modify fun w _ e => (same w).id.trans e,
        Ledger.Kept.modify h.booked id fun w _ _ => (same w).alike, ?_⟩
      exact h.covered.of_old rfl rfl (modify_old fun w _ _ => (same w).alike.holding)
    exact retouched.of_eq (by simp) (by simp) (by simp) (by simp)
  damaged := fun id h =>
    ⟨(damaged_evolves id h.distinct).distinct, damaged_booked id h.booked,
      damaged_covered id h.covered⟩
  dispatch := dispatchDisplayEvents_sound
  setOverlayVisible := fun {c} visible h => by
    rcases c.setOverlayVisible_cases visible with ⟨_, e⟩ | ⟨_, _, e⟩ | ⟨_, _, e⟩
    · rw [e]
      exact h
    · rw [e]
      exact h.of_eq (by simp) (by simp) (by simp) (by simp)
    · rw [e]
      exact h.of_eq rfl rfl rfl rfl

/-! Windows that come, go and change their state, and what others do. -/

theorem entered_covered {w : Toplevel} (real : w.isPlaceholder = false)
    (untracked : w.damage? = none) (booked : Booked offers queue c) (h : Covered offers c) :
    Covered offers (c.entered w) := by
  refine ⟨h.able, ?_, ?_⟩
  · intro off v hv
    rcases List.mem_append.mp hv with old | new
    · exact h.idle off v old
    · have off : c.hasScene = false := off
      rw [List.mem_singleton.mp new, entering, off]
      exact ⟨real, untracked⟩
  · intro sound on v hv
    rcases List.mem_append.mp hv with old | new
    · exact h.tracked sound on v old
    · have on : c.hasScene = true := on
      have turn := trackStep_tracks (t := (c.display, c.renderer)) booked.same (h.able on) real
      rw [List.mem_singleton.mp new, entering, on, if_pos rfl, turn.1, turn.2]
      rfl

theorem addWindow_sound {w : Toplevel} (fresh : w.Fresh) (h : Sound offers queue c) :
    Sound offers queue (c.addWindow w) := by
  have untracked := fresh.blank.1
  rcases c.addWindow_cases w with ⟨_, e⟩ | ⟨unknown, e⟩
  · rw [e]
    exact h
  · have entered : Sound offers queue (c.entered w) :=
      ⟨entered_distinct unknown h.distinct, entered_booked untracked unknown h.booked,
        entered_covered fresh.1 untracked h.booked h.covered⟩
    rw [e]
    split
    · exact entered.of_eq (by simp) (by simp) (by simp) (by simp)
    · exact entered.of_eq (by simp) (by simp) (by simp) (by simp)

theorem left_covered (w : Toplevel) (keepPlaceholder : Bool) (h : Covered offers c) :
    Covered offers (c.left w keepPlaceholder) := by
  refine ⟨h.able, ?_, ?_⟩
  · intro off v hv
    have off : c.hasScene = false := off
    simp only [left, off, Bool.and_false, Bool.false_eq_true, if_false] at hv
    exact h.idle off v (List.mem_filter.mp hv).1
  · intro sound on v hv
    have on : c.hasScene = true := on
    dsimp only [left] at hv
    split at hv
    · rcases mem_modify.mp hv with ⟨_, _, _, rfl⟩ | ⟨old, _⟩
      · have gone := leaving_untracked (c := c) (w := w) (keepPlaceholder && c.hasScene)
          fun off => by simp [on] at off
        simp [Toplevel.becomePlaceholder, Toplevel.isPlaceholder, gone]
      · exact h.tracked sound on v old
    · exact h.tracked sound on v (List.mem_filter.mp hv).1

theorem removeWindow_sound (id : WindowId) (keepPlaceholder : Bool) (h : Sound offers queue c) :
    Sound offers queue (c.removeWindow id keepPlaceholder).2 := by
  rcases c.removeWindow_cases id keepPlaceholder with ⟨_, e⟩ | ⟨w, found, _, e⟩
  · rw [e]
    exact h
  · have idle (off : c.hasScene = false) : w.damage? = none :=
      (h.covered.idle off w (mem_of_get? found).1).2
    have left : Sound offers queue (c.left w keepPlaceholder) :=
      ⟨left_distinct w keepPlaceholder h.distinct,
        left_booked found keepPlaceholder idle h.booked, left_covered w keepPlaceholder h.covered⟩
    rw [e]
    split
    · exact left.of_eq (by simp) (by simp) (by simp) (by simp)
    · exact left.of_eq (by simp) (by simp) (by simp) (by simp)

theorem setClientState_sound (id : WindowId) (state : ClientState) (h : Sound offers queue c) :
    Sound offers queue (c.setClientState id state).2 := by
  rcases c.setClientState_cases id state with e | ⟨w, old, found, client, e⟩
  · rw [e]
    exact h
  · have alike : ∀ v ∈ c.windows.windows, v.id = id →
        Toplevel.Alike v { v with kind := .client state } := by
      intro v hv same
      obtain rfl := eq_of_get? h.distinct found hv same
      exact ⟨rfl, by simp [Toplevel.isPlaceholder, client], rfl, rfl, fun dirty => dirty⟩
    have restated : Sound offers queue (c.restated id state) := by
      refine ⟨h.distinct.modify fun _ _ same => same, Ledger.Kept.modify h.booked id alike, ?_⟩
      exact h.covered.of_old rfl rfl (modify_old fun v hv same => (alike v hv same).holding)
    rw [e]
    split
    · exact restated.of_eq (by simp) (by simp) (by simp) (by simp)
    · split
      · exact restated.of_eq (by simp) (by simp) (by simp) (by simp)
      · exact restated.of_eq (by simp) (by simp) (by simp) (by simp)

theorem step_sound {ω : Type} (change : ω → DisplayChange) (renderer : ω → σ → σ) (k : Step ω)
    (fresh : k.AddsFresh) (h : Sound offers queue c) :
    Sound offers queue (c.step (DisplayChange.auditedWorld change renderer) k) := by
  by_cases inner : k.Inner
  · exact sound_preserved.step _ inner h
  · cases k with
    | addWindow w => exact addWindow_sound fresh h
    | removeWindow id keepPlaceholder => exact removeWindow_sound id keepPlaceholder h
    | setClientState id state => exact setClientState_sound id state h
    | outside o =>
      exact ⟨h.distinct, outside_booked (change o) h.booked, h.covered.of_eq rfl rfl rfl⟩
    | _ => exact (inner trivial).elim

def auditedRun {ω : Type} (change : ω → DisplayChange) (renderer : ω → σ → σ)
    (offers : List Extension) (layout : Layout) (r : σ) (options : CompositingOptions)
    (steps : List (Step ω)) : Compositor AuditedDisplay σ :=
  (Compositor.new (.ofServer (.new offers layout)) r options).run
    (DisplayChange.auditedWorld change renderer) steps

theorem auditedRun_erase {ω : Type} (change : ω → DisplayChange) (renderer : ω → σ → σ)
    (offers : List Extension) (layout : Layout) (r : σ) (options : CompositingOptions)
    (steps : List (Step ω)) :
    (auditedRun change renderer offers layout r options steps).erase =
      (Compositor.new (HeadlessDisplay.new offers layout) r options).run
        (DisplayChange.world change renderer) steps :=
  run_erase _ change renderer steps

omit [Renderer σ] in
theorem new_sound (layout : Layout) (r : σ) (options : CompositingOptions) :
    Sound offers [] (Compositor.new (.ofServer (.new offers layout)) r options) where
  distinct := List.nodup_nil
  booked := by
    refine ⟨rfl, ⟨List.nodup_nil, List.nodup_nil, ?_, ?_, ?_⟩, fun _ => ?_⟩
    iterate 3
      simp [AuditedDisplay.ofServer, HeadlessDisplay.new, Compositor.new, WindowStack.empty]
    refine ⟨List.nodup_nil, ?_, List.nodup_nil, ?_, rfl, rfl, ?_, ?_, ?_, rfl⟩
    · intro handle id
      constructor
      · rintro ⟨o, ho, _⟩
        simp [AuditedDisplay.ofServer, HeadlessDisplay.new, Compositor.new] at ho
      · rintro ⟨w, hw, _⟩
        simp [Compositor.new, WindowStack.empty] at hw
    all_goals simp [AuditedDisplay.ofServer, HeadlessDisplay.new, Compositor.new, WindowStack.empty]
  covered := ⟨by simp [Compositor.new], by simp [Compositor.new, WindowStack.empty],
    by simp [Compositor.new]⟩

/-- Every reachable compositor is sound, and awaits no reply between two calls. -/
theorem auditedRun_sound {ω : Type} (change : ω → DisplayChange) (renderer : ω → σ → σ)
    (layout : Layout) (r : σ) (options : CompositingOptions) {steps : List (Step ω)}
    (fresh : ∀ k ∈ steps, k.AddsFresh) :
    Sound offers [] (auditedRun change renderer offers layout r options steps) ∧
      (auditedRun change renderer offers layout r options steps).windows.Calm := by
  refine run_preserves _ (P := fun c => Sound offers [] c ∧ c.windows.Calm) ?_ ?_ fresh
  · rintro c k adds ⟨sound, calm⟩
    exact ⟨step_sound change renderer k adds sound, step_calm _ adds sound.distinct calm⟩
  · exact ⟨new_sound layout r options, by simp [Calm, Compositor.new, WindowStack.empty]⟩

/-- What the damage objects of the server are between two calls. -/
structure Accounted (c : Compositor HeadlessDisplay σ) : Prop where
  without : c.hasScene = false →
    c.display.damages = [] ∧ ∀ w ∈ c.windows.windows, w.damage? = none
  /-- One object for each window that is no placeholder. A start that breaks off at a division
  by zero never returns: no compositor comes after it. -/
  matched : c.fault? = none → c.hasScene = true →
    (c.display.damages.map fun o => (o.window, some o.handle)).Perm
      ((c.windows.windows.filter fun w => !w.isPlaceholder).map fun w => (w.id, w.damage?))
  single : (c.display.damages.map (·.handle)).Nodup
  distinct : (c.windows.windows.map (·.id)).Nodup
  bare : ∀ w ∈ c.windows.windows, w.isPlaceholder = true → w.damage? = none
  counted : c.display.damagesCreated = c.display.damagesDestroyed + c.display.damages.length
  calm : ∀ w ∈ c.windows.windows, w.pendingFetch? = none
  collected : c.display.replies = []

omit [Renderer σ] in
theorem Sound.accounted {c : Compositor AuditedDisplay σ} (h : Sound offers [] c)
    (calm : c.windows.Calm) (left : c.display.server.issued < UInt32.size - 1) :
    Accounted c.erase ∧ c.display.strays = [] := by
  have books := h.booked.books left
  refine ⟨⟨?_, ?_, books.once, books.distinct, books.bare, books.counted, calm, ?_⟩, books.strays⟩
  · intro off
    have idle := h.covered.idle off
    refine ⟨List.eq_nil_iff_forall_not_mem.mpr fun o ho => ?_, fun w hw => (idle w hw).2⟩
    obtain ⟨w, hw, _, holds⟩ := (books.owned o.handle o.window).mp ⟨o, ho, rfl, rfl⟩
    simp [(idle w hw).2] at holds
  · intro sound on
    have tracked := h.covered.tracked sound on
    refine (List.perm_ext_iff_of_nodup ?_ ?_).mpr ?_
    · refine List.Nodup.of_map Prod.snd ?_
      have handles := books.once.map fun a b (same : some a = some b) => Option.some.inj same
      simpa [Function.comp_def, erase] using handles
    · refine List.Nodup.of_map Prod.fst ?_
      rw [List.map_map]
      exact books.distinct.filter fun w => !w.isPlaceholder
    · rintro ⟨id, handle?⟩
      constructor
      · intro hx
        obtain ⟨o, ho, e⟩ := List.mem_map.mp hx
        obtain ⟨rfl, rfl⟩ := Prod.mk.inj e
        obtain ⟨w, hw, same, holds⟩ := (books.owned o.handle o.window).mp ⟨o, ho, rfl, rfl⟩
        have real : (!w.isPlaceholder) = true := by simp [← tracked w hw, holds]
        exact List.mem_map.mpr ⟨w, List.mem_filter.mpr ⟨hw, real⟩, by rw [same, holds]⟩
      · intro hx
        obtain ⟨w, hw, e⟩ := List.mem_map.mp hx
        obtain ⟨rfl, rfl⟩ := Prod.mk.inj e
        obtain ⟨hw, real⟩ := List.mem_filter.mp hw
        obtain ⟨handle, holds⟩ := Option.isSome_iff_exists.mp ((tracked w hw).trans real)
        obtain ⟨o, ho, same, watched⟩ := (books.owned handle w.id).mpr ⟨w, hw, rfl, holds⟩
        exact List.mem_map.mpr ⟨o, ho, by rw [watched, same, holds]⟩
  · apply List.eq_nil_iff_forall_not_mem.mpr
    intro r hr
    obtain ⟨w, hw, _, awaited⟩ := books.awaited r hr
    simp [calm w hw] at awaited

/-- In every reachable compositor the damage objects are accounted, as long as the server has
numbers left, and in the whole run no unknown handle was to be destroyed. -/
theorem damage_objects_accounted {ω : Type} (change : ω → DisplayChange) (renderer : ω → σ → σ)
    (offers : List Extension) (layout : Layout) (r : σ) (options : CompositingOptions)
    {steps : List (Step ω)} (fresh : ∀ k ∈ steps, k.AddsFresh)
    {c : Compositor HeadlessDisplay σ}
    (reached : c = (Compositor.new (.new offers layout) r options).run
      (DisplayChange.world change renderer) steps)
    (left : c.display.damagesCreated + c.display.fetchRequests < UInt32.size - 1) :
    Accounted c ∧ (auditedRun change renderer offers layout r options steps).erase = c ∧
      (auditedRun change renderer offers layout r options steps).display.strays = [] := by
  obtain ⟨sound, calm⟩ := auditedRun_sound change renderer layout r options fresh
  have same := auditedRun_erase change renderer offers layout r options steps
  rw [← reached] at same
  subst same
  obtain ⟨accounted, strays⟩ := sound.accounted calm left
  exact ⟨accounted, rfl, strays⟩

def departureSteps : List (Step DisplayChange) :=
  [.addWindow (.client ⟨1⟩ (.ofCoords 0 0 10 10) ⟨true, false, false⟩), .setup,
    .addWindow (.client ⟨2⟩ (.ofCoords 20 0 10 10) ⟨false, false, false⟩),
    .outside (.reportDamage ⟨2⟩ [.ofCoords 0 0 5 5]), .dispatchDisplayEvents,
    .fireTimer 1000000000, .removeWindow ⟨1⟩ true]

def departure : Compositor HeadlessDisplay HeadlessRenderer :=
  (Compositor.new (.new Extension.all (.single 1920 1080)) (.new ⟨1⟩ fun _ => 0)
    CompositingOptions.standard).run (DisplayChange.world id fun _ r => r) departureSteps

theorem departure_accounted :
    departure.fault? = none ∧ departure.hasScene = true ∧
      departure.windows.windows.map (fun w => (w.id, w.isPlaceholder)) =
        [(⟨1⟩, true), (⟨2⟩, false)] ∧
      Accounted departure ∧
      (auditedRun id (fun _ r => r) Extension.all (.single 1920 1080)
        (HeadlessRenderer.new ⟨1⟩ fun _ => 0) CompositingOptions.standard
        departureSteps).display.strays = [] := by
  have fresh : ∀ k ∈ departureSteps, k.AddsFresh := by
    simp [departureSteps, Step.AddsFresh]
  have left : departure.display.damagesCreated + departure.display.fetchRequests <
      UInt32.size - 1 := by
    have few : departure.display.damagesCreated + departure.display.fetchRequests = 3 := rfl
    rw [few]
    decide
  obtain ⟨accounted, _, strays⟩ := damage_objects_accounted id (fun _ r => r) Extension.all
    (.single 1920 1080) (HeadlessRenderer.new ⟨1⟩ fun _ => 0) CompositingOptions.standard fresh
    (c := departure) rfl left
  exact ⟨rfl, rfl, rfl, accounted, strays⟩

end Compositor

end Compositing
