import Compositing.Proofs.Overlay
import Compositing.Proofs.Ownership
import Compositing.Proofs.Records
import Compositing.Proofs.Transitions

/-!
# The renderer knows the windows of the stack

A renderer comes to know windows and to lose them by what it is told. With a scene it knows just
the windows of the stack, placeholders included, so it is never given one to paint that it does
not know. A window is announced when it is tracked, so this rests on every window that should be
tracked being so, and on none coming that is so already, as a copy is.
-/

namespace Compositing

namespace Renderer

variable {σ : Type}

/-- The two know the same windows, and the second is as honest as the first. -/
structure Agree (knows : σ → WindowId → Prop) (honest : σ → Prop) (r r' : σ) : Prop where
  honest : honest r → honest r'
  knows : ∀ id, knows r' id ↔ knows r id

namespace Agree

variable {knows : σ → WindowId → Prop} {honest : σ → Prop} {r r' r'' : σ}

theorem refl (r : σ) : Agree knows honest r r := ⟨fun h => h, fun _ => Iff.rfl⟩

theorem trans (first : Agree knows honest r r') (second : Agree knows honest r' r'') :
    Agree knows honest r r'' :=
  ⟨fun h => second.honest (first.honest h), fun id => (second.knows id).trans (first.knows id)⟩

end Agree

/-- How a renderer comes to know windows and loses them. It is `honest` as long as it knew
all that it was given to paint. -/
structure Knows [Renderer σ] (knows : σ → WindowId → Prop) (honest : σ → Prop) : Prop where
  start : ∀ b l rate? r, honest r → honest (Renderer.start b l rate? r).2
  begins : ∀ b l rate? r, (Renderer.start b l rate? r).1 = .ok () →
    ∀ id, ¬ knows (Renderer.start b l rate? r).2 id
  windowAdded : ∀ w r, honest r → honest (Renderer.windowAdded w r)
  adds : ∀ w r id, knows (Renderer.windowAdded w r) id ↔ id = w ∨ knows r id
  windowClosed : ∀ w stays r, honest r → honest (Renderer.windowClosed w stays r)
  closes : ∀ w stays r id,
    knows (Renderer.windowClosed w stays r) id ↔ knows r id ∧ (stays = false → id ≠ w)
  windowDeleted : ∀ w r, honest r → honest (Renderer.windowDeleted w r)
  deletes : ∀ w r id, knows (Renderer.windowDeleted w r) id ↔ knows r id ∧ id ≠ w
  paint : ∀ g ws r, (∀ w ∈ ws, knows r w.id) →
    Agree knows honest r (Renderer.paint g ws r).2
  pixmapDiscarded : ∀ w r, Agree knows honest r (Renderer.pixmapDiscarded w r)
  idle : ∀ r, Agree knows honest r (Renderer.idle r)
  setOverlayVisible : ∀ on r, Agree knows honest r (Renderer.setOverlayVisible on r)
  setOverlayShape : ∀ g r, Agree knows honest r (Renderer.setOverlayShape g r)

end Renderer

namespace Compositor

open WindowStack
open Renderer (Agree Knows)

variable {δ σ : Type} {knows : σ → WindowId → Prop} {honest : σ → Prop} {c c' : Compositor δ σ}

/-- The renderer is honest, and with a scene it knows just the windows of the stack. -/
def Acquainted (knows : σ → WindowId → Prop) (honest : σ → Prop) (c : Compositor δ σ) : Prop :=
  c.fault? = none → honest c.renderer ∧
    (c.hasScene = true → ∀ id, knows c.renderer id ↔ id ∈ c.windows.ids)

/-- The renderer knows the same windows, and the stack has the same ids. -/
theorem Acquainted.of_agree (h : Acquainted knows honest c)
    (same : Agree knows honest c.renderer c'.renderer)
    (ids : ∀ id, id ∈ c'.windows.ids ↔ id ∈ c.windows.ids) (scene : c'.hasScene = c.hasScene)
    (fault : c'.fault? = c.fault?) : Acquainted knows honest c' := by
  intro sound
  obtain ⟨right, known⟩ := h (fault ▸ sound)
  refine ⟨same.honest right, fun on id => ?_⟩
  rw [same.knows id, known (scene ▸ on) id, ids id]

/-- Without a scene nothing need be known. -/
theorem Acquainted.of_off (right : c.fault? = none → honest c.renderer)
    (off : c.hasScene = false) : Acquainted knows honest c :=
  fun sound => ⟨right sound, by simp [off]⟩

variable [DisplayServer δ] [Renderer σ]

omit [Renderer σ] in
theorem fetchDamage_ids : c.fetchDamage.windows.ids = c.windows.ids := by
  have asked := visit_ids (fun w t => (requestStep_refreshed (δ := δ) w t).looks.id) c.windows.ids
    c.windows ([], c.display)
  have collected := visit_ids (fun w t => (collectStep_refreshed (δ := δ) w t).looks.id)
  rw [fetchDamage]
  exact (collected _ _ _).trans asked

omit [DisplayServer δ] in
/-- Only windows of the stack are painted. -/
theorem paintList_ids : ∀ w ∈ c.paintList, w.id ∈ c.windows.ids := by
  intro p hp
  obtain ⟨w, hw, rfl⟩ := List.mem_map.mp hp
  obtain ⟨id, _, found⟩ := List.mem_filterMap.mp (List.mem_filter.mp hw).1
  exact List.mem_map_of_mem (mem_of_get? found).1

omit [DisplayServer δ] in
theorem paint_ids : c.paint.windows.ids = c.windows.ids := by
  simp only [paint, scheduleRepaint_frame, WindowStack.ids, List.map_map]
  exact List.map_congr_left fun w _ => (painted_refreshed w).looks.id

variable (K : Knows knows honest)
include K

omit [DisplayServer δ] in
theorem paint_acquainted (scene : c.hasScene = true) (h : Acquainted knows honest c) :
    Acquainted knows honest c.paint := by
  intro sound
  have sound : c.fault? = none := by simpa using sound
  have known := (h sound).2 scene
  have painted := K.paint c.repaints c.paintList c.renderer fun w hw =>
    (known w.id).mpr (paintList_ids w hw)
  have renderer : c.paint.renderer = (Renderer.paint c.repaints c.paintList c.renderer).2 := by
    simp [paint]
  refine h.of_agree (renderer ▸ painted) (fun id => ?_) (by simp) (by simp) (by simpa using sound)
  rw [paint_ids]

theorem performCompositing_acquainted (h : Acquainted knows honest c) :
    Acquainted knows honest c.performCompositing := by
  rw [performCompositing]
  split
  · rename_i visible
    have scene : c.hasScene = true := by
      rw [overlayVisible, Bool.and_eq_true] at visible
      exact visible.1
    have fetched : Acquainted knows honest c.fetchDamage :=
      h.of_agree (Agree.refl _) (by rw [fetchDamage_ids]; exact fun _ => Iff.rfl) rfl rfl
    dsimp only
    split
    · exact fetched.of_agree (K.idle _) (fun _ => Iff.rfl) rfl rfl
    · exact paint_acquainted K scene fetched
  · exact h

theorem bypassStep_agree (now : Nanos) (eligible : List WindowId) (w : Toplevel)
    (p : BypassPass δ σ) :
    Agree knows honest p.renderer (bypassStep now eligible w p).2.renderer :=
  bypassStep_induction (P := fun _ _ r => Agree knows honest p.renderer r) now eligible w p
    (Agree.refl _) (K.pixmapDiscarded _ _) (K.pixmapDiscarded _ _)

theorem bypassPass_acquainted (h : Acquainted knows honest c) :
    Acquainted knows honest c.bypassPass := by
  have ids : c.switchWindows.2.windows.ids = c.windows.ids :=
    visit_ids (bypassStep_id c.timers.now _) _ _ _
  have agree : Agree knows honest c.renderer c.switchWindows.2.renderer := by
    refine visit_induction
      (P := fun _ _ (p : BypassPass δ σ) => Agree knows honest c.renderer p.renderer)
      (Agree.refl c.renderer) (fun _ _ _ _ _ h => h) ?_
    intro id rest s p w _ h
    exact h.trans (bypassStep_agree K c.timers.now _ w p)
  have switched : Acquainted knows honest c.switchWindows.2 :=
    h.of_agree agree (by rw [ids]; exact fun _ => Iff.rfl) (by simp) (by simp)
  rw [bypassPass_eq]
  split
  · split
    · refine switched.of_agree ?_ (by simp) (by simp) (by simp)
      simpa using K.setOverlayShape _ _
    · exact switched
  · exact h

/-! Starting. -/

/-- A start that acquires everything has just begun a scene. -/
theorem acquire_knows (right : honest c.renderer) :
    honest c.acquire.2.renderer ∧
      (c.acquire.1 = .ok () → ∀ id, ¬ knows c.acquire.2.renderer id) := by
  rw [acquire]
  dsimp only
  rcases DisplayServer.claimSelection _ c.display with ⟨e | ⟨⟩, d⟩
  · exact ⟨right, by simp⟩
  dsimp only
  have started := K.start c.options.backend (DisplayServer.layout d)
    (DisplayServer.refreshRate? d) c.renderer right
  have begun := K.begins c.options.backend (DisplayServer.layout d)
    (DisplayServer.refreshRate? d) c.renderer
  rcases answer : Renderer.start c.options.backend (DisplayServer.layout d)
    (DisplayServer.refreshRate? d) c.renderer with ⟨e | ⟨⟩, r⟩
  · rw [answer] at started
    exact ⟨started, by simp⟩
  rw [answer] at started begun
  dsimp only
  rcases DisplayServer.redirectSubwindows d with ⟨e | ⟨⟩, d'⟩
  · exact ⟨started, by simp⟩
  · exact ⟨started, fun _ => begun rfl⟩

/-! Stopping. -/

theorem untrackStep_agree (w : Toplevel) (t : δ × σ) :
    Agree knows honest t.2 (untrackStep w t).2.2 :=
  untrackStep_induction (P := fun _ _ r => Agree knows honest t.2 r) w t (fun _ => Agree.refl _)
    fun _ _ _ => K.pixmapDiscarded _ _

theorem finish_honest (right : honest c.renderer) : honest c.finish.renderer := by
  have closed (windows : List Toplevel) (r : σ) (right : honest r) :
      honest (windows.foldl closeWindow r) := by
    induction windows generalizing r with
    | nil => exact right
    | cons w rest ih =>
      refine ih _ ?_
      rw [closeWindow]
      split
      · exact K.windowDeleted _ _ right
      · exact K.windowClosed _ _ _ right
  have released : honest (c.windows.visit c.windows.ids untrackStep
      (c.display, c.windows.windows.foldl closeWindow c.renderer)).2.2 :=
    visit_induction (P := fun _ _ (t : δ × σ) => honest t.2) (closed _ _ right)
      (fun _ _ _ _ _ h => h) fun _ _ _ t w _ h => (untrackStep_agree K w t).honest h
  rw [finish, finishBy]
  split
  · rw [releaseSelection_eq]
    exact released
  · exact right

theorem finish_acquainted (h : Acquainted knows honest c) : Acquainted knows honest c.finish :=
  Acquainted.of_off (fun sound => finish_honest K (h (by simpa using sound)).1) (finish_frame c).1

/-! Changes of one window. -/

omit [DisplayServer δ] in
theorem discardPlaceholder_acquainted (id : WindowId) (h : Acquainted knows honest c) :
    Acquainted knows honest (c.discardPlaceholder id).2 := by
  rw [discardPlaceholder]
  cases c.windows.get? id with
  | none => exact h
  | some w =>
    dsimp only
    split
    · intro sound
      obtain ⟨right, known⟩ := h (by simpa using sound)
      simp only [addRepaint_frame]
      refine ⟨?_, fun on i => ?_⟩
      · split
        · exact K.windowDeleted id c.renderer right
        · exact right
      · rw [if_pos on, K.deletes, known on i, mem_remove_ids]
    · exact h

omit [DisplayServer δ] in
theorem setGeometry_acquainted (id : WindowId) (geometry : Rect) (h : Acquainted knows honest c) :
    Acquainted knows honest (c.setGeometry id geometry) := by
  rcases c.setGeometry_cases id geometry with e | ⟨old, w, r, found, same, told, e⟩
  · rw [e]
    exact h
  · rw [e]
    have agree : Agree knows honest c.renderer r := by
      rcases told with rfl | rfl
      · exact Agree.refl _
      · exact K.pixmapDiscarded _ _
    have ids : (c.windows.modify id fun _ => w).ids = c.windows.ids :=
      modify_ids fun _ _ _ => same.id.trans (mem_of_get? found).2
    refine h.of_agree (by simpa using agree) ?_ (by simp) (by simp)
    simp [ids]

omit K in
theorem damaged_acquainted (id : WindowId) (h : Acquainted knows honest c) :
    Acquainted knows honest (c.handleDisplayEvent (.damaged id)) := by
  rcases c.damaged_cases id with ⟨_, e⟩ | ⟨w, found, _, e⟩
  · rw [e]
    exact h
  · rw [e]
    have ids : (c.windows.modify id fun _ => w.marked).ids = c.windows.ids :=
      modify_ids fun _ _ _ => (mem_of_get? found).2
    refine h.of_agree (by simpa using Agree.refl _) ?_ (by simp) (by simp)
    simp [ids]

theorem dispatch_acquainted (h : Acquainted knows honest c) :
    Acquainted knows honest c.dispatchDisplayEvents.2 := by
  have taken : Acquainted knows honest
      { c with display := (DisplayServer.takeEvents c.display).2 } :=
    h.of_agree (Agree.refl _) (fun _ => Iff.rfl) rfl rfl
  refine dispatch_induction (Q := fun _ c => Acquainted knows honest c) taken ?_
  intro e _ c h
  cases e with
  | damaged id => exact damaged_acquainted id h
  | selectionCleared =>
    rcases c.selectionCleared_cases with e | e
    · rw [e]
      exact h
    · rw [e]
      exact finish_acquainted K (c := { c with selection? := none })
        (h.of_agree (Agree.refl _) (fun _ => Iff.rfl) rfl rfl)

theorem setOverlayVisible_acquainted (visible : Bool) (h : Acquainted knows honest c) :
    Acquainted knows honest (c.setOverlayVisible visible) := by
  have agree (on : Bool) := K.setOverlayVisible on c.renderer
  rcases c.setOverlayVisible_cases visible with ⟨_, e⟩ | ⟨_, _, e⟩ | ⟨_, _, e⟩
  · rw [e]
    exact h
  · rw [e]
    exact h.of_agree (by simpa using agree true) (by simp) (by simp) (by simp)
  · rw [e]
    exact h.of_agree (agree false) (fun _ => Iff.rfl) rfl rfl

section Tracking

variable {offers : List Extension} {queue : List DisplayEvent} {c : Compositor AuditedDisplay σ}

omit K in
/-- A server that offers damage objects lets every window be tracked, and it is announced. -/
theorem trackStep_adds {t : AuditedDisplay × σ} (same : t.1.server.extensions = offers)
    (able : .damage ∈ offers) {w : Toplevel} (real : w.isPlaceholder = false)
    (untracked : w.damage? = none) :
    (trackStep w t).2.2 = Renderer.windowAdded w.id t.2 ∧
      (trackStep w t).2.1.server.extensions = offers := by
  rcases t.1.createDamage_cases w.id with ⟨_, made⟩ | ⟨off, _⟩
  · rw [trackStep, Toplevel.track_of_created real untracked made]
    exact ⟨rfl, same⟩
  · simp [HeadlessDisplay.hasExtension, same, able] at off

/-- When all windows are tracked one after the other, all become known. -/
theorem trackSteps_know (able : .damage ∈ offers) {windows : List Toplevel}
    (fresh : ∀ w ∈ windows, w.isPlaceholder = false ∧ w.damage? = none) (t : AuditedDisplay × σ)
    (same : t.1.server.extensions = offers) (right : honest t.2) :
    honest (windows.foldl (fun t w => (trackStep w t).2) t).2 ∧
      ∀ id, knows (windows.foldl (fun t w => (trackStep w t).2) t).2 id ↔
        id ∈ windows.map (·.id) ∨ knows t.2 id := by
  induction windows generalizing t with
  | nil => simp [right]
  | cons w rest ih =>
    obtain ⟨real, untracked⟩ := fresh w List.mem_cons_self
    obtain ⟨added, kept⟩ := trackStep_adds same able real untracked
    obtain ⟨still, known⟩ := ih (fun v hv => fresh v (List.mem_cons_of_mem w hv)) (trackStep w t).2
      kept (added ▸ K.windowAdded w.id t.2 right)
    refine ⟨still, fun id => ?_⟩
    rw [List.foldl_cons, known id, added, K.adds, List.map_cons, List.mem_cons]
    exact or_left_comm.trans or_assoc.symm

theorem enable_acquainted (distinct : c.windows.Distinct)
    (same : c.display.server.extensions = offers) (able : .damage ∈ offers)
    (fresh : ∀ w ∈ c.windows.windows, w.isPlaceholder = false ∧ w.damage? = none)
    (right : honest c.renderer) (unknown : ∀ id, ¬ knows c.renderer id) :
    Acquainted knows honest (c.enable id) := by
  intro _
  have ids := visit_ids (fun w t => (trackStep_kept (δ := AuditedDisplay) (σ := σ) w t).id)
    c.windows.ids c.windows (c.display, c.renderer)
  have tracked := visit_state (fun w t => (trackStep_kept (δ := AuditedDisplay) (σ := σ) w t).id)
    distinct c.windows (c.display, c.renderer)
  rw [filterMap_get?_ids distinct] at tracked
  obtain ⟨still, known⟩ := trackSteps_know K able fresh (c.display, c.renderer) same right
  rw [← tracked] at still known
  simp only [enable, emit, checkBypass_frame, visitWindows, addRepaintFull_frame,
    scheduleRepaint_frame, id_eq]
  refine ⟨still, fun _ id => ?_⟩
  rw [known id, ids]
  simp [unknown id, WindowStack.ids]

theorem setup_acquainted (sound : Sound offers queue c) (h : Acquainted knows honest c) :
    Acquainted knows honest c.setup := by
  let a := ({ c with phase := .starting } : Compositor AuditedDisplay σ).acquire
  have acquired : honest c.renderer → honest a.2.renderer ∧
      (a.1 = .ok () → ∀ id, ¬ knows a.2.renderer id) :=
    acquire_knows K (c := { c with phase := .starting })
  have unbroken := c.setup_sound
  rcases c.setup_cases with ⟨_, e⟩ | ⟨_, e⟩ | ⟨off, e⟩ | ⟨off, possible, success, e⟩
  · rw [e]
    exact h
  · rw [e]
    exact h.of_agree (Agree.refl _) (fun _ => Iff.rfl) rfl rfl
  · rw [e] at unbroken ⊢
    refine Acquainted.of_off (fun sound' => ?_) (by simp)
    simpa using (acquired (h (unbroken sound')).1).1
  · have able := isPossible_damage possible sound.booked.same
    have old (w : Toplevel) (hw : w ∈ a.2.windows.windows) :
        w.isPlaceholder = false ∧ w.damage? = none :=
      sound.covered.idle off w (mem_acquire { c with phase := .starting } hw)
    have ready : Booked offers queue a.2 :=
      acquire_booked (c := { c with phase := .starting }) sound.booked
    rw [e] at unbroken ⊢
    intro sound'
    have right := acquired (h (unbroken sound')).1
    rcases a.2.activate_cases id with ⟨fault, e'⟩ | ⟨frame, e'⟩
    · rw [e'] at sound'
      simp at sound'
    · rw [e'] at sound' ⊢
      have enabled : Acquainted knows honest (({ a.2 with frame := frame } :
          Compositor AuditedDisplay σ).enable id) :=
        enable_acquainted K ready.custody.distinct ready.same able old right.1 (right.2 success)
      exact performCompositing_acquainted K enabled sound'

theorem addWindow_acquainted {w : Toplevel} (fresh : w.Fresh) (sound : Sound offers queue c)
    (h : Acquainted knows honest c) : Acquainted knows honest (c.addWindow w) := by
  have entered : Acquainted knows honest (c.entered w) := by
    intro unbroken
    obtain ⟨right, known⟩ := h unbroken
    rw [Compositor.entered, entering]
    split
    · rename_i on
      have added := (trackStep_adds (t := (c.display, c.renderer)) sound.booked.same
        (sound.covered.able on) fresh.1 fresh.blank.1).1
      rw [added]
      refine ⟨K.windowAdded w.id c.renderer right, fun _ id => ?_⟩
      rw [K.adds, known on id]
      simp [WindowStack.ids, (trackStep_kept w (c.display, c.renderer)).id, or_comm]
    · rename_i off
      exact ⟨right, fun on => (off on).elim⟩
  rcases c.addWindow_cases w with ⟨_, e⟩ | ⟨unknown, e⟩
  · rw [e]
    exact h
  · rw [e]
    split
    · exact entered.of_agree (by simpa using Agree.refl _) (by simp) (by simp) (by simp)
    · exact entered.of_agree (by simpa using Agree.refl _) (by simp) (by simp) (by simp)

theorem removeWindow_acquainted (id : WindowId) (keepPlaceholder : Bool)
    (h : Acquainted knows honest c) :
    Acquainted knows honest (c.removeWindow id keepPlaceholder).2 := by
  rcases c.removeWindow_cases id keepPlaceholder with ⟨_, e⟩ | ⟨w, found, _, e⟩
  · rw [e]
    exact h
  have left : Acquainted knows honest (c.left w keepPlaceholder) := by
    intro unbroken
    obtain ⟨right, known⟩ := h unbroken
    have kept := (c.leaving_kept w (keepPlaceholder && c.hasScene)).id
    cases on : c.hasScene with
    | false => simp [Compositor.left, leaving, on, right]
    | true =>
      rw [on, Bool.and_true] at kept
      have agree := untrackStep_agree K w
        (c.display, Renderer.windowClosed w.id keepPlaceholder c.renderer)
      simp only [Compositor.left, leaving, on, Bool.and_true, if_true] at kept ⊢
      refine ⟨agree.honest (K.windowClosed _ _ _ right), fun _ i => ?_⟩
      rw [agree.knows, K.closes, known on i]
      cases keepPlaceholder with
      | true =>
        rw [if_pos rfl, modify_ids (by exact fun _ _ _ => kept)]
        simp
      | false =>
        rw [if_neg (by simp), mem_remove_ids]
        simp
  rw [e]
  split
  · exact left.of_agree (by simpa using Agree.refl _) (by simp) (by simp) (by simp)
  · exact left.of_agree (by simpa using Agree.refl _) (by simp) (by simp) (by simp)

omit K [Renderer σ] in
theorem mem_restack_ids {s : WindowStack} (distinct : s.Distinct) (order : List WindowId)
    (id : WindowId) : id ∈ (s.restack order).ids ↔ id ∈ s.ids := by
  simp only [WindowStack.ids, List.mem_map, mem_restack distinct order]

/-- A compositor whose renderer knows the windows of the stack stays one. -/
theorem acquainted_preserved :
    Preserved fun c : Compositor AuditedDisplay σ =>
      Sound offers [] c ∧ Acquainted knows honest c where
  still := fun ⟨sound, h⟩ same armed => ⟨sound_preserved.still sound same armed,
    h.of_agree (same.renderer ▸ Agree.refl _) (by simp [same.windows]) same.scene same.fault⟩
  frame := fun {c c'} ⟨sound, h⟩ same => by
    have h : Acquainted knows honest c' :=
      h.of_agree (same.renderer ▸ Agree.refl _) (by simp [same.windows]) same.scene same.fault
    exact ⟨sound_preserved.frame sound same, performCompositing_acquainted K h⟩
  addRepaint := fun g ⟨sound, h⟩ => ⟨sound_preserved.addRepaint g sound,
    h.of_agree (by simpa using Agree.refl _) (by simp) (by simp) (by simp)⟩
  addRepaintFull := fun ⟨sound, h⟩ => ⟨sound_preserved.addRepaintFull sound,
    h.of_agree (by simpa using Agree.refl _) (by simp) (by simp) (by simp)⟩
  sweepSupport := fun busy ⟨sound, h⟩ => ⟨sound_preserved.sweepSupport busy sound,
    h.of_agree (by simpa using Agree.refl _) (by simp) (by simp) (by simp)⟩
  bypassPass := fun ⟨sound, h⟩ =>
    ⟨sound_preserved.bypassPass sound, bypassPass_acquainted K h⟩
  setup := fun ⟨sound, h⟩ => ⟨sound_preserved.setup sound, setup_acquainted K sound h⟩
  finish := fun ⟨sound, h⟩ => ⟨sound_preserved.finish sound, finish_acquainted K h⟩
  discardPlaceholder := fun id ⟨sound, h⟩ =>
    ⟨sound_preserved.discardPlaceholder id sound, discardPlaceholder_acquainted K id h⟩
  setGeometry := fun id geometry ⟨sound, h⟩ =>
    ⟨sound_preserved.setGeometry id geometry sound, setGeometry_acquainted K id geometry h⟩
  restack := fun order ⟨sound, h⟩ => ⟨sound_preserved.restack order sound,
    h.of_agree (by simpa using Agree.refl _)
      (by simpa using mem_restack_ids sound.distinct order) (by simp) (by simp)⟩
  reshape := fun id f same intact ⟨sound, h⟩ => ⟨sound_preserved.reshape id same intact sound,
    h.of_agree (Agree.refl _)
      (by simp [modify_ids fun w _ here => (same w).1.id.trans here]) rfl rfl⟩
  retouch := fun id f same intact ⟨sound, h⟩ => ⟨sound_preserved.retouch id same intact sound,
    h.of_agree (by simpa using Agree.refl _)
      (by simp [modify_ids fun w _ here => (same w).id.trans here]) (by simp) (by simp)⟩
  damaged := fun id ⟨sound, h⟩ =>
    ⟨sound_preserved.damaged id sound, damaged_acquainted id h⟩
  dispatch := fun ⟨sound, h⟩ => ⟨sound_preserved.dispatch sound, dispatch_acquainted K h⟩
  setOverlayVisible := fun visible ⟨sound, h⟩ => ⟨sound_preserved.setOverlayVisible visible sound,
    setOverlayVisible_acquainted K visible h⟩

omit K in
theorem setClientState_acquainted (id : WindowId) (state : ClientState)
    (h : Acquainted knows honest c) : Acquainted knows honest (c.setClientState id state).2 := by
  rcases c.setClientState_cases id state with e | ⟨w, old, _, _, e⟩
  · rw [e]
    exact h
  have restated : Acquainted knows honest (c.restated id state) := by
    have ids : (c.restated id state).windows.ids = c.windows.ids :=
      modify_ids fun _ _ here => here
    exact h.of_agree (Agree.refl _) (by simp [ids]) rfl rfl
  rw [e]
  split
  · exact restated.of_agree (by simpa using Agree.refl _) (by simp) (by simp) (by simp)
  · split
    · exact restated.of_agree (by simpa using Agree.refl _) (by simp) (by simp) (by simp)
    · exact restated.of_agree (by simpa using Agree.refl _) (by simp) (by simp) (by simp)

theorem step_acquainted {ω : Type} (change : ω → DisplayChange) (renderer : ω → σ → σ)
    (outside : ∀ o r, Agree knows honest r (renderer o r)) (k : Step ω) (fresh : k.AddsFresh)
    (sound : Sound offers [] c) (h : Acquainted knows honest c) :
    Acquainted knows honest (c.step (DisplayChange.auditedWorld change renderer) k) := by
  by_cases inner : k.Inner
  · exact ((acquainted_preserved K).step _ inner ⟨sound, h⟩).2
  · cases k with
    | addWindow w => exact addWindow_acquainted K fresh sound h
    | removeWindow id keepPlaceholder => exact removeWindow_acquainted K id keepPlaceholder h
    | setClientState id state => exact setClientState_acquainted id state h
    | outside o => exact h.of_agree (outside o c.renderer) (fun _ => Iff.rfl) rfl rfl
    | _ => exact (inner trivial).elim

/-- In every reachable compositor the renderer has been honest, and with a scene it knows just the
windows of the stack. -/
theorem run_acquainted {ω : Type} (change : ω → DisplayChange) (renderer : ω → σ → σ)
    (outside : ∀ o r, Agree knows honest r (renderer o r)) (layout : Layout) (r : σ)
    (right : honest r) (options : CompositingOptions) {steps : List (Step ω)}
    (fresh : ∀ k ∈ steps, k.AddsFresh) :
    Acquainted knows honest (auditedRun change renderer offers layout r options steps) := by
  refine (run_preserves _ (P := fun c => Sound offers [] c ∧ Acquainted knows honest c)
    ?_ ?_ fresh).2
  · rintro c k adds ⟨sound, h⟩
    exact ⟨step_sound change renderer k adds sound,
      step_acquainted K change renderer outside k adds sound h⟩
  · exact ⟨new_sound layout r options, fun _ => ⟨right, by simp [Compositor.new]⟩⟩

end Tracking

end Compositor

/-! A renderer that keeps a record. -/

def SceneCall.learn (known : List WindowId) : SceneCall → List WindowId
  | .created => []
  | .added w => if known.contains w then known else known ++ [w]
  | .closed w stays => if stays then known else known.filter (· != w)
  | .deleted w => known.filter (· != w)
  | .discarded _ | .idle | .painted _ _ => known

namespace SceneCall

variable {known : List WindowId} {w id : WindowId}

theorem mem_learn_added : id ∈ (added w).learn known ↔ id = w ∨ id ∈ known := by
  rw [learn]
  split
  · rename_i there
    have there : w ∈ known := by simpa using there
    exact ⟨Or.inr, fun either => either.elim (fun same => same ▸ there) fun h => h⟩
  · simp [or_comm]

theorem mem_learn_deleted : id ∈ (deleted w).learn known ↔ id ∈ known ∧ id ≠ w := by
  simp [learn]

theorem mem_learn_closed {stays : Bool} :
    id ∈ (closed w stays).learn known ↔ id ∈ known ∧ (stays = false → id ≠ w) := by
  cases stays <;> simp [learn]

end SceneCall

theorem HeadlessScene.create_windows {overlay : WindowId} {b : Backend} {l : Layout}
    {scene : HeadlessScene} (created : create overlay b l = .ok scene) : scene.windows = [] := by
  rw [create] at created
  split at created
  · simp at created
  · split at created
    · simp at created
    · rw [← Except.ok.inj created]
      rfl

theorem HeadlessRenderer.windowAdded_learn (w : WindowId) (r : HeadlessRenderer) :
    (Renderer.windowAdded w r).scene.windows = (SceneCall.added w).learn r.scene.windows := by
  dsimp only [Renderer.windowAdded, onScene, HeadlessScene.windowAdded, SceneCall.learn]
  split <;> rfl

theorem HeadlessRenderer.windowClosed_learn (w : WindowId) (stays : Bool) (r : HeadlessRenderer) :
    (Renderer.windowClosed w stays r).scene.windows =
      (SceneCall.closed w stays).learn r.scene.windows := by
  dsimp only [Renderer.windowClosed, onScene, HeadlessScene.windowClosed, SceneCall.learn]
  split <;> rfl

/-- The windows that a renderer was told about and has not lost. -/
def knownAfter (calls : List SceneCall) : List WindowId := calls.foldl SceneCall.learn []

def KnownPainted (calls : List SceneCall) : Prop :=
  ∀ before damage windows after, calls = before ++ .painted damage windows :: after →
    ∀ w ∈ windows, w.id ∈ knownAfter before

theorem KnownPainted.snoc {calls : List SceneCall} (h : KnownPainted calls) {call : SceneCall}
    (last : ∀ damage windows, call = .painted damage windows →
      ∀ w ∈ windows, w.id ∈ knownAfter calls) : KnownPainted (calls ++ [call]) :=
  EachPaint.snoc h last

namespace Recorded

/-- The record agrees with the scene, and each paint was of windows that were known by then. -/
structure Honest (r : Recorded HeadlessRenderer) : Prop where
  exact : knownAfter r.calls = r.renderer.scene.windows
  painted : KnownPainted r.calls

theorem Honest.tell {r : Recorded HeadlessRenderer} (h : Honest r) {call : SceneCall}
    {f : HeadlessRenderer → HeadlessRenderer}
    (learnt : (f r.renderer).scene.windows = call.learn r.renderer.scene.windows)
    (last : ∀ damage windows, call = .painted damage windows →
      ∀ w ∈ windows, w.id ∈ r.renderer.scene.windows) : Honest (r.tell call f) where
  exact := by
    have learns : knownAfter (r.calls ++ [call]) = call.learn (knownAfter r.calls) := by
      simp [knownAfter]
    rw [Recorded.tell, learns, h.exact, learnt]
  painted := h.painted.snoc (h.exact ▸ last)

/-- The renderer that draws nothing knows the windows of its scene. -/
theorem knows : Renderer.Knows
    (fun (r : Recorded HeadlessRenderer) id => id ∈ r.renderer.scene.windows) Honest := by
  -- only a paint can be dishonest
  have silent {r : Recorded HeadlessRenderer} (h : Honest r) (call : SceneCall)
      (f : HeadlessRenderer → HeadlessRenderer)
      (learnt : (f r.renderer).scene.windows = call.learn r.renderer.scene.windows)
      (other : ∀ damage windows, call ≠ .painted damage windows) : Honest (r.tell call f) :=
    h.tell learnt fun damage windows same => (other damage windows same).elim
  constructor
  case start =>
    intro b l rate? r h
    dsimp only [Renderer.start, Recorded.start, HeadlessRenderer.start]
    rcases created : HeadlessScene.create r.renderer.overlay b l with e | scene
    · exact h
    · have empty := HeadlessScene.create_windows created
      exact silent h .created (fun r => { r with scene := scene }) empty (by simp)
  case begins =>
    intro b l rate? r
    dsimp only [Renderer.start, Recorded.start, HeadlessRenderer.start]
    rcases created : HeadlessScene.create r.renderer.overlay b l with e | scene
    · simp
    · simp [HeadlessScene.create_windows created]
  case windowAdded =>
    exact fun w r h => silent h (.added w) _ (HeadlessRenderer.windowAdded_learn w r.renderer)
      (by simp)
  case adds =>
    intro w r id
    have learnt := HeadlessRenderer.windowAdded_learn w r.renderer
    exact learnt ▸ SceneCall.mem_learn_added
  case windowClosed =>
    exact fun w stays r h => silent h (.closed w stays) _
      (HeadlessRenderer.windowClosed_learn w stays r.renderer) (by simp)
  case closes =>
    intro w stays r id
    have learnt := HeadlessRenderer.windowClosed_learn w stays r.renderer
    exact learnt ▸ SceneCall.mem_learn_closed
  case windowDeleted =>
    exact fun w r h => silent h (.deleted w) (Renderer.windowDeleted w) rfl (by simp)
  case deletes =>
    intro w r id
    exact SceneCall.mem_learn_deleted
  case paint =>
    intro g ws r known
    refine ⟨fun h => ?_, fun _ => Iff.rfl⟩
    refine h.tell (f := fun r => (Renderer.paint g ws r).2) rfl ?_
    rintro _ _ ⟨⟩
    exact known
  case pixmapDiscarded =>
    intro w r
    refine ⟨fun h => ?_, fun _ => Iff.rfl⟩
    exact silent h (.discarded w) (Renderer.pixmapDiscarded w) rfl (by simp)
  case idle =>
    exact fun r => ⟨fun h => silent h .idle Renderer.idle rfl (by simp), fun _ => Iff.rfl⟩
  case setOverlayVisible =>
    exact fun on r => ⟨fun h => ⟨h.exact, h.painted⟩, fun _ => Iff.rfl⟩
  case setOverlayShape =>
    exact fun g r => ⟨fun h => ⟨h.exact, h.painted⟩, fun _ => Iff.rfl⟩

end Recorded

namespace Compositor

/-- In every reachable compositor with a scene, the scene has just the windows of the stack. They
are those that it was told about and has not lost, and so are all that it was ever given to
paint. -/
theorem scene_knows_stack {ω : Type} (change : ω → DisplayChange) (offers : List Extension)
    (layout : Layout) (overlay : WindowId) (paintTime : Nat → Nanos)
    (options : CompositingOptions) {steps : List (Step ω)} (fresh : ∀ k ∈ steps, k.AddsFresh)
    {c : Compositor HeadlessDisplay HeadlessRenderer}
    (reached : c = (Compositor.new (.new offers layout) (.new overlay paintTime) options).run
      (DisplayChange.world change fun _ r => r) steps) :
    (c.hasScene = true → ∀ id, id ∈ c.renderer.scene.windows ↔ id ∈ c.windows.ids) ∧
      ∃ told : Compositor HeadlessDisplay (Recorded HeadlessRenderer),
        told = (Compositor.new (.new offers layout) (.new overlay paintTime) options).recorded.run
          (DisplayChange.world change fun _ r => r).recorded steps ∧
        told.unrecorded = c ∧
        knownAfter told.renderer.calls = c.renderer.scene.windows ∧
        KnownPainted told.renderer.calls := by
  let silent : Recorded HeadlessRenderer := ⟨.new overlay paintTime, []⟩
  let audited : Compositor AuditedDisplay (Recorded HeadlessRenderer) :=
    auditedRun change (fun _ r => r) offers layout silent options steps
  have honest : Recorded.Honest silent := ⟨rfl, by simp [KnownPainted, silent]⟩
  have acquainted : Acquainted (fun r id => id ∈ r.renderer.scene.windows) Recorded.Honest
      audited :=
    run_acquainted Recorded.knows change (fun _ r => r) (fun _ r => Renderer.Agree.refl r) layout
      silent honest options fresh
  have told : audited.erase =
      (Compositor.new (.new offers layout) (.new overlay paintTime) options).recorded.run
        (DisplayChange.world change fun _ r => r).recorded steps :=
    auditedRun_erase change (fun _ r => r) offers layout silent options steps
  have same : audited.erase.unrecorded = c := by
    rw [told, reached]
    exact run_unrecorded _ _ steps
  have sound : c.fault? = none := by
    rw [reached]
    exact (run_cut change _ _ options fun k member => (fresh k member).plain).1
  subst same
  obtain ⟨⟨exact, painted⟩, known⟩ := acquainted sound
  exact ⟨known, audited.erase, told, rfl, exact, painted⟩

/-- A window leaves, its placeholder goes after a frame, the window comes again and another one
leaves. -/
def revolvingSteps : List (Step DisplayChange) :=
  [.addWindow (.client ⟨1⟩ (.ofCoords 0 0 10 10) ⟨true, false, false⟩), .setup,
    .addWindow (.unmanaged ⟨2⟩ (.ofCoords 20 0 10 10)), .removeWindow ⟨1⟩ true,
    .fireTimer 1000000000, .discardPlaceholder ⟨1⟩,
    .addWindow (.client ⟨1⟩ (.ofCoords 0 0 10 10) ⟨true, false, false⟩), .removeWindow ⟨2⟩ true]

def revolving : Compositor HeadlessDisplay HeadlessRenderer :=
  (Compositor.new (.new Extension.all (.single 1920 1080)) (.new ⟨9⟩ fun _ => 0)
    CompositingOptions.standard).run (DisplayChange.world id fun _ r => r) revolvingSteps

theorem revolving_known :
    revolving.windows.windows.map (fun w => (w.id, w.isPlaceholder)) =
      [(⟨2⟩, true), (⟨1⟩, false)] ∧
    revolving.hasScene = true ∧
    ∀ id, id ∈ revolving.renderer.scene.windows ↔ id ∈ revolving.windows.ids := by
  have fresh : ∀ k ∈ revolvingSteps, k.AddsFresh := by
    simp [revolvingSteps, Step.AddsFresh]
  have known := (scene_knows_stack id Extension.all (.single 1920 1080) ⟨9⟩ (fun _ => 0)
    CompositingOptions.standard fresh (c := revolving) rfl).1
  exact ⟨rfl, rfl, known rfl⟩

def settledSteps : List (Step DisplayChange) :=
  [.setup, .addWindow (.client ⟨7⟩ (.ofCoords 0 0 10 10) ⟨false, false, false⟩)]

def settled : Compositor HeadlessDisplay HeadlessRenderer :=
  (Compositor.new (.new Extension.all (.single 1920 1080)) (.new ⟨9⟩ fun _ => 0)
    CompositingOptions.standard).run (DisplayChange.world id fun _ r => r) settledSteps

/-- The client goes. A copy of it that is added then still holds a damage object, so the scene is
not told of it. -/
theorem settled_copy_unknown :
    ∃ w, settled.windows.get? ⟨7⟩ = some w ∧
      ∃ c, c = settled.run (DisplayChange.world id fun _ r => r)
          [.removeWindow ⟨7⟩ false, .addWindow w] ∧
        c.hasScene = true ∧ c.windows.ids = [⟨7⟩] ∧ c.renderer.scene.windows = [] :=
  ⟨_, rfl, _, rfl, rfl, rfl, rfl⟩

end Compositor

end Compositing
