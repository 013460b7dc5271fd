import Compositing.Proofs.Damage
import Compositing.Proofs.Draining
import Compositing.Proofs.Flaky
import Compositing.Proofs.Takedown

/-!
# Frames to which requests are denied

The books of the damage objects do not depend on which windows are damaged, so they are in order
on a flaky server too, but for notices that were of no avail. So a frame empties the objects that
it asks for and that are not denied to it, adds what they held to their windows, and leaves the
others as they are. After a frame no window is marked, whatever was denied.
-/

namespace Compositing

open WindowStack

/-! The books do not say which windows are damaged. -/

section Unmarking

variable {s s' : WindowStack} (unmarked : Toplevel.AllUnmarked s.windows s'.windows)
include unmarked

theorem holds_unmark {handle : DamageHandle} {id : WindowId} :
    s'.Holds handle id ↔ s.Holds handle id := by
  constructor
  · rintro ⟨w', hw', rfl, holds⟩
    obtain ⟨w, hw, same⟩ := unmarked.old hw'
    obtain ⟨id, _, damage, _⟩ := same.keeps
    exact ⟨w, hw, id.symm, damage.symm.trans holds⟩
  · rintro ⟨w, hw, rfl, holds⟩
    obtain ⟨w', hw', same⟩ := unmarked.stays hw
    obtain ⟨id, _, damage, _⟩ := same.keeps
    exact ⟨w', hw', id, damage.trans holds⟩

theorem bare_unmark (bare : ∀ w ∈ s.windows, w.isPlaceholder = true → w.damage? = none) :
    ∀ w ∈ s'.windows, w.isPlaceholder = true → w.damage? = none := by
  intro w' hw' placeholder
  obtain ⟨w, hw, same⟩ := unmarked.old hw'
  obtain ⟨_, kind, damage, _⟩ := same.keeps
  exact damage.trans (bare w hw (kind.symm.trans placeholder))

theorem awaited_unmark {replies : List (DamageFetch × DamageReply)}
    (awaited : ∀ r ∈ replies,
      ∃ w ∈ s.windows, w.damage?.isSome = true ∧ w.pendingFetch? = some r.1) :
    ∀ r ∈ replies, ∃ w ∈ s'.windows, w.damage?.isSome = true ∧ w.pendingFetch? = some r.1 := by
  intro r hr
  obtain ⟨w, hw, tracked, awaits⟩ := awaited r hr
  obtain ⟨w', hw', same⟩ := unmarked.stays hw
  obtain ⟨_, _, damage, fetch⟩ := same.keeps
  exact ⟨w', hw', damage ▸ tracked, fetch.trans awaits⟩

theorem Custody.unmark {d : HeadlessDisplay} (h : Custody s d) : Custody s' d where
  distinct := unmarked.distinct h.distinct
  once := h.once
  objects := by
    intro o ho
    obtain ⟨w, hw, holds⟩ := h.objects o ho
    obtain ⟨w', hw', _, holds'⟩ := (holds_unmark unmarked).mpr ⟨w, hw, rfl, holds⟩
    exact ⟨w', hw', holds'⟩
  replies := awaited_unmark unmarked h.replies
  bare := bare_unmark unmarked h.bare

/-- Of what a window has lost its mark for no notice need be on its way any more. -/
theorem Ledger.unmark {queue : List DisplayEvent} {d : AuditedDisplay} (h : Ledger queue s d) :
    Ledger (queue ++ s.windows.map fun w => .damaged w.id) s' d where
  distinct := unmarked.distinct h.distinct
  owned := fun handle id => (h.owned handle id).trans (holds_unmark unmarked).symm
  once := h.once
  below := h.below
  numbered := h.numbered
  counted := h.counted
  bare := bare_unmark unmarked h.bare
  awaited := awaited_unmark unmarked h.awaited
  announced := by
    intro o ho _
    obtain ⟨w, hw, same, _⟩ := (h.owned o.handle o.window).mp ⟨o, ho, rfl, rfl⟩
    have listed : .damaged o.window ∈ s.windows.map fun w => DisplayEvent.damaged w.id :=
      List.mem_map.mpr ⟨w, hw, by rw [same]⟩
    exact Or.inl (List.mem_append_left _ (List.mem_append_right _ listed))
  strays := h.strays

end Unmarking

theorem Compositor.Sound.unmark {σ : Type} {offers : List Extension} {queue : List DisplayEvent}
    {c : Compositor AuditedDisplay σ} {windows : List Toplevel}
    (unmarked : Toplevel.AllUnmarked c.windows.windows windows) (h : c.Sound offers queue) :
    Sound offers (queue ++ c.windows.windows.map fun w => .damaged w.id)
      { c with windows := ⟨windows⟩ } where
  distinct := Toplevel.AllUnmarked.distinct unmarked h.distinct
  booked := ⟨h.booked.same, h.booked.custody.unmark unmarked,
    fun left => (h.booked.books left).unmark unmarked⟩
  covered := by
    refine h.covered.of_old rfl rfl fun w' hw' => ?_
    obtain ⟨w, hw, same⟩ := unmarked.old hw'
    obtain ⟨_, kind, damage, _⟩ := same.keeps
    exact ⟨w, hw, kind, damage⟩

theorem Toplevel.damage_of_dirty {w : Toplevel} {handle : DamageHandle}
    (asked : w.dirty? = some handle) : w.damage? = some handle := by
  rw [dirty?] at asked
  split at asked
  · exact asked
  · simp at asked

namespace Ledger

variable {queue : List DisplayEvent} {s : WindowStack} {d : AuditedDisplay}

/-- No object is held by two windows. -/
theorem holder_eq (h : Ledger queue s d) {v w : Toplevel} (hv : v ∈ s.windows)
    (hw : w ∈ s.windows) {handle : DamageHandle} (first : v.damage? = some handle)
    (second : w.damage? = some handle) : v = w := by
  obtain ⟨o, ho, same, watched⟩ := (h.owned handle v.id).mpr ⟨v, hv, rfl, first⟩
  obtain ⟨o', ho', same', watched'⟩ := (h.owned handle w.id).mpr ⟨w, hw, rfl, second⟩
  have one := h.object_eq ho ho' (same.trans same'.symm)
  exact eq_of_id_eq h.distinct hv hw (by rw [← watched, ← watched', one])

/-- No object is asked for twice in a frame. -/
theorem dirty_nodup (h : Ledger queue s d) : (s.windows.filterMap (·.dirty?)).Nodup := by
  refine List.pairwise_filterMap.mpr ?_
  refine (List.Nodup.of_map _ h.distinct).imp_of_mem ?_
  rintro v w hv hw other handle asked _ asked' rfl
  exact other (h.holder_eq hv hw (Toplevel.damage_of_dirty asked) (Toplevel.damage_of_dirty asked'))

end Ledger

/-! What an object holds was drawn to its window. -/

namespace DisplayChange

def Draws (place : WindowId → Rect) : DisplayChange → Prop
  | .reportDamage id rects => ∀ q ∈ rects, q.isEmpty = true ∨ q.Within (place id)
  | _ => True

/-- Nothing but a report changes the objects, and no number is given out. -/
theorem apply_books (change : DisplayChange) (d : HeadlessDisplay) :
    (change.apply d).issued = d.issued ∧
      ((∃ id rects, change = .reportDamage id rects) ∨ (change.apply d).damages = d.damages) := by
  cases change with
  | reportDamage id rects =>
    refine ⟨?_, Or.inl ⟨id, rects, rfl⟩⟩
    rw [apply]
    rcases d.reportDamage_cases id rects with ⟨_, e⟩ | ⟨_, _, _, _, _, _, e, _⟩
    · rw [e]
    · rw [e]
      rfl
  | stealSelection =>
    rw [apply, HeadlessDisplay.stealSelection]
    split
    · exact ⟨rfl, Or.inr rfl⟩
    · exact ⟨rfl, Or.inr rfl⟩
  | setRootProperty a =>
    rw [apply, HeadlessDisplay.setRootProperty]
    split
    · exact ⟨rfl, Or.inr rfl⟩
    · exact ⟨rfl, Or.inr rfl⟩
  | refuseSelection | setRefreshRate => exact ⟨rfl, Or.inr rfl⟩

end DisplayChange

namespace HeadlessDisplay

/-- All that the objects hold lies inside the places of their windows. -/
def Inside (place : WindowId → Rect) (d : HeadlessDisplay) : Prop :=
  ∀ o ∈ d.damages, ∀ q ∈ o.pending.rects, q.Within (place o.window)

structure Fades (d d' : HeadlessDisplay) : Prop where
  issued : d.issued ≤ d'.issued
  objects : ∀ o ∈ d'.damages, o.pending.isEmpty = false → o ∈ d.damages

namespace Fades

open Ledger

variable {d d' : HeadlessDisplay}

theorem refl (d : HeadlessDisplay) : Fades d d := ⟨Nat.le_refl _, fun _ ho _ => ho⟩

theorem of_untouched {u u' : AuditedDisplay} (h : Fades d u.server) (same : Untouched u u') :
    Fades d u'.server where
  issued := same.issued ▸ h.issued
  objects := same.damages ▸ h.objects

theorem inside {place : WindowId → Rect} (h : Fades d d') (inside : d.Inside place) :
    d'.Inside place := by
  intro o ho q hq
  have filled : o.pending.isEmpty = false := by
    rw [Region.isEmpty, List.isEmpty_eq_false_iff_exists_mem]
    exact ⟨q, hq⟩
  exact inside o (h.objects o ho filled) q hq

theorem createDamage (h : Fades d d') (w : WindowId) : Fades d (d'.createDamage w).2 := by
  rcases d'.createDamage_cases w with ⟨_, e⟩ | ⟨_, e⟩
  · rw [e]
    refine ⟨?_, fun o ho filled => ?_⟩
    · rw [created_issued]
      exact Nat.le_succ_of_le h.issued
    · rcases List.mem_append.mp ho with old | new
      · exact h.objects o (List.mem_filter.mp old).1 filled
      · rw [List.mem_singleton.mp new] at filled
        simp [Region.isEmpty, Region.empty] at filled
  · rw [e]
    exact h

theorem destroyDamage (h : Fades d d') (handle : DamageHandle) :
    Fades d (d'.destroyDamage handle) := by
  have issued : (d'.destroyDamage handle).issued = d'.issued := by
    rw [HeadlessDisplay.destroyDamage]
    split
    · rfl
    · rfl
  refine ⟨issued ▸ h.issued, fun o ho filled => ?_⟩
  rw [destroyDamage_damages] at ho
  exact h.objects o (List.mem_filter.mp ho).1 filled

/-- A frame takes what it asks for, and leaves the rest. -/
theorem harvest (h : Fades d d') (windows : List Toplevel) :
    Fades d (Compositing.harvest windows d').2 := by
  refine ⟨?_, fun o ho filled => ?_⟩
  · rw [harvest_issued]
    exact Nat.le_trans h.issued (askAll_issued windows d')
  · obtain ⟨next, replies, requests, flushes, shape⟩ := harvest_shape windows d'
    rw [shape] at ho
    obtain ⟨o', ho', rfl⟩ := List.mem_map.mp ho
    rw [drained] at filled ⊢
    split at filled
    · simp [Region.isEmpty, Region.empty] at filled
    · rename_i kept
      rw [if_neg kept]
      exact h.objects o' ho' filled

/-- No request adds to what an object holds. -/
theorem upholds (d : HeadlessDisplay) :
    DisplayServer.Upholds fun d' : Flaky HeadlessDisplay => Fades d d'.server where
  claimSelection := fun s d' h => h.of_untouched (untouched_claim s ⟨d'.server, []⟩)
  releaseSelection := fun s d' h => h.of_untouched (untouched_release s ⟨d'.server, []⟩)
  redirectSubwindows := fun {d'} h => h.of_untouched (untouched_redirectSubwindows ⟨d'.server, []⟩)
  unredirectSubwindows := fun {d'} h =>
    h.of_untouched (untouched_unredirectSubwindows ⟨d'.server, []⟩)
  redirectWindow := fun w d' h => h.of_untouched (untouched_redirectWindow w ⟨d'.server, []⟩)
  unredirectWindow := fun w d' h => h.of_untouched (untouched_unredirectWindow w ⟨d'.server, []⟩)
  createDamage := fun w _ h => h.createDamage w
  destroyDamage := fun handle _ h => h.destroyDamage handle
  deleteRootProperty := fun a d' h => h.of_untouched (untouched_deleteRootProperty a ⟨d'.server, []⟩)
  setOpacity := fun w o d' h => h.of_untouched (untouched_setOpacity w o ⟨d'.server, []⟩)
  takeEvents := fun h => ⟨h.issued, h.objects⟩

theorem upheldByFrames (d : HeadlessDisplay) :
    DisplayServer.UpheldByFrames fun d' : Flaky HeadlessDisplay => Fades d d'.server := by
  intro windows d' h
  have behind := congrArg Prod.snd (harvest_muted windows d')
  dsimp only at behind ⊢
  rw [← behind]
  exact h.harvest _

end Fades

end HeadlessDisplay

/-! The books on a flaky server. -/

namespace Flaky

def unaudited (d : Flaky AuditedDisplay) : Flaky HeadlessDisplay :=
  ⟨d.server.server, d.fails, d.asked⟩

theorem unaudited_forgets : DisplayServer.Forgets unaudited := by
  constructor
  case requestDamage =>
    intro handle d
    show Flaky.requestDamage handle d.unaudited =
      Prod.map id unaudited (Flaky.requestDamage handle d)
    have same : d.unaudited.fails d.unaudited.asked = d.fails d.asked := rfl
    rw [Flaky.requestDamage, Flaky.requestDamage, same]
    split
    · rfl
    · rfl
  all_goals intros; rfl

end Flaky

namespace Compositor

variable {ω σ : Type} [Renderer σ]

/-- The books of a flaky server are in order but for notices that failed requests have made up
for. -/
theorem run_books (change : ω → DisplayChange) (renderer : ω → σ → σ) (offers : List Extension)
    (layout : Layout) (fails : Nat → Bool) (r : σ) (options : CompositingOptions)
    {steps : List (Step ω)} (fresh : ∀ k ∈ steps, k.AddsFresh)
    {c : Compositor (Flaky HeadlessDisplay) σ}
    (reached : c = (Compositor.new ⟨.new offers layout, fails, 0⟩ r options).run
      (DisplayChange.world change renderer).flaky steps)
    (left : c.display.server.issued < UInt32.size - 1) :
    c.windows.Calm ∧ ∃ lost, Ledger lost c.windows ⟨c.display.server, []⟩ := by
  let d : Flaky AuditedDisplay := ⟨.ofServer (.new offers layout), fails, 0⟩
  let a := (Compositor.new d r options).run (DisplayChange.auditedWorld change renderer).flaky steps
  have outside : World.Forgets (DisplayChange.auditedWorld change renderer).flaky
      (DisplayChange.world change renderer).flaky Flaky.unaudited id :=
    ⟨fun _ _ => rfl, fun _ _ => rfl⟩
  have same : c = a.forget Flaky.unaudited id :=
    reached.trans ((Compositor.new d r options).run_forget Flaky.unaudited_forgets
      Renderer.Forgets.id outside steps)
  subst same
  have keeps (lost : List DisplayEvent) :
      Preserved fun c : Compositor AuditedDisplay σ => Sound offers lost c := sound_preserved
  obtain ⟨lost, sound⟩ : ∃ lost, Sound offers lost a.behind := by
    refine run_flaky (Preserved.exists keeps) ?_ ?_ _ ?_ d r options
      ⟨[], new_sound layout r options⟩ fresh
    · rintro c windows unmarked ⟨lost, sound⟩
      exact ⟨_, sound.unmark unmarked⟩
    · rintro c ⟨lost, sound⟩ off w hw
      exact (sound.covered.idle off w hw).2
    · rintro c k adds ⟨lost, sound⟩
      exact ⟨lost, step_sound change renderer k adds sound⟩
  have books := sound.booked.books left
  have audit : a.behind.display = ⟨a.display.server.server, []⟩ :=
    congrArg (AuditedDisplay.mk a.display.server.server) books.strays
  rw [audit] at books
  exact ⟨run_calm _ _ _ _ fresh, lost, books⟩

variable {place : WindowId → Rect} {c : Compositor (Flaky HeadlessDisplay) σ}

/-- Only others add to what an object holds. -/
theorem step_fades (W : World ω (Flaky HeadlessDisplay) σ) {k : Step ω} (fresh : k.AddsFresh)
    (own : ∀ o, k ≠ .outside o) (distinct : c.windows.Distinct) (calm : c.windows.Calm) :
    HeadlessDisplay.Fades c.display.server (c.step W k).display.server := by
  let quiet : World ω (Flaky HeadlessDisplay) σ := ⟨fun _ d => d, W.renderer⟩
  have same : c.step W k = c.step quiet k := by
    cases k with
    | outside o => exact (own o rfl).elim
    | _ => rfl
  rw [same]
  exact (step_served (HeadlessDisplay.Fades.upholds c.display.server)
    (HeadlessDisplay.Fades.upheldByFrames c.display.server) quiet (fun _ _ h => h) fresh
    ⟨distinct, calm, HeadlessDisplay.Fades.refl _⟩).server

/-- What holds between two calls, where everything is drawn in its place, as long as there are
numbers left. -/
structure Consistent (place : WindowId → Rect) (c : Compositor (Flaky HeadlessDisplay) σ) :
    Prop where
  calm : c.windows.Calm
  books : ∃ lost, Ledger lost c.windows ⟨c.display.server, []⟩
  inside : c.display.server.Inside place
  left : c.display.server.issued < UInt32.size - 1

variable (change : ω → DisplayChange) (renderer : ω → σ → σ)

theorem step_issued {k : Step ω} (fresh : k.AddsFresh) (distinct : c.windows.Distinct)
    (calm : c.windows.Calm) :
    c.display.server.issued ≤
      (c.step (DisplayChange.world change renderer).flaky k).display.server.issued := by
  cases k with
  | outside o => exact Nat.le_of_eq ((change o).apply_books c.display.server).1.symm
  | _ => exact (step_fades _ fresh (fun _ => by simp) distinct calm).issued

theorem run_issued {steps : List (Step ω)} (fresh : ∀ k ∈ steps, k.AddsFresh)
    (distinct : c.windows.Distinct) (calm : c.windows.Calm) :
    c.display.server.issued ≤
      (c.run (DisplayChange.world change renderer).flaky steps).display.server.issued := by
  induction steps generalizing c with
  | nil => exact Nat.le_refl _
  | cons k rest ih =>
    have adds := fresh k List.mem_cons_self
    refine Nat.le_trans (step_issued change renderer adds distinct calm) ?_
    exact ih (fun k' hk => fresh k' (List.mem_cons_of_mem k hk))
      (step_distinct _ k distinct) (step_calm _ adds distinct calm)

/-- What is drawn in its place stays in its place. -/
theorem step_inside {k : Step ω} (fresh : k.AddsFresh)
    (drawn : ∀ o, k = .outside o → (change o).Draws place) (h : Consistent place c) :
    (c.step (DisplayChange.world change renderer).flaky k).display.server.Inside place := by
  obtain ⟨lost, books⟩ := h.books
  by_cases own : ∀ o, k ≠ .outside o
  · exact (step_fades _ fresh own books.distinct h.calm).inside h.inside
  · obtain ⟨o, rfl⟩ := not_forall_not.mp own
    have draws := drawn o rfl
    show ((change o).apply c.display.server).Inside place
    rcases ((change o).apply_books c.display.server).2 with ⟨id, rects, e⟩ | e
    · rw [e] at draws ⊢
      rw [DisplayChange.apply]
      rcases c.display.server.reportDamage_cases id rects with
        ⟨_, e⟩ | ⟨object, ho, pending, events, window, added, e, _⟩
      · rw [e]
        exact h.inside
      · rw [e]
        intro v' hv'
        obtain ⟨v, hv, rfl⟩ := List.mem_map.mp hv'
        rw [HeadlessDisplay.refill]
        split
        · rename_i same
          obtain rfl := books.object_eq hv ho (by simpa using same)
          rw [added, window]
          exact Region.foldl_addRect_within (window ▸ h.inside v hv) draws
        · exact h.inside v hv
    · rw [HeadlessDisplay.Inside, e]
      exact h.inside

theorem run_consistent (offers : List Extension) (layout : Layout) (fails : Nat → Bool) (r : σ)
    (options : CompositingOptions) {steps : List (Step ω)} (fresh : ∀ k ∈ steps, k.AddsFresh)
    (drawn : ∀ o, .outside o ∈ steps → (change o).Draws place)
    {c : Compositor (Flaky HeadlessDisplay) σ}
    (reached : c = (Compositor.new ⟨.new offers layout, fails, 0⟩ r options).run
      (DisplayChange.world change renderer).flaky steps)
    (left : c.display.server.issued < UInt32.size - 1) : Consistent place c := by
  induction steps using List.reverseRecOn generalizing c with
  | nil =>
    obtain ⟨calm, books⟩ := run_books change renderer offers layout fails r options fresh reached
      left
    subst reached
    refine ⟨calm, books, ?_, left⟩
    simp [HeadlessDisplay.Inside, run, Compositor.new, HeadlessDisplay.new]
  | append_singleton before k ih =>
    obtain ⟨calm, books⟩ := run_books change renderer offers layout fails r options fresh reached
      left
    refine ⟨calm, books, ?_, left⟩
    obtain ⟨earlier, last⟩ := List.forall_mem_append.mp fresh
    have adds := last k (List.mem_singleton.mpr rfl)
    let b := (Compositor.new ⟨.new offers layout, fails, 0⟩ r options).run
      (DisplayChange.world change renderer).flaky before
    obtain rfl : c = b.step (DisplayChange.world change renderer).flaky k := by
      rw [reached, run_snoc]
    have more := step_issued change renderer adds (run_distinct _ _ r options before)
      (run_calm _ _ r options earlier : b.windows.Calm)
    refine step_inside change renderer adds ?_ (ih earlier ?_ rfl (Nat.lt_of_le_of_lt more left))
    · rintro o rfl
      exact drawn o (List.mem_append_right _ (List.mem_singleton.mpr rfl))
    · exact fun o ho => drawn o (List.mem_append_left _ ho)

/-! Notices mark windows. -/

section Notices

variable {δ : Type} [DisplayServer δ] {c : Compositor δ σ}

/-- Stopping leaves no window tracked. -/
theorem finish_untracked (distinct : c.windows.Distinct) (scene : c.hasScene = true) :
    ∀ w ∈ c.finish.windows.windows, w.damage? = none := by
  obtain ⟨d, r, s, shape, ⟨t, rfl⟩, _⟩ := c.finish_scene scene
  rw [shape, visit_untrackStep_windows distinct (List.Perm.refl _)]
  intro w hw
  obtain ⟨v, _, rfl⟩ := List.mem_map.mp (List.mem_filter.mp hw).1
  exact v.untracked_damage

/-- A window that is tracked once an event was handled is marked by it if it is about the window,
and nothing else has happened. -/
theorem handleDisplayEvent_tracked (distinct : c.windows.Distinct) (e : DisplayEvent)
    {w' : Toplevel} (hw' : w' ∈ (c.handleDisplayEvent e).windows.windows)
    (tracked : w'.damage?.isSome = true) :
    (c.handleDisplayEvent e).display = c.display ∧ ∃ w ∈ c.windows.windows, w'.id = w.id ∧
      w'.damage? = w.damage? ∧
      (w'.isDamaged = true ↔ w.isDamaged = true ∨ e = .damaged w.id) := by
  cases e with
  | damaged id =>
    rcases c.damaged_cases id with ⟨unknown, e⟩ | ⟨w, found, _, e⟩
    · rw [e] at hw' ⊢
      refine ⟨rfl, w', hw', rfl, rfl, ?_⟩
      have other : id ≠ w'.id := by
        rintro rfl
        simp [unknown w' (get?_of_mem distinct hw')] at tracked
      simp [other]
    · rw [e] at hw' ⊢
      simp only [scheduleRepaint_frame, true_and] at hw' ⊢
      rcases (mem_replace found).mp hw' with rfl | ⟨old, other⟩
      · obtain ⟨hw, rfl⟩ := mem_of_get? found
        exact ⟨w, hw, rfl, rfl, by simp [Toplevel.marked]⟩
      · exact ⟨w', old, rfl, rfl, by simp [Ne.symm other]⟩
  | selectionCleared =>
    rcases c.selectionCleared_cases with e | e
    · rw [e] at hw' ⊢
      exact ⟨rfl, w', hw', rfl, rfl, by simp⟩
    · rw [e] at hw' ⊢
      by_cases scene : c.hasScene = true
      · have gone := finish_untracked (c := { c with selection? := none }) distinct scene w' hw'
        simp [gone] at tracked
      · have still := finish_of_off (c := { c with selection? := none }) (by simpa using scene)
        rw [still] at hw' ⊢
        exact ⟨rfl, w', hw', rfl, rfl, by simp⟩

/-- A window that is tracked once the waiting events were handled is marked by those that are
about the window, and nothing else has happened but that they were taken. -/
theorem dispatch_tracked (distinct : c.windows.Distinct) {w' : Toplevel}
    (hw' : w' ∈ c.dispatchDisplayEvents.2.windows.windows)
    (tracked : w'.damage?.isSome = true) :
    c.dispatchDisplayEvents.2.display = (DisplayServer.takeEvents c.display).2 ∧
      ∃ w ∈ c.windows.windows, w'.id = w.id ∧ w'.damage? = w.damage? ∧
        (w'.isDamaged = true ↔ w.isDamaged = true ∨
          .damaged w.id ∈ (DisplayServer.takeEvents c.display).1) := by
  let Q : List DisplayEvent → Compositor δ σ → Prop := fun queue b =>
    b.windows.Distinct ∧ ∀ w' ∈ b.windows.windows, w'.damage?.isSome = true →
      b.display = (DisplayServer.takeEvents c.display).2 ∧
      ∃ w ∈ c.windows.windows, w'.id = w.id ∧ w'.damage? = w.damage? ∧
        ∃ done, done ++ queue = (DisplayServer.takeEvents c.display).1 ∧
          (w'.isDamaged = true ↔ w.isDamaged = true ∨ .damaged w.id ∈ done)
  have handled : Q [] c.dispatchDisplayEvents.2 := by
    refine dispatch_induction ⟨distinct, fun w hw _ => ?_⟩ ?_
    · exact ⟨rfl, w, hw, rfl, rfl, [], rfl, by simp⟩
    · rintro e rest b ⟨distinct, before⟩
      have evolved := (evolves_preserved distinct).handleDisplayEvent e (Evolves.refl distinct)
      refine ⟨evolved.distinct, fun w' hw' tracked => ?_⟩
      obtain ⟨same, v, hv, id, damage, marks⟩ :=
        handleDisplayEvent_tracked distinct e hw' tracked
      obtain ⟨server, w, hw, id', damage', done, all, marks'⟩ := before v hv (damage ▸ tracked)
      refine ⟨same.trans server, w, hw, id.trans id', damage.trans damage', done ++ [e], ?_, ?_⟩
      · rw [← all, List.append_assoc]
        rfl
      · rw [marks, marks', id', List.mem_append, List.mem_singleton, or_assoc,
          eq_comm (a := e)]
  obtain ⟨server, w, hw, id, damage, done, all, marks⟩ := handled.2 w' hw' tracked
  rw [List.append_nil] at all
  exact ⟨server, w, hw, id, damage, all ▸ marks⟩

end Notices

/-! Frames. -/

def denied (c : Compositor (Flaky HeadlessDisplay) σ) : List DamageHandle :=
  Compositing.denied c.display.fails c.display.asked c.windows.windows

def granted (c : Compositor (Flaky HeadlessDisplay) σ) : List DamageHandle :=
  c.muted.windows.windows.filterMap (·.dirty?)

variable {c : Compositor (Flaky HeadlessDisplay) σ}

omit [Renderer σ] in
theorem muted_windows (h : c.Consistent place) :
    c.muted.windows.windows = c.windows.windows.map (Toplevel.mutedBy c.denied) := by
  obtain ⟨lost, books⟩ := h.books
  exact muted_eq books.dirty_nodup c.display.fails c.display.asked

omit [Renderer σ] in
/-- What is asked for and not denied is granted. -/
theorem mem_granted (h : c.Consistent place) {handle : DamageHandle} :
    handle ∈ c.granted ↔
      (∃ w ∈ c.windows.windows, w.dirty? = some handle) ∧ handle ∉ c.denied := by
  rw [granted, muted_windows h, List.filterMap_map, List.mem_filterMap]
  constructor
  · rintro ⟨w, hw, asked⟩
    obtain ⟨asked, free⟩ := Toplevel.dirty?_mutedBy.mp asked
    exact ⟨⟨w, hw, asked⟩, free⟩
  · rintro ⟨⟨w, hw, asked⟩, free⟩
    exact ⟨w, hw, Toplevel.dirty?_mutedBy.mpr ⟨asked, free⟩⟩

def obtained (c : Compositor (Flaky HeadlessDisplay) σ) (w : Toplevel) : Region :=
  c.display.server.due (w.mutedBy c.denied)

omit [Renderer σ] in
/-- A frame empties the objects that are granted to it, and adds what they held to the windows. -/
theorem fetchDamage_frame (h : c.Consistent place)
    (left : c.fetchDamage.display.server.issued < UInt32.size - 1) :
    c.fetchDamage.windows.windows = c.windows.windows.map (fun w => w.folded (c.obtained w)) ∧
      c.fetchDamage.display.server.damages =
        c.display.server.damages.map (HeadlessDisplay.drained c.granted) ∧
      c.fetchDamage.display.server.events = c.display.server.events := by
  obtain ⟨lost, books⟩ := h.books
  have behind := fetchDamage_behind books.distinct h.calm
  rw [fetchDamage_eq (muted_distinct books.distinct) (muted_calm h.calm)] at behind
  have unmarked := muted_unmarked c.display.fails c.display.asked c.windows.windows
  have muted : Ledger _ c.muted.windows ⟨c.display.server, []⟩ := books.unmark unmarked
  have apart : c.granted.Nodup := muted.dirty_nodup
  have server : c.fetchDamage.display.server =
      (harvest c.muted.windows.windows c.display.server).2 := congrArg (·.display) behind
  have windows : c.fetchDamage.windows.windows = List.zipWith Toplevel.folded
      c.muted.windows.windows (harvest c.muted.windows.windows c.display.server).1 :=
    congrArg (·.windows.windows) behind
  rw [server] at left ⊢
  obtain ⟨next, replies, requests, flushes, shape⟩ :=
    HeadlessDisplay.harvest_shape c.muted.windows.windows c.display.server
  refine ⟨?_, by rw [shape]; rfl, by rw [shape]⟩
  rw [windows, HeadlessDisplay.harvest_regions apart books.numbered left, List.zipWith_map_right,
    List.zipWith_self, muted_windows h, List.map_map]
  refine List.map_congr_left fun w _ => ?_
  rw [Function.comp_apply, obtained, Toplevel.folded_mutedBy]

/-- Painting takes no mark off or on. -/
theorem performCompositing_visible (visible : c.overlayVisible = true) :
    c.performCompositing.display = c.fetchDamage.display ∧ ∃ look : Toplevel → Toplevel,
      c.performCompositing.windows.windows = c.fetchDamage.windows.windows.map look ∧
      ∀ w, (look w).id = w.id ∧ (look w).damage? = w.damage? ∧
        (look w).isDamaged = w.isDamaged := by
  rw [performCompositing, if_pos visible]
  dsimp only
  split
  · exact ⟨rfl, id, (List.map_id _).symm, fun _ => ⟨rfl, rfl, rfl⟩⟩
  · refine ⟨by simp, painted, by simp [paint], fun w => ?_⟩
    have same := painted_refreshed w
    refine ⟨same.looks.id, same.damage, ?_⟩
    rw [painted]
    split
    · rfl
    · rfl

/-- After a frame no window is marked. -/
theorem frame_window (h : c.Consistent place) (visible : c.overlayVisible = true)
    (left : c.performCompositing.display.server.issued < UInt32.size - 1) {w' : Toplevel}
    (hw' : w' ∈ c.performCompositing.windows.windows) :
    ∃ w ∈ c.windows.windows, w'.id = w.id ∧ w'.damage? = w.damage? ∧ w'.isDamaged = false := by
  obtain ⟨server, look, painted, same⟩ := performCompositing_visible visible
  rw [server] at left
  rw [painted, (fetchDamage_frame h left).1, List.map_map] at hw'
  obtain ⟨w, hw, rfl⟩ := List.mem_map.mp hw'
  obtain ⟨id, damage, mark⟩ := same (w.folded (c.obtained w))
  exact ⟨w, hw, id, damage, mark⟩

theorem frame_server (h : c.Consistent place) (visible : c.overlayVisible = true)
    (left : c.performCompositing.display.server.issued < UInt32.size - 1) :
    c.performCompositing.display.server.damages =
        c.display.server.damages.map (HeadlessDisplay.drained c.granted) ∧
      c.performCompositing.display.server.events = c.display.server.events := by
  obtain ⟨server, _⟩ := performCompositing_visible visible
  rw [server] at left ⊢
  exact (fetchDamage_frame h left).2

end Compositor

end Compositing
