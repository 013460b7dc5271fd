import Compositing.Proofs.Evolution
import Compositing.Proofs.Pixels
import Compositing.Proofs.Telling

/-!
# What the scenes have seen of a window

A window is announced to the renderer when its damage object is made, and all of it counts as
damaged from then on. What the scenes were told since says whether it was painted. As long as it
was not, its damage is only added to: this is kept by every turn of a window in a visit, by a
paint, and when other windows are announced or dismissed.
-/

namespace Compositing

namespace Toplevel

def AllDamaged (w : Toplevel) : Prop :=
  ∀ p, w.localRect.contains p = true → w.damageRegion.contains p = true

/-- The window is tracked as before, and if all of it was damaged, all of it is. -/
structure Intact (w w' : Toplevel) : Prop where
  id : w'.id = w.id
  damage : w'.damage? = w.damage?
  whole : w.damage?.isSome = true → w.AllDamaged → w'.AllDamaged

theorem Intact.refl (w : Toplevel) : Intact w w := ⟨rfl, rfl, fun _ h => h⟩

theorem Intact.trans (u v w : Toplevel) (first : Intact u v) (second : Intact v w) :
    Intact u w where
  id := second.id.trans first.id
  damage := second.damage.trans first.damage
  whole := fun tracked h =>
    second.whole (first.damage.symm ▸ tracked) (first.whole tracked h)

theorem Same.intact {w w' : Toplevel} (same : Same w w') (damage : SameDamage w w') :
    Intact w w' := by
  refine ⟨same.id, same.damage, fun _ h p inside => ?_⟩
  rw [localRect, damage.1] at inside
  rw [damage.2]
  exact h p inside

theorem allDamaged_addDamageFull {w : Toplevel} (tracked : w.damage?.isSome = true) :
    w.addDamageFull.AllDamaged := by
  rcases w.addDamageFull_cases with ⟨untracked, _⟩ | ⟨_, e⟩
  · simp [untracked] at tracked
  · rw [e]
    intro p inside
    rw [Region.contains_ofRect]
    exact inside

theorem intact_addDamageFull (w : Toplevel) : Intact w w.addDamageFull :=
  ⟨w.addDamageFull_same.id, w.addDamageFull_same.damage,
    fun tracked _ => allDamaged_addDamageFull tracked⟩

theorem allDamaged_trackedBy (handle : DamageHandle) (w : Toplevel) :
    (w.trackedBy handle).AllDamaged := by
  intro p inside
  rw [trackedBy, Region.contains_ofRect]
  exact inside

end Toplevel

def WindowPaint.AllDamaged (p : WindowPaint) : Prop :=
  ∀ q, p.geometry.atOrigin.contains q = true → p.damage.contains q = true

/-! What the scenes have seen of a window. -/

/-- What became of a window since its damage object was made, if it has one. -/
inductive Sighting where
  | untracked
  /-- No paint was of the window since then. -/
  | unseen
  | seen
deriving DecidableEq

/-- What a scene has seen of a window once it was told one thing more. A window is announced when
its damage object was made. -/
def SceneCall.sight (id : WindowId) (sighting : Sighting) : SceneCall → Sighting
  | .created => .untracked
  | .added w => if w = id then .unseen else sighting
  | .closed w _ | .deleted w => if w = id then .untracked else sighting
  | .painted _ windows =>
    if sighting = .unseen ∧ windows.any (·.id == id) then .seen else sighting
  | .discarded _ | .idle => sighting

def sightingAfter (calls : List SceneCall) (id : WindowId) : Sighting :=
  calls.foldl (SceneCall.sight id) .untracked

/-- Each paint of a window that was not painted since its damage object was made covers it. -/
def FirstPaintsWhole (calls : List SceneCall) : Prop :=
  EachPaint (fun before _ windows =>
    ∀ p ∈ windows, sightingAfter before p.id = .unseen → p.AllDamaged) calls

theorem sightingAfter_snoc (calls : List SceneCall) (call : SceneCall) (id : WindowId) :
    sightingAfter (calls ++ [call]) id = call.sight id (sightingAfter calls id) := by
  simp [sightingAfter]

theorem sightingAfter_painted (calls : List SceneCall) (damage : Region)
    (windows : List WindowPaint) (id : WindowId) :
    sightingAfter (calls ++ [.painted damage windows]) id =
      if sightingAfter calls id = .unseen ∧ windows.any (·.id == id)
        then .seen else sightingAfter calls id :=
  sightingAfter_snoc calls _ id

/-- A paint makes no window known. -/
theorem known_painted (calls : List SceneCall) (damage : Region) (windows : List WindowPaint)
    (id : WindowId) : sightingAfter (calls ++ [.painted damage windows]) id ≠ .untracked ↔
      sightingAfter calls id ≠ .untracked := by
  rw [sightingAfter_painted]
  split
  · rename_i met
    simp [met.1]
  · exact Iff.rfl

theorem FirstPaintsWhole.snoc {calls : List SceneCall} (h : FirstPaintsWhole calls)
    {call : SceneCall} (last : ∀ damage windows, call = .painted damage windows →
      ∀ p ∈ windows, sightingAfter calls p.id = .unseen → p.AllDamaged) :
    FirstPaintsWhole (calls ++ [call]) :=
  EachPaint.snoc h last

structure SameSights (calls calls' : List SceneCall) : Prop where
  whole : FirstPaintsWhole calls → FirstPaintsWhole calls'
  same : ∀ id, sightingAfter calls' id = sightingAfter calls id

namespace SameSights

variable {calls calls' calls'' : List SceneCall}

theorem refl (calls : List SceneCall) : SameSights calls calls := ⟨fun h => h, fun _ => rfl⟩

theorem trans (first : SameSights calls calls') (second : SameSights calls' calls'') :
    SameSights calls calls'' :=
  ⟨fun h => second.whole (first.whole h), fun id => (second.same id).trans (first.same id)⟩

/-- That what is held of a window is out of date is no paint. -/
theorem of_discards {σ : Type} {r r' : Recorded σ}
    (told : Recorded.Tells SceneCall.IsDiscard r r') : SameSights r.calls r'.calls := by
  refine told.induction (P := SameSights r.calls) (fun calls call discard so => ?_) (refl _)
  cases call with
  | discarded w =>
    exact so.trans ⟨fun h => h.snoc (by simp), fun id => sightingAfter_snoc calls _ id⟩
  | _ => exact discard.elim

theorem idle (calls : List SceneCall) : SameSights calls (calls ++ [.idle]) :=
  ⟨fun h => h.snoc (by simp), fun id => sightingAfter_snoc calls _ id⟩

end SameSights

namespace WindowStack

open Toplevel (Intact)

/-- The tracked windows of the two stacks are the same, and those that were damaged all over
are so still. -/
structure Persists (s s' : WindowStack) : Prop where
  old : ∀ w' ∈ s'.windows, w'.damage?.isSome = true → ∃ w ∈ s.windows, Intact w w'
  kept : ∀ w ∈ s.windows, w.damage?.isSome = true → ∃ w' ∈ s'.windows, Intact w w'

variable {s s' : WindowStack}

theorem Persists.refl (s : WindowStack) : Persists s s :=
  ⟨fun w hw _ => ⟨w, hw, Intact.refl w⟩, fun w hw _ => ⟨w, hw, Intact.refl w⟩⟩

theorem Becomes.persists (h : Becomes Intact s s') : Persists s s' := by
  obtain ⟨g, shape, intact⟩ := h
  constructor
  · intro w' hw' _
    obtain ⟨w, hw, rfl⟩ := List.mem_map.mp (shape ▸ hw')
    exact ⟨w, hw, intact w hw⟩
  · intro w hw _
    exact ⟨g w, shape ▸ List.mem_map_of_mem hw, intact w hw⟩

theorem persists_modify (s : WindowStack) (id : WindowId) {f : Toplevel → Toplevel}
    (intact : ∀ w ∈ s.windows, w.id = id → Intact w (f w)) : Persists s (s.modify id f) :=
  (Becomes.modify Intact.refl s id intact).persists

theorem persists_replace (distinct : s.Distinct) {id : WindowId} {w u : Toplevel}
    (found : s.get? id = some w) (intact : Intact w u) :
    Persists s (s.modify id fun _ => u) :=
  persists_modify s id fun v hv here => by
    rw [eq_of_get? distinct found hv here]
    exact intact

theorem persists_restack (distinct : s.Distinct) (order : List WindowId) :
    Persists s (s.restack order) :=
  ⟨fun w hw _ => ⟨w, (mem_restack distinct order).mp hw, Intact.refl w⟩,
    fun w hw _ => ⟨w, (mem_restack distinct order).mpr hw, Intact.refl w⟩⟩

/-- The scenes have been told of just the tracked windows, and those of which they have seen
nothing are damaged all over. -/
structure Presented (s : WindowStack) (calls : List SceneCall) : Prop where
  whole : FirstPaintsWhole calls
  fresh : ∀ w ∈ s.windows, w.damage?.isSome = true → sightingAfter calls w.id = .unseen →
    w.AllDamaged
  told : ∀ w ∈ s.windows, w.damage?.isSome = true → sightingAfter calls w.id ≠ .untracked
  there : ∀ id, sightingAfter calls id ≠ .untracked →
    ∃ w ∈ s.windows, w.id = id ∧ w.damage?.isSome = true

namespace Presented

variable {calls calls' : List SceneCall}

/-- Nothing is tracked, and of nothing the scenes were told. -/
theorem of_untracked (whole : FirstPaintsWhole calls)
    (bare : ∀ w ∈ s.windows, w.damage? = none)
    (nothing : ∀ id, sightingAfter calls id = .untracked) : Presented s calls where
  whole := whole
  fresh := fun w hw tracked => by simp [bare w hw] at tracked
  told := fun w hw tracked => by simp [bare w hw] at tracked
  there := fun id known => (known (nothing id)).elim

theorem nothing (h : Presented s calls) (bare : ∀ w ∈ s.windows, w.damage? = none)
    (id : WindowId) : sightingAfter calls id = .untracked := by
  by_contra known
  obtain ⟨w, hw, _, tracked⟩ := h.there id known
  simp [bare w hw] at tracked

theorem persist (h : Presented s calls) (windows : Persists s s')
    (sights : SameSights calls calls') : Presented s' calls' := by
  refine ⟨sights.whole h.whole, ?_, ?_, ?_⟩
  · intro w' hw' tracked unseen
    obtain ⟨w, hw, intact⟩ := windows.old w' hw' tracked
    rw [intact.damage] at tracked
    rw [sights.same, intact.id] at unseen
    exact intact.whole tracked (h.fresh w hw tracked unseen)
  · intro w' hw' tracked
    obtain ⟨w, hw, intact⟩ := windows.old w' hw' tracked
    rw [intact.damage] at tracked
    rw [sights.same, intact.id]
    exact h.told w hw tracked
  · intro id known
    rw [sights.same] at known
    obtain ⟨w, hw, rfl, tracked⟩ := h.there id known
    obtain ⟨w', hw', intact⟩ := windows.kept w hw tracked
    exact ⟨w', hw', intact.id, intact.damage ▸ tracked⟩

/-- A window is tracked and announced. -/
theorem announce (h : Presented s calls) {u : Toplevel}
    (there : ∀ v, v ∈ s'.windows ↔ v = u ∨ (v ∈ s.windows ∧ v.id ≠ u.id))
    (tracked : u.damage?.isSome = true) (whole : u.AllDamaged) :
    Presented s' (calls ++ [.added u.id]) := by
  have sight (id : WindowId) : sightingAfter (calls ++ [.added u.id]) id =
      if u.id = id then .unseen else sightingAfter calls id := sightingAfter_snoc calls _ id
  refine ⟨h.whole.snoc (by simp), ?_, ?_, ?_⟩
  · intro v hv held unseen
    rcases (there v).mp hv with rfl | ⟨old, other⟩
    · exact whole
    · rw [sight, if_neg (Ne.symm other)] at unseen
      exact h.fresh v old held unseen
  · intro v hv held
    rw [sight]
    rcases (there v).mp hv with rfl | ⟨old, other⟩
    · simp
    · rw [if_neg (Ne.symm other)]
      exact h.told v old held
  · intro id known
    rw [sight] at known
    split at known
    · rename_i here
      exact ⟨u, (there u).mpr (Or.inl rfl), here, tracked⟩
    · rename_i other
      obtain ⟨v, hv, rfl, held⟩ := h.there id known
      exact ⟨v, (there v).mpr (Or.inr ⟨hv, fun same => other same.symm⟩), rfl, held⟩

/-- A window is tracked no more, and the scene is told so. -/
theorem dismiss (h : Presented s calls) {id : WindowId} {call : SceneCall}
    (takes : call = .deleted id ∨ ∃ stays, call = .closed id stays)
    (old : ∀ v ∈ s'.windows, v.damage?.isSome = true → v ∈ s.windows ∧ v.id ≠ id)
    (kept : ∀ v ∈ s.windows, v.damage?.isSome = true → v.id ≠ id → v ∈ s'.windows) :
    Presented s' (calls ++ [call]) := by
  have sight (i : WindowId) : sightingAfter (calls ++ [call]) i =
      if id = i then .untracked else sightingAfter calls i := by
    rw [sightingAfter_snoc]
    rcases takes with rfl | ⟨stays, rfl⟩ <;> rfl
  have silent (damage : Region) (windows : List WindowPaint) :
      call ≠ .painted damage windows := by
    rcases takes with rfl | ⟨stays, rfl⟩ <;> simp
  refine ⟨h.whole.snoc fun damage windows same => (silent damage windows same).elim, ?_, ?_, ?_⟩
  · intro v hv held unseen
    obtain ⟨before, other⟩ := old v hv held
    rw [sight, if_neg (Ne.symm other)] at unseen
    exact h.fresh v before held unseen
  · intro v hv held
    obtain ⟨before, other⟩ := old v hv held
    rw [sight, if_neg (Ne.symm other)]
    exact h.told v before held
  · intro i known
    rw [sight] at known
    split at known
    · simp at known
    · rename_i other
      obtain ⟨v, hv, rfl, held⟩ := h.there i known
      exact ⟨v, kept v hv held (Ne.symm other), rfl, held⟩

/-- All that is ready for painting is painted, and cleared of its damage. -/
theorem paint (h : Presented s calls) (distinct : s.Distinct) {damage : Region}
    {windows : List WindowPaint} (listed : ∀ p, p ∈ windows ↔
      ∃ w ∈ s.windows, w.readyForPainting = true ∧ w.paintInfo = p) :
    Presented ⟨s.windows.map Compositor.painted⟩ (calls ++ [.painted damage windows]) := by
  have known := known_painted calls damage windows
  refine ⟨h.whole.snoc ?_, ?_, ?_, ?_⟩
  · rintro _ _ ⟨⟩ p hp unseen
    obtain ⟨w, hw, _, rfl⟩ := (listed p).mp hp
    have announced : sightingAfter calls w.id ≠ .untracked := by
      rw [show sightingAfter calls w.id = .unseen from unseen]
      simp
    obtain ⟨v, hv, same, tracked⟩ := h.there w.id announced
    obtain rfl := eq_of_id_eq distinct hv hw same
    exact h.fresh v hv tracked unseen
  · intro w' hw' tracked unseen
    obtain ⟨w, hw, rfl⟩ := List.mem_map.mp hw'
    rw [(Compositor.painted_refreshed w).damage] at tracked
    rw [(Compositor.painted_refreshed w).looks.id, sightingAfter_painted] at unseen
    split at unseen
    · simp at unseen
    · rename_i passed
      -- the window was not in the frame, so its damage is left
      have waits : w.readyForPainting = false := by
        by_contra ready
        have painted : w.paintInfo ∈ windows :=
          (listed w.paintInfo).mpr ⟨w, hw, by simpa using ready, rfl⟩
        exact passed ⟨unseen, List.any_eq_true.mpr ⟨w.paintInfo, painted, by
          simp [Toplevel.paintInfo]⟩⟩
      rw [Compositor.painted, if_neg (by simp [waits])]
      exact h.fresh w hw tracked unseen
  · intro w' hw' tracked
    obtain ⟨w, hw, rfl⟩ := List.mem_map.mp hw'
    rw [(Compositor.painted_refreshed w).damage] at tracked
    rw [(Compositor.painted_refreshed w).looks.id]
    exact (known w.id).mpr (h.told w hw tracked)
  · intro id seen
    obtain ⟨w, hw, rfl, tracked⟩ := h.there id ((known id).mp seen)
    exact ⟨Compositor.painted w, List.mem_map_of_mem hw, (Compositor.painted_refreshed w).looks.id,
      (Compositor.painted_refreshed w).damage ▸ tracked⟩

end Presented

end WindowStack

namespace Compositor

open Toplevel (Intact SameDamage AllDamaged)
open WindowStack

variable {δ σ : Type} [DisplayServer δ] [Renderer σ]

/-! The turns of the windows in a visit. -/

omit [Renderer σ] in
theorem requestStep_intact (w : Toplevel) (t : List WindowId × δ) :
    Intact w (requestStep w t).1 := by
  rw [requestStep]
  rcases w.requestDamage_cases t.2 with
    ⟨_, e⟩ | ⟨_, _, ⟨_, e⟩ | ⟨_, _, _, _, _, e⟩ | ⟨_, _, _, _, _, e⟩⟩
  all_goals
    rw [e]
    exact ⟨rfl, rfl, fun _ h => h⟩

omit [Renderer σ] in
/-- Fetched damage is added to what is known. -/
theorem collectStep_intact (w : Toplevel) (d : δ) : Intact w (collectStep w d).1 := by
  rw [collectStep]
  rcases w.collectDamage_cases d with ⟨_, e⟩ | ⟨fetch, _, e⟩
  · rw [e]
    exact Intact.refl w
  · rw [e]
    refine ⟨rfl, rfl, fun _ h p inside => ?_⟩
    rw [Region.contains_union, Bool.or_eq_true]
    exact Or.inl (h p inside)

theorem bypassStep_intact (now : Nanos) (eligible : List WindowId) (w : Toplevel)
    (p : BypassPass δ σ) : Intact w (bypassStep now eligible w p).1 := by
  have redirected : Intact w { w with unredirected := false } := ⟨rfl, rfl, fun _ h => h⟩
  exact bypassStep_induction (P := fun u _ _ => Intact w u) now eligible w p (Intact.refl w)
    ⟨rfl, rfl, fun _ h => h⟩ (redirected.trans _ _ _ (Toplevel.intact_addDamageFull _))

theorem trackStep_presented {s : WindowStack} (distinct : s.Distinct) {id : WindowId}
    {w : Toplevel} (found : s.get? id = some w) {t : δ × Recorded σ}
    (h : Presented s t.2.calls) :
    Presented (s.modify id fun _ => (trackStep w t).1) (trackStep w t).2.2.calls := by
  rcases trackStep_told w t with ⟨same, calls⟩ | ⟨handle, tracked, calls⟩
  · rw [same, calls, replace_self distinct found]
    exact h
  · have here := (mem_of_get? found).2
    rw [tracked, calls]
    refine h.announce (u := w.trackedBy handle) (fun v => ?_) rfl (w.allDamaged_trackedBy handle)
    rw [mem_replace found, ← here]
    rfl

end Compositor

end Compositing
