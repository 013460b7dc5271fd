import Compositing.Proofs.Ledger

/-!
# What the server keeps is in somebody's custody

Each damage object of the server has the handle that some window holds, and each reply is
awaited by a tracked window. Unlike the books this does not rest on numbers never being given out
twice: an object that takes over a number takes the place of the one that had it. So once no
window is tracked, the server keeps nothing.
-/

namespace Compositing

open WindowStack

/-- Windows answer for all that the server keeps, and placeholders for nothing. -/
structure Custody (s : WindowStack) (d : HeadlessDisplay) : Prop where
  distinct : s.Distinct
  once : (d.damages.map (·.handle)).Nodup
  objects : ∀ o ∈ d.damages, ∃ w ∈ s.windows, w.damage? = some o.handle
  replies : ∀ r ∈ d.replies,
    ∃ w ∈ s.windows, w.damage?.isSome = true ∧ w.pendingFetch? = some r.1
  bare : ∀ w ∈ s.windows, w.isPlaceholder = true → w.damage? = none

namespace Custody

variable {s s' : WindowStack} {d d' : HeadlessDisplay}

/-- Once no window is tracked, the server keeps nothing. -/
theorem nothing_kept (h : Custody s d) (untracked : ∀ w ∈ s.windows, w.damage? = none) :
    d.damages = [] ∧ d.replies = [] := by
  constructor
  · refine List.eq_nil_iff_forall_not_mem.mpr fun o ho => ?_
    obtain ⟨w, hw, holds⟩ := h.objects o ho
    simp [untracked w hw] at holds
  · refine List.eq_nil_iff_forall_not_mem.mpr fun r hr => ?_
    obtain ⟨w, hw, tracked, _⟩ := h.replies r hr
    simp [untracked w hw] at tracked

/-- The server keeps nothing new. -/
theorem of_server (h : Custody s d)
    (handles : d'.damages.map (·.handle) = d.damages.map (·.handle))
    (replies : ∀ r ∈ d'.replies, r ∈ d.replies) : Custody s d' where
  distinct := h.distinct
  once := handles ▸ h.once
  objects := by
    intro o ho
    have known : o.handle ∈ d.damages.map (·.handle) := handles ▸ List.mem_map_of_mem ho
    obtain ⟨o', ho', same⟩ := List.mem_map.mp known
    exact same ▸ h.objects o' ho'
  replies := fun r hr => h.replies r (replies r hr)
  bare := h.bare

/-- The tracked windows stay the same. -/
theorem retouch (h : Custody s d) (same : Retouches s s') : Custody s' d where
  distinct := same.distinct
  once := h.once
  objects := by
    intro o ho
    obtain ⟨w, hw, holds⟩ := h.objects o ho
    obtain ⟨w', hw', alike⟩ := same.stays w hw (by simp [holds])
    exact ⟨w', hw', alike.damage.trans holds⟩
  replies := by
    intro r hr
    obtain ⟨w, hw, tracked, awaited⟩ := h.replies r hr
    obtain ⟨w', hw', alike⟩ := same.stays w hw tracked
    exact ⟨w', hw', alike.damage ▸ tracked, alike.awaited.trans awaited⟩
  bare := by
    intro w' hw' placeholder
    by_contra tracked
    have tracked : w'.damage?.isSome = true := Option.isSome_iff_ne_none.mpr tracked
    obtain ⟨w, hw, alike⟩ := same.old w' hw' tracked
    have untracked := h.bare w hw (alike.placeholder ▸ placeholder)
    simp [alike.damage, untracked] at tracked

/-! One window and the server change together. -/

/-- The window that takes its turn answers for what is new, and another for what it gives up. -/
theorem turn (h : Custody s d) {id : WindowId} {w u : Toplevel} (found : s.get? id = some w)
    (same : u.id = id) (bare : u.isPlaceholder = true → u.damage? = none)
    (once : (d'.damages.map (·.handle)).Nodup)
    (objects : ∀ o ∈ d'.damages, u.damage? = some o.handle ∨
      ((∃ o' ∈ d.damages, o'.handle = o.handle) ∧ w.damage? ≠ some o.handle))
    (replies : ∀ r ∈ d'.replies, (u.damage?.isSome = true ∧ u.pendingFetch? = some r.1) ∨
      (r ∈ d.replies ∧ (w.damage?.isSome = true → w.pendingFetch? ≠ some r.1))) :
    Custody (s.modify id fun _ => u) d' where
  distinct := h.distinct.modify fun _ _ _ => same
  once := once
  objects := by
    intro o ho
    rcases objects o ho with holds | ⟨⟨o', ho', handle⟩, other⟩
    · exact ⟨u, (mem_replace found).mpr (Or.inl rfl), holds⟩
    · obtain ⟨v, hv, holds⟩ := h.objects o' ho'
      have elsewhere : v.id ≠ id := by
        intro here
        rw [eq_of_get? h.distinct found hv here, handle] at holds
        exact other holds
      exact ⟨v, (mem_replace found).mpr (Or.inr ⟨hv, elsewhere⟩), handle ▸ holds⟩
  replies := by
    intro r hr
    rcases replies r hr with ⟨tracked, awaited⟩ | ⟨old, other⟩
    · exact ⟨u, (mem_replace found).mpr (Or.inl rfl), tracked, awaited⟩
    · obtain ⟨v, hv, tracked, awaited⟩ := h.replies r old
      have elsewhere : v.id ≠ id := by
        intro here
        rw [eq_of_get? h.distinct found hv here] at tracked awaited
        exact other tracked awaited
      exact ⟨v, (mem_replace found).mpr (Or.inr ⟨hv, elsewhere⟩), tracked, awaited⟩
  bare := by
    intro v hv placeholder
    rcases (mem_replace found).mp hv with rfl | ⟨hv, _⟩
    · exact bare placeholder
    · exact h.bare v hv placeholder

/-- An untracked window gets an object, if need be in the place of one with its number. -/
theorem create (h : Custody s d) {id : WindowId} {w u : Toplevel} (found : s.get? id = some w)
    (untracked : w.damage? = none) (same : u.id = id) (real : u.isPlaceholder = false)
    (holds : u.damage? = some ⟨d.nextNumber⟩) (window : WindowId) :
    Custody (s.modify id fun _ => u) (d.created window) := by
  refine h.turn found same (by simp [real]) ?_ ?_ fun r hr => Or.inr ⟨hr, by simp [untracked]⟩
  · refine nodup_map_snoc (h.once.sublist (List.filter_sublist.map _)) fun o ho => ?_
    simpa using (List.mem_filter.mp ho).2
  · intro o ho
    rcases List.mem_append.mp ho with old | new
    · exact Or.inr ⟨⟨o, (List.mem_filter.mp old).1, rfl⟩, by simp [untracked]⟩
    · rw [List.mem_singleton.mp new]
      exact Or.inl holds

/-- A tracked window gives its object back, and with it the reply that it awaits. -/
theorem destroy (h : Custody s d) {id : WindowId} {w : Toplevel} (found : s.get? id = some w)
    {handle : DamageHandle} (tracked : w.damage? = some handle)
    (destroyed : d'.damages = d.damages.filter (·.handle != handle))
    (dropped : ∀ r ∈ d'.replies, r ∈ d.replies ∧ w.pendingFetch? ≠ some r.1) :
    Custody (s.modify id fun _ => w.released) d' := by
  refine h.turn found (mem_of_get? found).2 (fun _ => rfl) ?_ ?_ ?_
  · rw [destroyed]
    exact h.once.sublist (List.filter_sublist.map _)
  · rw [destroyed]
    intro o ho
    obtain ⟨old, other⟩ := List.mem_filter.mp ho
    refine Or.inr ⟨⟨o, old, rfl⟩, fun mine => ?_⟩
    rw [tracked] at mine
    simp [Option.some.inj mine] at other
  · intro r hr
    obtain ⟨old, other⟩ := dropped r hr
    exact Or.inr ⟨old, fun _ => other⟩

/-- A window that is tracked no more leaves nothing behind. -/
theorem untrackStep {σ : Type} [Renderer σ] {t : HeadlessDisplay × σ} (h : Custody s t.1)
    {id : WindowId} {w : Toplevel} (found : s.get? id = some w) :
    Custody (s.modify id fun _ => (Compositor.untrackStep w t).1)
      (Compositor.untrackStep w t).2.1 := by
  rw [Compositor.untrackStep]
  rcases w.untrack_cases t.1 t.2 with ⟨_, e⟩ | ⟨handle, tracked, e⟩
  · rw [e, replace_self h.distinct found]
    exact h
  rw [e]
  cases awaited : w.pendingFetch? with
  | none =>
    refine h.destroy found tracked (HeadlessDisplay.destroyDamage_damages handle t.1) ?_
    intro r (hr : r ∈ (t.1.destroyDamage handle).replies)
    rw [HeadlessDisplay.destroyDamage_replies] at hr
    exact ⟨hr, by simp [awaited]⟩
  | some fetch =>
    refine h.destroy found tracked
      (HeadlessDisplay.destroyDamage_damages handle (t.1.discardReply fetch)) ?_
    intro r (hr : r ∈ ((t.1.discardReply fetch).destroyDamage handle).replies)
    rw [HeadlessDisplay.destroyDamage_replies] at hr
    obtain ⟨old, other⟩ := List.mem_filter.mp hr
    refine ⟨old, fun mine => ?_⟩
    rw [awaited] at mine
    simp [Option.some.inj mine] at other

/-- A window that keeps what it holds need only answer for the replies. -/
theorem holding (h : Custody s d) {id : WindowId} {w u : Toplevel} (found : s.get? id = some w)
    (same : u.id = id) (placeholder : u.isPlaceholder = w.isPlaceholder)
    (damage : u.damage? = w.damage?)
    (handles : d'.damages.map (·.handle) = d.damages.map (·.handle))
    (replies : ∀ r ∈ d'.replies, (u.damage?.isSome = true ∧ u.pendingFetch? = some r.1) ∨
      (r ∈ d.replies ∧ (w.damage?.isSome = true → w.pendingFetch? ≠ some r.1))) :
    Custody (s.modify id fun _ => u) d' := by
  have bare : u.isPlaceholder = true → u.damage? = none := by
    rw [placeholder, damage]
    exact h.bare w (mem_of_get? found).1
  refine h.turn found same bare (handles ▸ h.once) (fun o ho => ?_) replies
  by_cases mine : w.damage? = some o.handle
  · exact Or.inl (damage.trans mine)
  · have known : o.handle ∈ d.damages.map (·.handle) := handles ▸ List.mem_map_of_mem ho
    exact Or.inr ⟨List.mem_map.mp known, mine⟩

/-- The object of a window is emptied into a reply that the window awaits. -/
theorem request (h : Custody s d) {id : WindowId} {w : Toplevel} (found : s.get? id = some w)
    (tracked : w.damage?.isSome = true) (free : w.pendingFetch? = none) (object : DamageObject) :
    Custody (s.modify id fun _ =>
      { w with isDamaged := false, pendingFetch? := some ⟨d.nextNumber⟩ })
      (d.requested object) := by
  refine h.holding found (mem_of_get? found).2 rfl rfl
    (HeadlessDisplay.refill_handles object.handle Region.empty _) ?_
  intro r hr
  rcases List.mem_append.mp hr with old | new
  · exact Or.inr ⟨(List.mem_filter.mp old).1, by simp [free]⟩
  · rw [List.mem_singleton.mp new]
    exact Or.inl ⟨tracked, rfl⟩

/-- The awaited reply is collected. -/
theorem collect (h : Custody s d) {id : WindowId} {w u : Toplevel} (found : s.get? id = some w)
    {fetch : DamageFetch} (awaited : w.pendingFetch? = some fetch) (same : u.id = id)
    (placeholder : u.isPlaceholder = w.isPlaceholder) (damage : u.damage? = w.damage?) :
    Custody (s.modify id fun _ => u) (d.discardReply fetch) := by
  refine h.holding found same placeholder damage rfl fun r hr => ?_
  obtain ⟨old, other⟩ := List.mem_filter.mp hr
  refine Or.inr ⟨old, fun _ mine => ?_⟩
  rw [awaited] at mine
  simp [Option.some.inj mine] at other

end Custody

end Compositing
