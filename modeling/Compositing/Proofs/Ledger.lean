import Compositing.Proofs.Audit

/-!
# Who holds which damage object

A window that is tracked holds the handle of one damage object, and each object is held by
the window that it watches. The books are kept through all that happens to the windows and
on the server, as long as the server does not run out of numbers: after that a new object may
be given a number that is still in use.
-/

namespace Compositing

namespace Toplevel

/-- The window is as it was as far as its damage object goes. It may have become dirty. -/
structure Alike (w w' : Toplevel) : Prop where
  id : w'.id = w.id
  placeholder : w'.isPlaceholder = w.isPlaceholder
  damage : w'.damage? = w.damage?
  awaited : w'.pendingFetch? = w.pendingFetch?
  dirty : w.isDamaged = true → w'.isDamaged = true

theorem Alike.refl (w : Toplevel) : Alike w w := ⟨rfl, rfl, rfl, rfl, fun h => h⟩

theorem Same.alike {w w' : Toplevel} (same : Same w w') : Alike w w' where
  id := same.id
  placeholder := by simp [Toplevel.isPlaceholder, same.kind]
  damage := same.damage
  awaited := same.awaited
  dirty := fun h => same.dirty.trans h

end Toplevel

namespace WindowStack

def Holds (s : WindowStack) (handle : DamageHandle) (id : WindowId) : Prop :=
  ∃ w ∈ s.windows, w.id = id ∧ w.damage? = some handle

theorem holds_iff {s : WindowStack} (distinct : s.Distinct) {id : WindowId} {w : Toplevel}
    (found : s.get? id = some w) {handle : DamageHandle} :
    s.Holds handle id ↔ w.damage? = some handle :=
  exists_iff_of_get? distinct found

theorem holds_replace {s : WindowStack} {id : WindowId} {w u : Toplevel}
    (found : s.get? id = some w) (same : u.id = id) {handle : DamageHandle} {i : WindowId} :
    (s.modify id fun _ => u).Holds handle i ↔
      (i = id ∧ u.damage? = some handle) ∨ (i ≠ id ∧ s.Holds handle i) :=
  exists_replace found same

/-- The tracked windows of the one stack are those of the other. -/
structure Retouches (s s' : WindowStack) : Prop where
  distinct : s'.Distinct
  old : ∀ w' ∈ s'.windows, w'.damage?.isSome = true → ∃ w ∈ s.windows, Toplevel.Alike w w'
  stays : ∀ w ∈ s.windows, w.damage?.isSome = true → ∃ w' ∈ s'.windows, Toplevel.Alike w w'

/-- The windows change in place, and the tracked ones stay the same. -/
theorem Retouches.of_becomes {s s' : WindowStack} (distinct : s.Distinct)
    (changed : Becomes Toplevel.Alike s s') : Retouches s s' := by
  have distinct' := changed.distinct (fun v w alike => alike.id) distinct
  obtain ⟨g, shape, alike⟩ := changed
  refine ⟨distinct', ?_, ?_⟩
  · intro w' hw' _
    obtain ⟨w, hw, rfl⟩ := List.mem_map.mp (shape ▸ hw')
    exact ⟨w, hw, alike w hw⟩
  · intro w hw _
    exact ⟨g w, shape ▸ List.mem_map_of_mem hw, alike w hw⟩

/-- One window changes in place. -/
theorem Retouches.modify {s : WindowStack} (distinct : s.Distinct) (id : WindowId)
    {f : Toplevel → Toplevel} (alike : ∀ w ∈ s.windows, w.id = id → Toplevel.Alike w (f w)) :
    Retouches s (s.modify id f) :=
  of_becomes distinct (Becomes.modify Toplevel.Alike.refl s id alike)

/-- Windows that are not tracked go. -/
theorem Retouches.filter {s : WindowStack} (distinct : s.Distinct) (keep : Toplevel → Bool)
    (gone : ∀ w ∈ s.windows, keep w = false → w.damage? = none) :
    Retouches s ⟨s.windows.filter keep⟩ := by
  refine ⟨distinct.filter keep, ?_, ?_⟩
  · intro w hw _
    exact ⟨w, (List.mem_filter.mp hw).1, Toplevel.Alike.refl w⟩
  · intro w hw tracked
    refine ⟨w, List.mem_filter.mpr ⟨hw, ?_⟩, Toplevel.Alike.refl w⟩
    by_contra dropped
    have untracked := gone w hw (by simpa using dropped)
    simp [untracked] at tracked

/-- A window that is not tracked comes. -/
theorem Retouches.append {s : WindowStack} {w : Toplevel} (untracked : w.damage? = none)
    (distinct : (⟨s.windows ++ [w]⟩ : WindowStack).Distinct) :
    Retouches s ⟨s.windows ++ [w]⟩ := by
  refine ⟨distinct, ?_, ?_⟩
  · intro v hv tracked
    rcases List.mem_append.mp hv with old | new
    · exact ⟨v, old, Toplevel.Alike.refl v⟩
    · rw [List.mem_singleton.mp new, untracked] at tracked
      simp at tracked
  · intro v hv _
    exact ⟨v, List.mem_append_left _ hv, Toplevel.Alike.refl v⟩

/-- A window that is not tracked changes and does not become tracked. -/
theorem Retouches.untracked {s : WindowStack} (distinct : s.Distinct) {id : WindowId}
    {w u : Toplevel} (found : s.get? id = some w) (untracked : w.damage? = none) (same : u.id = id)
    (still : u.damage? = none) : Retouches s (s.modify id fun _ => u) := by
  refine ⟨distinct.modify fun _ _ _ => same, ?_, ?_⟩
  · intro v hv tracked
    rcases (mem_replace found).mp hv with rfl | ⟨hv, _⟩
    · simp [still] at tracked
    · exact ⟨v, hv, Toplevel.Alike.refl v⟩
  · intro v hv tracked
    have other : v.id ≠ id := by
      intro here
      rw [eq_of_get? distinct found hv here, untracked] at tracked
      simp at tracked
    exact ⟨v, (mem_replace found).mpr (Or.inr ⟨hv, other⟩), Toplevel.Alike.refl v⟩

theorem Retouches.restack {s : WindowStack} (distinct : s.Distinct) (order : List WindowId) :
    Retouches s (s.restack order) where
  distinct := distinct.restack order
  old := fun w hw _ => ⟨w, (mem_restack distinct order).mp hw, Toplevel.Alike.refl w⟩
  stays := fun w hw _ => ⟨w, (mem_restack distinct order).mpr hw, Toplevel.Alike.refl w⟩

end WindowStack

namespace HeadlessDisplay

def issued (d : HeadlessDisplay) : Nat := d.damagesCreated + d.fetchRequests

def Watches (d : HeadlessDisplay) (handle : DamageHandle) (id : WindowId) : Prop :=
  ∃ o ∈ d.damages, o.handle = handle ∧ o.window = id

theorem succNumber_toNat {n : UInt32} (more : n.toNat + 1 < UInt32.size) :
    (succNumber n).toNat = n.toNat + 1 := by
  have next : (n + 1).toNat = n.toNat + 1 := by
    rw [UInt32.toNat_add]
    exact Nat.mod_eq_of_lt more
  rw [succNumber]
  split
  · rename_i wrapped
    have zero : (n + 1).toNat = 0 := by rw [beq_iff_eq.mp wrapped]; rfl
    omega
  · exact next

def refill (handle : DamageHandle) (pending : Region) (o : DamageObject) : DamageObject :=
  if o.handle == handle then { o with pending := pending } else o

@[simp] theorem refill_handle (handle : DamageHandle) (pending : Region) (o : DamageObject) :
    (refill handle pending o).handle = o.handle := by
  rw [refill]
  split <;> rfl

@[simp] theorem refill_window (handle : DamageHandle) (pending : Region) (o : DamageObject) :
    (refill handle pending o).window = o.window := by
  rw [refill]
  split <;> rfl

theorem refill_handles (handle : DamageHandle) (pending : Region) (objects : List DamageObject) :
    (objects.map (refill handle pending)).map (·.handle) = objects.map (·.handle) := by
  simp [Function.comp_def]

theorem refill_watches {d d' : HeadlessDisplay} {handle : DamageHandle} {pending : Region}
    (refilled : d'.damages = d.damages.map (refill handle pending)) {handle' : DamageHandle}
    {id : WindowId} : d'.Watches handle' id ↔ d.Watches handle' id := by
  simp [Watches, refilled]

/-- What is drawn to a watched window goes to one object, and what begins to wait is announced. -/
theorem reportDamage_cases (id : WindowId) (rects : List Rect) (d : HeadlessDisplay) :
    ((∀ o ∈ d.damages, o.window ≠ id) ∧ (d.reportDamage id rects).2 = d) ∨
      ∃ object ∈ d.damages, ∃ pending events, object.window = id ∧
        pending = rects.foldl Region.addRect object.pending ∧
        (d.reportDamage id rects).2 = { d with
          damages := d.damages.map (refill object.handle pending), events := events } ∧
        d.events ⊆ events ∧
        (object.pending.isEmpty = true → pending.isEmpty = false → .damaged id ∈ events) := by
  rw [reportDamage]
  split
  · rename_i unknown
    exact Or.inl ⟨by simpa using unknown, rfl⟩
  · rename_i object found
    have window : object.window = id := by simpa using List.find?_some found
    refine Or.inr ⟨object, List.mem_of_find?_eq_some found, _, _, window, rfl, rfl, ?_, ?_⟩
    · split
      · exact List.subset_append_left _ _
      · exact List.Subset.refl _
    · intro empty waits
      simp [empty, waits]

def created (d : HeadlessDisplay) (w : WindowId) : HeadlessDisplay :=
  { d with
    nextNumber := succNumber d.nextNumber
    damages := d.damages.filter (·.handle != ⟨d.nextNumber⟩) ++
      [⟨⟨d.nextNumber⟩, w, Region.empty⟩]
    damagesCreated := d.damagesCreated + 1 }

def requested (d : HeadlessDisplay) (object : DamageObject) : HeadlessDisplay :=
  { d with
    nextNumber := succNumber d.nextNumber
    damages := d.damages.map (refill object.handle Region.empty)
    replies := d.replies.filter (·.1 != ⟨d.nextNumber⟩) ++
      [(⟨d.nextNumber⟩, ⟨object.pending.bounds, object.pending.rects⟩)]
    fetchRequests := d.fetchRequests + 1 }

@[simp] theorem created_issued (d : HeadlessDisplay) (w : WindowId) :
    (d.created w).issued = d.issued + 1 := by
  simp only [created, issued]
  omega

@[simp] theorem requested_issued (d : HeadlessDisplay) (object : DamageObject) :
    (d.requested object).issued = d.issued + 1 := by
  simp only [requested, issued]
  omega

theorem createDamage_cases (d : HeadlessDisplay) (w : WindowId) :
    (d.hasExtension .damage = true ∧
        d.createDamage w = (.ok ⟨d.nextNumber⟩, d.created w)) ∨
      (d.hasExtension .damage = false ∧
        d.createDamage w = (.error (.missingExtension .damage), d)) := by
  rw [createDamage]
  cases d.hasExtension .damage with
  | true => exact Or.inl ⟨rfl, rfl⟩
  | false => exact Or.inr ⟨rfl, rfl⟩

theorem requestDamage_cases (d : HeadlessDisplay) (handle : DamageHandle) :
    ((∀ o ∈ d.damages, o.handle ≠ handle) ∧
        d.requestDamage handle = (.error (.unknownDamage handle), d)) ∨
      ∃ object ∈ d.damages, object.handle = handle ∧
        d.requestDamage handle = (.ok ⟨d.nextNumber⟩, d.requested object) := by
  rw [requestDamage]
  split
  · rename_i unknown
    exact Or.inl ⟨by simpa using unknown, rfl⟩
  · rename_i object found
    have same : object.handle = handle := by simpa using List.find?_some found
    refine Or.inr ⟨object, List.mem_of_find?_eq_some found, same, ?_⟩
    subst same
    rfl

/-- Whether the handle was known or not, no object has it afterwards. -/
theorem destroyDamage_damages (handle : DamageHandle) (d : HeadlessDisplay) :
    (d.destroyDamage handle).damages = d.damages.filter (·.handle != handle) := by
  rw [destroyDamage]
  split
  · rfl
  · rename_i unknown
    refine (List.filter_eq_self.mpr fun o ho => ?_).symm
    simp only [Bool.not_eq_true, List.any_eq_false] at unknown
    simpa using unknown o ho

theorem destroyDamage_replies (handle : DamageHandle) (d : HeadlessDisplay) :
    (d.destroyDamage handle).replies = d.replies := by
  rw [destroyDamage]
  split <;> rfl

/-- As no two objects have one handle, taking those with a handle away takes one. -/
theorem length_filter_handle {objects : List DamageObject}
    (once : (objects.map (·.handle)).Nodup) {o : DamageObject} (ho : o ∈ objects) :
    (objects.filter (·.handle != o.handle)).length + 1 = objects.length := by
  have handles : (objects.filter (·.handle != o.handle)).map (·.handle) =
      (objects.map (·.handle)).erase o.handle := by
    rw [once.erase_eq_filter, List.filter_map]
    rfl
  have member : o.handle ∈ objects.map (·.handle) := List.mem_map_of_mem ho
  have shorter := List.length_erase_of_mem member
  have some := List.length_pos_of_mem ho
  rw [← handles, List.length_map, List.length_map] at shorter
  omega

end HeadlessDisplay

/-- The books of the damage objects, where `queue` are the events that were taken from the
server and not handled yet. -/
structure Ledger (queue : List DisplayEvent) (s : WindowStack) (d : AuditedDisplay) : Prop where
  distinct : s.Distinct
  owned : ∀ handle id, d.server.Watches handle id ↔ s.Holds handle id
  once : (d.server.damages.map (·.handle)).Nodup
  below : ∀ o ∈ d.server.damages, o.handle.number.toNat < d.server.nextNumber.toNat
  numbered : d.server.nextNumber.toNat = d.server.issued + 1
  counted : d.server.damagesCreated = d.server.damagesDestroyed + d.server.damages.length
  bare : ∀ w ∈ s.windows, w.isPlaceholder = true → w.damage? = none
  awaited : ∀ r ∈ d.server.replies,
    ∃ w ∈ s.windows, w.damage?.isSome = true ∧ w.pendingFetch? = some r.1
  /-- Whatever waits in an object was reported, and the report is on its way or has marked the
  window. -/
  announced : ∀ o ∈ d.server.damages, o.pending.isEmpty = false →
    .damaged o.window ∈ queue ++ d.server.events ∨
      ∃ w ∈ s.windows, w.id = o.window ∧ w.isDamaged = true
  strays : d.strays = []

namespace Ledger

open WindowStack

variable {queue : List DisplayEvent} {s s' : WindowStack} {d d' : AuditedDisplay}

/-- Objects with one handle are one object. -/
theorem object_eq (h : Ledger queue s d) {o o' : DamageObject} (ho : o ∈ d.server.damages)
    (ho' : o' ∈ d.server.damages) (same : o.handle = o'.handle) : o = o' :=
  List.inj_on_of_nodup_map h.once ho ho' same

/-- Two objects have one handle if and only if they watch one window. -/
theorem handle_eq_iff (h : Ledger queue s d) {o o' : DamageObject} (ho : o ∈ d.server.damages)
    (ho' : o' ∈ d.server.damages) : o.handle = o'.handle ↔ o.window = o'.window := by
  constructor
  · intro same
    rw [h.object_eq ho ho' same]
  · intro same
    obtain ⟨w, hw, id, holds⟩ := (h.owned o.handle o.window).mp ⟨o, ho, rfl, rfl⟩
    obtain ⟨w', hw', id', holds'⟩ := (h.owned o'.handle o'.window).mp ⟨o', ho', rfl, rfl⟩
    have one : w = w' := eq_of_id_eq h.distinct hw hw' (by rw [id, id', same])
    rw [one, holds'] at holds
    exact (Option.some.inj holds).symm

/-! Changes of the windows. -/

/-- The tracked windows stay the same. -/
theorem retouch (h : Ledger queue s d) (same : Retouches s s') : Ledger queue s' d where
  distinct := same.distinct
  owned := by
    intro handle id
    rw [h.owned handle id]
    constructor
    · rintro ⟨w, hw, rfl, holds⟩
      obtain ⟨w', hw', alike⟩ := same.stays w hw (by simp [holds])
      exact ⟨w', hw', alike.id, alike.damage.trans holds⟩
    · rintro ⟨w', hw', rfl, holds⟩
      obtain ⟨w, hw, alike⟩ := same.old w' hw' (by simp [holds])
      exact ⟨w, hw, alike.id.symm, alike.damage.symm.trans holds⟩
  once := h.once
  below := h.below
  numbered := h.numbered
  counted := h.counted
  bare := by
    intro w' hw' placeholder
    by_contra tracked
    have tracked : w'.damage?.isSome = true := Option.isSome_iff_ne_none.mpr tracked
    obtain ⟨w, hw, alike⟩ := same.old w' hw' tracked
    have untracked := h.bare w hw (alike.placeholder ▸ placeholder)
    simp [alike.damage, untracked] at tracked
  awaited := by
    intro r hr
    obtain ⟨w, hw, tracked, awaited⟩ := h.awaited r hr
    obtain ⟨w', hw', alike⟩ := same.stays w hw tracked
    exact ⟨w', hw', alike.damage ▸ tracked, alike.awaited.trans awaited⟩
  announced := by
    intro o ho waits
    rcases h.announced o ho waits with coming | ⟨w, hw, here, dirty⟩
    · exact Or.inl coming
    · obtain ⟨v, hv, watched, holds⟩ := (h.owned o.handle o.window).mp ⟨o, ho, rfl, rfl⟩
      have one : v = w := eq_of_id_eq h.distinct hv hw (watched.trans here.symm)
      obtain ⟨w', hw', alike⟩ := same.stays w hw (by simp [← one, holds])
      exact Or.inr ⟨w', hw', alike.id.trans here, alike.dirty dirty⟩
  strays := h.strays

/-! Changes of the server that do not concern the objects. -/

/-- The servers have the same objects and replies, and no event is lost. -/
structure Untouched (d d' : AuditedDisplay) : Prop where
  extensions : d'.server.extensions = d.server.extensions
  damages : d'.server.damages = d.server.damages
  replies : d'.server.replies = d.server.replies
  next : d'.server.nextNumber = d.server.nextNumber
  created : d'.server.damagesCreated = d.server.damagesCreated
  destroyed : d'.server.damagesDestroyed = d.server.damagesDestroyed
  requests : d'.server.fetchRequests = d.server.fetchRequests
  events : d.server.events ⊆ d'.server.events
  strays : d'.strays = d.strays

theorem Untouched.refl (d : AuditedDisplay) : Untouched d d :=
  ⟨rfl, rfl, rfl, rfl, rfl, rfl, rfl, fun _ h => h, rfl⟩

theorem Untouched.trans {d d' d'' : AuditedDisplay} (first : Untouched d d')
    (second : Untouched d' d'') : Untouched d d'' where
  extensions := second.extensions.trans first.extensions
  damages := second.damages.trans first.damages
  replies := second.replies.trans first.replies
  next := second.next.trans first.next
  created := second.created.trans first.created
  destroyed := second.destroyed.trans first.destroyed
  requests := second.requests.trans first.requests
  events := fun _ e => second.events (first.events e)
  strays := second.strays.trans first.strays

theorem Untouched.issued (h : Untouched d d') : d'.server.issued = d.server.issued := by
  simp only [HeadlessDisplay.issued, h.created, h.requests]

/-! Claims, redirections and properties are no concern of the objects. -/

theorem untouched_claim (selection : String) (d : AuditedDisplay) :
    Untouched d (DisplayServer.claimSelection selection d).2 := by
  simp only [DisplayServer.claimSelection, AuditedDisplay.answer, HeadlessDisplay.claimSelection]
  split <;> exact ⟨rfl, rfl, rfl, rfl, rfl, rfl, rfl, fun _ e => e, rfl⟩

theorem untouched_release (selection : String) (d : AuditedDisplay) :
    Untouched d (DisplayServer.releaseSelection selection d) := by
  simp only [DisplayServer.releaseSelection, AuditedDisplay.lift, HeadlessDisplay.releaseSelection]
  split <;> exact ⟨rfl, rfl, rfl, rfl, rfl, rfl, rfl, fun _ e => e, rfl⟩

theorem untouched_redirectSubwindows (d : AuditedDisplay) :
    Untouched d (DisplayServer.redirectSubwindows d).2 := by
  simp only [DisplayServer.redirectSubwindows, AuditedDisplay.answer,
    HeadlessDisplay.redirectSubwindows]
  split <;> exact ⟨rfl, rfl, rfl, rfl, rfl, rfl, rfl, fun _ e => e, rfl⟩

theorem untouched_unredirectSubwindows (d : AuditedDisplay) :
    Untouched d (DisplayServer.unredirectSubwindows d) :=
  ⟨rfl, rfl, rfl, rfl, rfl, rfl, rfl, fun _ e => e, rfl⟩

theorem untouched_redirectWindow (w : WindowId) (d : AuditedDisplay) :
    Untouched d (DisplayServer.redirectWindow w d) :=
  ⟨rfl, rfl, rfl, rfl, rfl, rfl, rfl, fun _ e => e, rfl⟩

theorem untouched_unredirectWindow (w : WindowId) (d : AuditedDisplay) :
    Untouched d (DisplayServer.unredirectWindow w d) := by
  simp only [DisplayServer.unredirectWindow, AuditedDisplay.lift, HeadlessDisplay.unredirectWindow]
  split <;> exact ⟨rfl, rfl, rfl, rfl, rfl, rfl, rfl, fun _ e => e, rfl⟩

theorem untouched_flush (d : AuditedDisplay) : Untouched d (DisplayServer.flush d) :=
  ⟨rfl, rfl, rfl, rfl, rfl, rfl, rfl, fun _ e => e, rfl⟩

theorem untouched_setOpacity (w : WindowId) (o : Opacity) (d : AuditedDisplay) :
    Untouched d (DisplayServer.setOpacity w o d) :=
  ⟨rfl, rfl, rfl, rfl, rfl, rfl, rfl, fun _ e => e, rfl⟩

theorem untouched_deleteRootProperty (a : Atom) (d : AuditedDisplay) :
    Untouched d (DisplayServer.deleteRootProperty a d) :=
  ⟨rfl, rfl, rfl, rfl, rfl, rfl, rfl, fun _ e => e, rfl⟩

/-- A row of such changes is one. -/
theorem untouched_foldl {α : Type} {f : AuditedDisplay → α → AuditedDisplay}
    (each : ∀ d a, Untouched d (f d a)) (l : List α) (d : AuditedDisplay) :
    Untouched d (l.foldl f d) := by
  induction l generalizing d with
  | nil => exact Untouched.refl d
  | cons a rest ih => exact (each d a).trans (ih (f d a))

theorem of_untouched (h : Ledger queue s d) (same : Untouched d d') : Ledger queue s d' where
  distinct := h.distinct
  owned := by
    intro handle id
    rw [← h.owned handle id]
    simp only [HeadlessDisplay.Watches, same.damages]
  once := by rw [same.damages]; exact h.once
  below := by rw [same.damages, same.next]; exact h.below
  numbered := by rw [same.next, same.issued]; exact h.numbered
  counted := by rw [same.created, same.destroyed, same.damages]; exact h.counted
  bare := h.bare
  awaited := by rw [same.replies]; exact h.awaited
  announced := by
    rw [same.damages]
    intro o ho waits
    rcases h.announced o ho waits with coming | dirty
    · refine Or.inl (List.mem_append.mpr ?_)
      rcases List.mem_append.mp coming with taken | waiting
      · exact Or.inl taken
      · exact Or.inr (same.events waiting)
    · exact Or.inr dirty
  strays := same.strays.trans h.strays

/-! One window and the server change together. -/

/-- What a change of the window with the id, and of the server with it, has to bring about. -/
structure Turn (queue : List DisplayEvent) (d d' : AuditedDisplay) (id : WindowId)
    (w u : Toplevel) : Prop where
  same : u.id = id
  bare : u.isPlaceholder = true → u.damage? = none
  owned : ∀ handle i, d'.server.Watches handle i ↔
    (i = id ∧ u.damage? = some handle) ∨ (i ≠ id ∧ d.server.Watches handle i)
  once : (d'.server.damages.map (·.handle)).Nodup
  below : ∀ o ∈ d'.server.damages, o.handle.number.toNat < d'.server.nextNumber.toNat
  numbered : d'.server.nextNumber.toNat = d'.server.issued + 1
  counted : d'.server.damagesCreated = d'.server.damagesDestroyed + d'.server.damages.length
  awaited : ∀ r ∈ d'.server.replies, (r ∈ d.server.replies ∧ w.pendingFetch? ≠ some r.1) ∨
    (u.damage?.isSome = true ∧ u.pendingFetch? = some r.1)
  announced : ∀ o ∈ d'.server.damages, o.pending.isEmpty = false →
    (o ∈ d.server.damages ∧ o.window ≠ id) ∨
      (o.window = id ∧ (.damaged id ∈ queue ++ d.server.events ∨ u.isDamaged = true))
  events : d'.server.events = d.server.events
  strays : d'.strays = []

theorem Turn.ledger {id : WindowId} {w u : Toplevel} (turn : Turn queue d d' id w u)
    (h : Ledger queue s d) (found : s.get? id = some w) :
    Ledger queue (s.modify id fun _ => u) d' where
  distinct := h.distinct.modify fun _ _ _ => turn.same
  owned := by
    intro handle i
    rw [turn.owned handle i, holds_replace found turn.same, h.owned handle i]
  once := turn.once
  below := turn.below
  numbered := turn.numbered
  counted := turn.counted
  bare := by
    intro v hv placeholder
    rcases (mem_replace found).mp hv with rfl | ⟨hv, _⟩
    · exact turn.bare placeholder
    · exact h.bare v hv placeholder
  awaited := by
    intro r hr
    rcases turn.awaited r hr with ⟨old, other⟩ | ⟨tracked, awaited⟩
    · obtain ⟨v, hv, tracked, awaited⟩ := h.awaited r old
      have elsewhere : v.id ≠ id := by
        intro same
        rw [eq_of_get? h.distinct found hv same] at awaited
        exact other awaited
      exact ⟨v, (mem_replace found).mpr (Or.inr ⟨hv, elsewhere⟩), tracked, awaited⟩
    · exact ⟨u, (mem_replace found).mpr (Or.inl rfl), tracked, awaited⟩
  announced := by
    intro o ho waits
    rw [turn.events]
    rcases turn.announced o ho waits with ⟨old, other⟩ | ⟨here, coming | dirty⟩
    · rcases h.announced o old waits with coming | ⟨v, hv, same, dirty⟩
      · exact Or.inl coming
      · exact Or.inr ⟨v, (mem_replace found).mpr (Or.inr ⟨hv, same ▸ other⟩), same, dirty⟩
    · exact Or.inl (here ▸ coming)
    · exact Or.inr ⟨u, (mem_replace found).mpr (Or.inl rfl), turn.same.trans here.symm, dirty⟩
  strays := turn.strays

/-- No object watches a window without a handle. -/
theorem unwatched (h : Ledger queue s d) {id : WindowId} {w : Toplevel}
    (found : s.get? id = some w) (untracked : w.damage? = none) :
    ∀ o ∈ d.server.damages, o.window ≠ id := by
  intro o ho same
  have holds := (h.owned o.handle id).mp ⟨o, ho, rfl, same⟩
  rw [holds_iff h.distinct found, untracked] at holds
  simp at holds

/-- The object with a window's handle is the one that watches the window. -/
theorem watched_iff (h : Ledger queue s d) {id : WindowId} {w : Toplevel}
    (found : s.get? id = some w) {handle : DamageHandle} (tracked : w.damage? = some handle) :
    ∀ o ∈ d.server.damages, o.handle = handle ↔ o.window = id := by
  obtain ⟨o', ho', rfl, rfl⟩ :=
    (h.owned handle id).mpr ((holds_iff h.distinct found).mpr tracked)
  intro o ho
  exact h.handle_eq_iff ho ho'

/-- The next number is the handle of no object. -/
theorem next_fresh (h : Ledger queue s d) :
    ∀ o ∈ d.server.damages, o.handle ≠ ⟨d.server.nextNumber⟩ := by
  intro o ho taken
  have below := h.below o ho
  simp [taken] at below

/-- Numbers go up by one as long as there are any left. -/
theorem next_number (h : Ledger queue s d) (more : d.server.issued + 1 < UInt32.size - 1) :
    (HeadlessDisplay.succNumber d.server.nextNumber).toNat = d.server.nextNumber.toNat + 1 := by
  have numbered := h.numbered
  exact HeadlessDisplay.succNumber_toNat (by omega)

/-- An untracked window gets an object of its own. -/
theorem create (h : Ledger queue s d) {id : WindowId} {w u : Toplevel}
    (found : s.get? id = some w) (untracked : w.damage? = none) (same : u.id = id)
    (real : u.isPlaceholder = false) (holds : u.damage? = some ⟨d.server.nextNumber⟩)
    (awaited : u.pendingFetch? = w.pendingFetch?)
    (more : d.server.issued + 1 < UInt32.size - 1) :
    Turn queue d { d with server := d.server.created id } id w u := by
  have fresh := h.next_fresh
  have next := h.next_number more
  have kept : d.server.damages.filter (·.handle != ⟨d.server.nextNumber⟩) = d.server.damages :=
    List.filter_eq_self.mpr fun o ho => by simpa using fresh o ho
  have free := h.unwatched found untracked
  simp only [HeadlessDisplay.created, kept]
  refine ⟨same, by simp [real], ?_, ?_, ?_, ?_, ?_, ?_, ?_, rfl, h.strays⟩
  · intro handle i
    rw [holds]
    constructor
    · rintro ⟨o, ho, rfl, rfl⟩
      rcases List.mem_append.mp ho with old | new
      · exact Or.inr ⟨free o old, o, old, rfl, rfl⟩
      · rw [List.mem_singleton.mp new]
        exact Or.inl ⟨rfl, rfl⟩
    · rintro (⟨rfl, taken⟩ | ⟨_, o, ho, watches⟩)
      · obtain rfl := Option.some.inj taken
        exact ⟨_, List.mem_append_right _ (List.mem_singleton.mpr rfl), rfl, rfl⟩
      · exact ⟨o, List.mem_append_left _ ho, watches⟩
  · exact nodup_map_snoc h.once fresh
  · intro o ho
    rw [next]
    rcases List.mem_append.mp ho with old | new
    · exact Nat.lt_succ_of_lt (h.below o old)
    · rw [List.mem_singleton.mp new]
      exact Nat.lt_succ_self _
  · have numbered := h.numbered
    simp only [HeadlessDisplay.issued] at numbered ⊢
    omega
  · have counted := h.counted
    simp only [List.length_append, List.length_singleton]
    omega
  · intro r hr
    by_cases mine : w.pendingFetch? = some r.1
    · exact Or.inr ⟨by simp [holds], awaited.trans mine⟩
    · exact Or.inl ⟨hr, mine⟩
  · intro o ho waits
    rcases List.mem_append.mp ho with old | new
    · exact Or.inl ⟨old, free o old⟩
    · rw [List.mem_singleton.mp new] at waits
      simp [Region.isEmpty, Region.empty] at waits

/-- A tracked window gives its object back, and with it the reply that it awaits. -/
theorem destroy (h : Ledger queue s d) {id : WindowId} {w : Toplevel}
    (found : s.get? id = some w) {handle : DamageHandle} (tracked : w.damage? = some handle)
    {replies : List (DamageFetch × DamageReply)}
    (dropped : ∀ r ∈ replies, r ∈ d.server.replies ∧ w.pendingFetch? ≠ some r.1) :
    Turn queue d
      (AuditedDisplay.destroyDamage handle
        { d with server := { d.server with replies := replies } })
      id w w.released := by
  have mine := h.watched_iff found tracked
  obtain ⟨o, ho, rfl, watched⟩ :=
    (h.owned handle id).mpr ((holds_iff h.distinct found).mpr tracked)
  have known : d.server.damages.any (·.handle == o.handle) = true :=
    List.any_eq_true.mpr ⟨o, ho, by simp⟩
  have counted := h.counted
  have fewer := HeadlessDisplay.length_filter_handle h.once ho
  simp only [AuditedDisplay.destroyDamage, HeadlessDisplay.destroyDamage, known, if_true]
  refine ⟨(mem_of_get? found).2, fun _ => rfl, ?_, ?_, ?_, h.numbered, ?_, ?_, ?_, rfl, h.strays⟩
  · intro handle i
    simp only [Toplevel.released, reduceCtorEq, and_false, false_or]
    constructor
    · rintro ⟨v, hv, rfl, rfl⟩
      obtain ⟨hv, other⟩ := List.mem_filter.mp hv
      exact ⟨fun same => by simp [(mine v hv).mpr same] at other, v, hv, rfl, rfl⟩
    · rintro ⟨elsewhere, v, hv, rfl, rfl⟩
      refine ⟨v, List.mem_filter.mpr ⟨hv, ?_⟩, rfl, rfl⟩
      simpa using fun same => elsewhere ((mine v hv).mp same)
  · exact h.once.sublist (List.filter_sublist.map _)
  · intro v hv
    exact h.below v (List.mem_filter.mp hv).1
  · dsimp only
    omega
  · intro r hr
    exact Or.inl (dropped r hr)
  · intro v hv waits
    obtain ⟨hv, other⟩ := List.mem_filter.mp hv
    exact Or.inl ⟨hv, fun same => by simp [(mine v hv).mpr same] at other⟩

/-! Fetching. -/

/-- The object of a window is emptied into a reply that the window awaits. -/
theorem request (h : Ledger queue s d) {id : WindowId} {w : Toplevel}
    (found : s.get? id = some w) {object : DamageObject}
    (tracked : w.damage? = some object.handle) (free : w.pendingFetch? = none)
    (more : d.server.issued + 1 < UInt32.size - 1) :
    Turn queue d { d with server := d.server.requested object } id w
      { w with isDamaged := false, pendingFetch? := some ⟨d.server.nextNumber⟩ } := by
  have mine := h.watched_iff found tracked
  have next := h.next_number more
  have hw := mem_of_get? found
  simp only [HeadlessDisplay.requested]
  refine ⟨hw.2, h.bare w hw.1, ?_, ?_, ?_, ?_, ?_, ?_, ?_, rfl, h.strays⟩
  · intro handle' i
    refine (HeadlessDisplay.refill_watches rfl).trans ?_
    by_cases here : i = id
    · simp [here, h.owned, holds_iff h.distinct found]
    · simp [here]
  · exact (HeadlessDisplay.refill_handles object.handle Region.empty _).symm ▸ h.once
  · intro v hv
    obtain ⟨o, ho, rfl⟩ := List.mem_map.mp hv
    have below := h.below o ho
    rw [← HeadlessDisplay.refill_handle object.handle Region.empty o] at below
    rw [next]
    exact Nat.lt_succ_of_lt below
  · have numbered := h.numbered
    simp only [HeadlessDisplay.issued] at numbered ⊢
    omega
  · simpa using h.counted
  · intro r hr
    rcases List.mem_append.mp hr with old | new
    · exact Or.inl ⟨(List.mem_filter.mp old).1, by simp [free]⟩
    · rw [List.mem_singleton.mp new]
      exact Or.inr ⟨by simp [tracked], rfl⟩
  · intro v hv waits
    obtain ⟨o, ho, rfl⟩ := List.mem_map.mp hv
    rw [HeadlessDisplay.refill] at waits ⊢
    by_cases emptied : o.handle = object.handle
    · simp [emptied, Region.isEmpty, Region.empty] at waits
    · simp only [beq_iff_eq, emptied, if_false]
      exact Or.inl ⟨ho, fun here => emptied ((mine o ho).mpr here)⟩

/-- A window takes the reply that it awaits. -/
theorem collect (h : Ledger queue s d) {id : WindowId} {w u : Toplevel}
    (found : s.get? id = some w) {fetch : DamageFetch} (awaited : w.pendingFetch? = some fetch)
    (taken : Toplevel.Alike { w with pendingFetch? := none } u) :
    Turn queue d { d with server := d.server.discardReply fetch } id w u := by
  have hw := mem_of_get? found
  refine ⟨taken.id.trans hw.2, ?_, ?_, h.once, h.below, h.numbered, h.counted, ?_, ?_, rfl,
    h.strays⟩
  · intro placeholder
    exact taken.damage.trans (h.bare w hw.1 (taken.placeholder ▸ placeholder))
  · intro handle i
    have same : d.server.Watches handle i ↔
        (i = id ∧ u.damage? = some handle) ∨ (i ≠ id ∧ d.server.Watches handle i) := by
      by_cases here : i = id
      · simp [here, h.owned, holds_iff h.distinct found, taken.damage]
      · simp [here]
    exact same
  · intro r hr
    obtain ⟨hr, other⟩ := List.mem_filter.mp hr
    refine Or.inl ⟨hr, ?_⟩
    rw [awaited]
    rintro ⟨⟩
    simp at other
  · intro o ho waits
    by_cases here : o.window = id
    · refine Or.inr ⟨here, ?_⟩
      rcases h.announced o ho waits with coming | ⟨v, hv, same, dirty⟩
      · exact Or.inl (here ▸ coming)
      · have one : v = w := eq_of_id_eq h.distinct hv hw.1 (by rw [same, here, hw.2])
        exact Or.inr (taken.dirty (one ▸ dirty))
    · exact Or.inl ⟨ho, here⟩

/-! Reports. -/

/-- The server announces what begins to wait in an object that was empty. -/
theorem report (h : Ledger queue s d) (id : WindowId) (rects : List Rect) :
    Ledger queue s { d with server := (d.server.reportDamage id rects).2 } := by
  rcases d.server.reportDamage_cases id rects with
    ⟨_, same⟩ | ⟨object, member, pending, events, window, _, same, more, news⟩
  · rw [same]
    exact h
  rw [same]
  refine ⟨h.distinct, ?_, ?_, ?_, h.numbered, ?_, h.bare, h.awaited, ?_, h.strays⟩
  · intro handle i
    exact (HeadlessDisplay.refill_watches rfl).trans (h.owned handle i)
  · dsimp only
    rw [HeadlessDisplay.refill_handles]
    exact h.once
  · intro o' ho'
    obtain ⟨o, ho, rfl⟩ := List.mem_map.mp ho'
    rw [HeadlessDisplay.refill_handle]
    exact h.below o ho
  · simpa using h.counted
  · intro o' ho' waits
    obtain ⟨o, ho, rfl⟩ := List.mem_map.mp ho'
    rw [HeadlessDisplay.refill_window]
    have still (waited : o.pending.isEmpty = false) : .damaged o.window ∈ queue ++ events ∨
        ∃ w ∈ s.windows, w.id = o.window ∧ w.isDamaged = true := by
      apply (h.announced o ho waited).imp_left
      intro coming
      rcases List.mem_append.mp coming with taken | waiting
      · exact List.mem_append_left _ taken
      · exact List.mem_append_right _ (more waiting)
    by_cases here : o.handle = object.handle
    · obtain rfl := h.object_eq ho member here
      cases empty : o.pending.isEmpty with
      | true =>
        have begun : pending.isEmpty = false := by simpa [HeadlessDisplay.refill] using waits
        exact Or.inl (List.mem_append_right _ (window ▸ news empty begun))
      | false => exact still empty
    · simp only [HeadlessDisplay.refill, beq_iff_eq, here, if_false] at waits
      exact still waits

/-- The events that waited at the server are to be handled. -/
theorem takeEvents (h : Ledger queue s d) :
    Ledger (d.server.events ++ queue) s { d with server := d.server.takeEvents.2 } := by
  refine { h with announced := fun o ho waits => ?_ }
  refine (h.announced o ho waits).imp_left fun coming => List.mem_append_left _ ?_
  exact List.mem_append.mpr (List.mem_append.mp coming).symm

/-- An event is handled once it has marked the window that it is about. -/
theorem handled {e : DisplayEvent} (h : Ledger (e :: queue) s d)
    (marked : ∀ w ∈ s.windows, w.damage?.isSome = true → e = .damaged w.id → w.isDamaged = true) :
    Ledger queue s d := by
  refine { h with announced := ?_ }
  intro o ho waits
  rcases h.announced o ho waits with coming | dirty
  · rcases List.mem_cons.mp coming with this | later
    · obtain ⟨w, hw, id, holds⟩ := (h.owned o.handle o.window).mp ⟨o, ho, rfl, rfl⟩
      exact Or.inr ⟨w, hw, id, marked w hw (by simp [holds]) (by rw [← this, id])⟩
    · exact Or.inl later
  · exact Or.inr dirty

end Ledger

end Compositing
