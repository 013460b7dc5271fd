import Compositing.Proofs.Custody

/-!
# The books are kept

Every step of a compositor on an audited server leaves the books of the damage objects in
order, and all that the server keeps in somebody's custody. A round over the windows does so
because each window's turn does.
-/

namespace Compositing

namespace Ledger

open WindowStack

variable {offers : List Extension} {queue queue' : List DisplayEvent} {s s' : WindowStack}
  {d d' : AuditedDisplay}

/-- The server offers what it offered and keeps nothing that no window answers for, and the
books are right as long as it has numbers left. -/
structure Kept (offers : List Extension) (queue : List DisplayEvent) (s : WindowStack)
    (d : AuditedDisplay) : Prop where
  same : d.server.extensions = offers
  custody : Custody s d.server
  books : d.server.issued < UInt32.size - 1 → Ledger queue s d

/-- The server only gives out more numbers. -/
theorem Kept.next (kept : Kept offers queue s d)
    (same : d'.server.extensions = d.server.extensions)
    (more : d.server.issued ≤ d'.server.issued) (custody : Custody s' d'.server)
    (step : d'.server.issued < UInt32.size - 1 → Ledger queue s d → Ledger queue' s' d') :
    Kept offers queue' s' d' where
  same := same.trans kept.same
  custody := custody
  books := fun left => step left (kept.books (by omega))

/-- Only the events that are still to be handled change. -/
theorem Kept.imp (kept : Kept offers queue s d) (step : Ledger queue s d → Ledger queue' s d) :
    Kept offers queue' s d :=
  kept.next rfl (Nat.le_refl _) kept.custody fun _ => step

theorem Kept.of_untouched (kept : Kept offers queue s d) (same : Untouched d d') :
    Kept offers queue s d' := by
  refine kept.next same.extensions (Nat.le_of_eq same.issued.symm) ?_
    fun _ books => books.of_untouched same
  refine kept.custody.of_server (by rw [same.damages]) ?_
  rw [same.replies]
  exact fun _ hr => hr

theorem Kept.retouch (kept : Kept offers queue s d) (same : Retouches s s') :
    Kept offers queue s' d :=
  kept.next rfl (Nat.le_refl _) (kept.custody.retouch same) fun _ books => books.retouch same

theorem Kept.becomes (kept : Kept offers queue s d) (changed : Becomes Toplevel.Alike s s') :
    Kept offers queue s' d :=
  kept.retouch (.of_becomes kept.custody.distinct changed)

theorem Kept.modify (kept : Kept offers queue s d) (id : WindowId) {f : Toplevel → Toplevel}
    (alike : ∀ w ∈ s.windows, w.id = id → Toplevel.Alike w (f w)) :
    Kept offers queue (s.modify id f) d :=
  kept.retouch (.modify kept.custody.distinct id alike)

/-- A window that was looked up stays the same. -/
theorem Kept.replace (kept : Kept offers queue s d) {id : WindowId} {w u : Toplevel}
    (found : s.get? id = some w) (alike : Toplevel.Alike w u) :
    Kept offers queue (s.modify id fun _ => u) d := by
  refine kept.modify id ?_
  intro v hv same
  rw [eq_of_get? kept.custody.distinct found hv same]
  exact alike

theorem Kept.discardPlaceholders (kept : Kept offers queue s d) :
    Kept offers queue s.discardPlaceholders d := by
  refine kept.retouch (.filter kept.custody.distinct _ ?_)
  intro w hw dropped
  exact kept.custody.bare w hw (by simpa using dropped)

theorem Kept.restack (kept : Kept offers queue s d) (order : List WindowId) :
    Kept offers queue (s.restack order) d :=
  kept.retouch (.restack kept.custody.distinct order)

/-- A round keeps the books if every turn does. -/
theorem Kept.visit {τ : Type} (display : τ → AuditedDisplay) {f : Toplevel → τ → Toplevel × τ}
    (turn : ∀ s t id w, s.get? id = some w → Kept offers queue s (display t) →
      Kept offers queue (s.modify id fun _ => (f w t).1) (display (f w t).2))
    (ids : List WindowId) (t : τ) (kept : Kept offers queue s (display t)) :
    Kept offers queue (s.visit ids f t).1 (display (s.visit ids f t).2) := by
  let P : List WindowId → WindowStack → τ → Prop := fun _ s t => Kept offers queue s (display t)
  have start : P ids s t := kept
  exact visit_induction start (fun _ _ _ _ _ h => h) fun id _ s t w found h => turn s t id w found h

end Ledger

namespace AuditedDisplay

variable (d : AuditedDisplay)

theorem createDamage_cases (w : WindowId) :
    (d.server.hasExtension .damage = true ∧
        DisplayServer.createDamage w d =
          (.ok ⟨d.server.nextNumber⟩, { d with server := d.server.created w })) ∨
      (d.server.hasExtension .damage = false ∧
        DisplayServer.createDamage w d = (.error (.missingExtension .damage), d)) := by
  have answer : DisplayServer.createDamage w d =
      ((d.server.createDamage w).1, { d with server := (d.server.createDamage w).2 }) := rfl
  rcases d.server.createDamage_cases w with ⟨able, made⟩ | ⟨off, refused⟩
  · exact Or.inl ⟨able, by rw [answer, made]⟩
  · exact Or.inr ⟨off, by rw [answer, refused]⟩

theorem requestDamage_cases (handle : DamageHandle) :
    (∃ object : DamageObject, object.handle = handle ∧
        DisplayServer.requestDamage handle d =
          (.ok ⟨d.server.nextNumber⟩, { d with server := d.server.requested object })) ∨
      ((∀ o ∈ d.server.damages, o.handle ≠ handle) ∧
        DisplayServer.requestDamage handle d = (.error (.unknownDamage handle), d)) := by
  have answer : DisplayServer.requestDamage handle d =
      ((d.server.requestDamage handle).1, { d with server := (d.server.requestDamage handle).2 }) :=
    rfl
  rcases d.server.requestDamage_cases handle with ⟨unknown, refused⟩ | ⟨object, _, same, made⟩
  · exact Or.inr ⟨unknown, by rw [answer, refused]⟩
  · exact Or.inl ⟨object, same, by rw [answer, made]⟩

end AuditedDisplay

namespace Compositor

open WindowStack Ledger

variable {σ : Type} [Renderer σ] {offers : List Extension} {queue : List DisplayEvent}
  {s : WindowStack}

/-! The turns of a window. -/

theorem trackStep_books {t : AuditedDisplay × σ} {id : WindowId} {w : Toplevel}
    (found : s.get? id = some w) (kept : Ledger.Kept offers queue s t.1) :
    Ledger.Kept offers queue (s.modify id fun _ => (trackStep w t).1) (trackStep w t).2.1 := by
  obtain ⟨_, rfl⟩ := mem_of_get? found
  rw [trackStep]
  rcases w.track_cases t.1 t.2 with
    ⟨_, h⟩ | ⟨untracked, real, ⟨e, d', failed, h⟩ | ⟨handle, d', made, h⟩⟩
  · rw [h]
    exact kept.replace found (Toplevel.Alike.refl w)
  · rw [h]
    rcases t.1.createDamage_cases w.id with ⟨_, answer⟩ | ⟨_, answer⟩
    · simp [answer] at failed
    · obtain ⟨_, rfl⟩ := Prod.mk.inj (answer.symm.trans failed)
      exact kept.replace found (Toplevel.Alike.refl w)
  · rw [h]
    rcases t.1.createDamage_cases w.id with ⟨_, answer⟩ | ⟨_, answer⟩
    · obtain ⟨taken, rfl⟩ := Prod.mk.inj (answer.symm.trans made)
      obtain rfl := Except.ok.inj taken
      refine kept.next rfl (by simp) ?_ fun left books => ?_
      · refine kept.custody.create found untracked ?_ ?_ ?_ w.id
        · rfl
        · exact real
        · rfl
      · rw [HeadlessDisplay.created_issued] at left
        refine Turn.ledger ?_ books found
        exact books.create found untracked rfl real rfl rfl left
    · simp [answer] at made

/-- The server destroys an object and drops a reply without giving out a number. -/
theorem destroyDamage_issued (handle : DamageHandle) (d : AuditedDisplay) :
    (AuditedDisplay.destroyDamage handle d).server.extensions = d.server.extensions ∧
      (AuditedDisplay.destroyDamage handle d).server.issued = d.server.issued := by
  simp only [AuditedDisplay.destroyDamage, HeadlessDisplay.destroyDamage]
  split <;> exact ⟨rfl, rfl⟩

theorem untrackStep_books {t : AuditedDisplay × σ} {id : WindowId} {w : Toplevel}
    (found : s.get? id = some w) (kept : Ledger.Kept offers queue s t.1) :
    Ledger.Kept offers queue (s.modify id fun _ => (untrackStep w t).1) (untrackStep w t).2.1 := by
  have custody : Custody (s.modify id fun _ => (untrackStep w t).1)
      (untrackStep w t).2.1.server := by
    have plain : untrackStep w (t.1.server, t.2) =
        ((untrackStep w t).1, (untrackStep w t).2.1.server, (untrackStep w t).2.2) :=
      untrackStep_forget AuditedDisplay.forgets Renderer.Forgets.id w t
    have step := Custody.untrackStep (t := (t.1.server, t.2)) kept.custody found
    rwa [plain] at step
  rw [untrackStep] at custody ⊢
  rcases w.untrack_cases t.1 t.2 with ⟨_, h⟩ | ⟨handle, tracked, h⟩
  · rw [h]
    exact kept.replace found (Toplevel.Alike.refl w)
  rw [h] at custody ⊢
  cases awaited : w.pendingFetch? with
  | none =>
    rw [awaited] at custody
    have same := destroyDamage_issued handle t.1
    refine kept.next same.1 (Nat.le_of_eq same.2.symm) custody fun _ books => ?_
    refine Turn.ledger ?_ books found
    exact books.destroy found tracked fun r hr => ⟨hr, by simp [awaited]⟩
  | some fetch =>
    rw [awaited] at custody
    have same := destroyDamage_issued handle (DisplayServer.discardReply fetch t.1)
    refine kept.next same.1 (Nat.le_of_eq same.2.symm) custody fun _ books => ?_
    refine Turn.ledger ?_ books found
    apply books.destroy found tracked
    intro r hr
    obtain ⟨old, other⟩ := List.mem_filter.mp hr
    refine ⟨old, ?_⟩
    rw [awaited]
    rintro ⟨⟩
    simp at other

theorem untrackStep_untracked {δ : Type} [DisplayServer δ] (w : Toplevel) (t : δ × σ) :
    (untrackStep w t).1.damage? = none :=
  untrackStep_induction (P := fun u _ _ => u.damage? = none) w t (fun none => none)
    fun _ _ _ => rfl

omit [Renderer σ] in
theorem requestStep_books {t : List WindowId × AuditedDisplay} {id : WindowId} {w : Toplevel}
    (found : s.get? id = some w) (kept : Ledger.Kept offers queue s t.2) :
    Ledger.Kept offers queue (s.modify id fun _ => (requestStep w t).1) (requestStep w t).2.2 := by
  rw [requestStep]
  rcases w.requestDamage_cases t.2 with
    ⟨_, h⟩ | ⟨_, free, ⟨untracked, h⟩ | ⟨handle, e, d', tracked, failed, h⟩ |
      ⟨handle, fetch, d', tracked, made, h⟩⟩
  · rw [h]
    exact kept.replace found (Toplevel.Alike.refl w)
  · rw [h]
    have same := (mem_of_get? found).2
    exact kept.retouch (.untracked kept.custody.distinct found untracked same untracked)
  · rw [h]
    rcases t.2.requestDamage_cases handle with ⟨_, _, same⟩ | ⟨unknown, same⟩
    · simp [same] at failed
    · obtain ⟨_, rfl⟩ := Prod.mk.inj (same.symm.trans failed)
      refine kept.next rfl (Nat.le_refl _) ?_ fun _ books => ?_
      · exact kept.custody.holding found (mem_of_get? found).2 rfl rfl rfl
          fun r hr => Or.inr ⟨hr, by simp [free]⟩
      -- the books know the handle, so the server does
      obtain ⟨o, ho, known, _⟩ :=
        (books.owned handle id).mpr ((holds_iff books.distinct found).mpr tracked)
      exact (unknown o ho known).elim
  · rw [h]
    rcases t.2.requestDamage_cases handle with ⟨_, rfl, same⟩ | ⟨_, same⟩
    · obtain ⟨one, rfl⟩ := Prod.mk.inj (same.symm.trans made)
      obtain rfl := Except.ok.inj one
      refine kept.next rfl (by simp)
        (kept.custody.request found (by simp [tracked]) free _) fun left books => ?_
      rw [HeadlessDisplay.requested_issued] at left
      refine Turn.ledger ?_ books found
      exact books.request found tracked free left
    · simp [same] at made

omit [Renderer σ] in
theorem collectStep_books {d : AuditedDisplay} {id : WindowId} {w : Toplevel}
    (found : s.get? id = some w) (kept : Ledger.Kept offers queue s d) :
    Ledger.Kept offers queue (s.modify id fun _ => (collectStep w d).1) (collectStep w d).2 := by
  rw [collectStep]
  rcases w.collectDamage_cases d with ⟨_, h⟩ | ⟨fetch, awaited, h⟩
  · rw [h]
    exact kept.replace found (Toplevel.Alike.refl w)
  · rw [h]
    refine kept.next rfl (Nat.le_refl _) ?_ fun _ books => ?_
    · exact kept.custody.collect found awaited (mem_of_get? found).2 rfl rfl
    · refine Turn.ledger ?_ books found
      exact books.collect found awaited ⟨rfl, rfl, rfl, rfl, fun dirty => dirty⟩

theorem bypassStep_alike (now : Nanos) (eligible : List WindowId) (w : Toplevel)
    (p : BypassPass AuditedDisplay σ) :
    Toplevel.Alike w (bypassStep now eligible w p).1 ∧
      Untouched p.display (bypassStep now eligible w p).2.display := by
  have same := (Toplevel.addDamageFull_same { w with unredirected := false }).alike
  refine bypassStep_induction (P := fun u d _ => Toplevel.Alike w u ∧ Untouched p.display d) now
    eligible w p ⟨Toplevel.Alike.refl w, Untouched.refl _⟩ ?_ ?_
  · exact ⟨⟨rfl, rfl, rfl, rfl, fun dirty => dirty⟩, untouched_unredirectWindow w.id p.display⟩
  · exact ⟨⟨same.id, same.placeholder, same.damage, same.awaited, same.dirty⟩,
      untouched_redirectWindow w.id p.display⟩

/-! The steps. -/

variable {c : Compositor AuditedDisplay σ}

def Booked (offers : List Extension) (queue : List DisplayEvent)
    (c : Compositor AuditedDisplay σ) : Prop :=
  Ledger.Kept offers queue c.windows c.display

omit [Renderer σ] in
/-- Only the windows and the server matter. -/
theorem Booked.of_eq {c' : Compositor AuditedDisplay σ} (h : Booked offers queue c)
    (windows : c'.windows = c.windows) (display : c'.display = c.display) :
    Booked offers queue c' := by
  rw [Booked]
  rw [windows, display]
  exact h

omit [Renderer σ] in
theorem fetchDamage_booked (h : Booked offers queue c) : Booked offers queue c.fetchDamage := by
  have asked : Ledger.Kept offers queue
      (c.windows.visit c.windows.ids requestStep ([], c.display)).1
      (c.windows.visit c.windows.ids requestStep ([], c.display)).2.2 :=
    Ledger.Kept.visit (fun t : List WindowId × AuditedDisplay => t.2)
      (fun _ _ _ _ => requestStep_books) c.windows.ids ([], c.display) h
  have flushed (asked : List WindowId) (d : AuditedDisplay) :
      Untouched d (if asked.isEmpty then d else DisplayServer.flush d) := by
    split
    · exact Untouched.refl d
    · exact untouched_flush d
  exact Ledger.Kept.visit (fun d => d) (fun _ _ _ _ => collectStep_books) _ _
    (asked.of_untouched (flushed _ _))

theorem performCompositing_booked (h : Booked offers queue c) :
    Booked offers queue c.performCompositing := by
  have fetched := fetchDamage_booked h
  rw [performCompositing]
  split
  · dsimp only
    split
    · exact fetched.of_eq rfl rfl
    · have look (w : Toplevel) : Toplevel.Alike w (painted w) := by
        rw [painted]
        split <;> exact ⟨rfl, rfl, rfl, rfl, fun dirty => dirty⟩
      have display : c.fetchDamage.paint.display = c.fetchDamage.display :=
        c.fetchDamage.paint_frame.1
      rw [Booked]
      rw [display]
      exact fetched.becomes ⟨painted, by simp [paint], fun w _ => look w⟩
  · exact h

theorem bypassPass_booked (h : Booked offers queue c) : Booked offers queue c.bypassPass := by
  have switched : Booked offers queue c.switchWindows.2 := by
    refine Ledger.Kept.visit (fun p : BypassPass AuditedDisplay σ => p.display) ?_ _
      ⟨c.bypass, c.display, c.renderer, false, false⟩ h
    intro s p id w found kept
    obtain ⟨alike, same⟩ := bypassStep_alike c.timers.now _ w p
    exact (kept.replace found alike).of_untouched same
  rw [bypassPass_eq]
  split
  · split
    · exact switched.of_eq (by simp) (by simp)
    · exact switched
  · exact h

omit [Renderer σ] in
theorem releaseSelection_booked (h : Booked offers queue c) :
    Booked offers queue c.releaseSelection := by
  rw [releaseSelection]
  split
  · exact h
  · exact Ledger.Kept.of_untouched h (untouched_release _ _)

theorem acquire_booked (h : Booked offers queue c) : Booked offers queue c.acquire.2 := by
  have claimed : Untouched c.display c.claimed := untouched_claim _ _
  obtain ⟨d, r, scene, selection, s, shape, server, stack, _⟩ := c.acquire_shape
  have display : Untouched c.display d := by
    rcases server with rfl | rfl
    · exact claimed
    · exact claimed.trans (untouched_redirectSubwindows c.claimed)
  rw [shape]
  rcases stack with rfl | rfl
  · exact Ledger.Kept.of_untouched h display
  · exact (Ledger.Kept.discardPlaceholders h).of_untouched display

theorem enable_booked (h : Booked offers queue c) : Booked offers queue (c.enable id) := by
  have ready : Booked offers queue c.scheduleRepaint.addRepaintFull :=
    h.of_eq (by simp) (by simp)
  have tracked : Booked offers queue
      (c.scheduleRepaint.addRepaintFull.visitWindows trackStep c.windows.ids) := by
    exact Ledger.Kept.visit (fun t : AuditedDisplay × σ => t.1)
      (fun _ _ _ _ => trackStep_books) c.windows.ids
      (c.scheduleRepaint.addRepaintFull.display, c.scheduleRepaint.addRepaintFull.renderer) ready
  refine tracked.of_eq ?_ ?_
  all_goals simp [enable]

theorem setup_booked (h : Booked offers queue c) : Booked offers queue c.setup := by
  have acquired := acquire_booked (c := { c with phase := .starting }) h
  rcases c.setup_cases with ⟨_, e⟩ | ⟨_, e⟩ | ⟨_, e⟩ | ⟨_, _, _, e⟩
  · rw [e]
    exact h
  · rw [e]
    exact h
  · rw [e]
    exact releaseSelection_booked acquired
  · rw [e]
    rcases activate_cases ({ c with phase := .starting } : Compositor AuditedDisplay σ).acquire.2 id
      with ⟨fault, e'⟩ | ⟨frame, e'⟩
    · rw [e']
      exact acquired
    · rw [e']
      exact performCompositing_booked (enable_booked acquired)

theorem finish_booked (h : Booked offers queue c) : Booked offers queue c.finish := by
  have released (r : σ) : Ledger.Kept offers queue
      (c.windows.visit c.windows.ids untrackStep (c.display, r)).1
      (c.windows.visit c.windows.ids untrackStep (c.display, r)).2.1 :=
    Ledger.Kept.visit (fun t : AuditedDisplay × σ => t.1) (fun _ _ _ _ => untrackStep_books)
      c.windows.ids (c.display, r) h
  have forwarded (d : AuditedDisplay) (w : Toplevel) : Untouched d (forwardOpacity d w) := by
    rw [forwardOpacity]
    split
    · exact untouched_setOpacity w.id w.opacity d
    · exact Untouched.refl d
  rw [finish, finishBy]
  split
  · refine releaseSelection_booked ?_
    have cut := (released (c.windows.windows.foldl closeWindow c.renderer)).of_untouched
      (untouched_unredirectSubwindows _)
    exact (cut.of_untouched (untouched_foldl forwarded _ _)).discardPlaceholders
  · exact h

omit [Renderer σ] in
theorem sweepSupport_booked (busy : Bool) (h : Booked offers queue c) :
    Booked offers queue (c.sweepSupport busy) := by
  refine Ledger.Kept.of_untouched h ?_
  cases busy with
  | true => exact Untouched.refl c.display
  | false => exact untouched_foldl (fun d a => untouched_deleteRootProperty a d) _ _

theorem damaged_booked (id : WindowId) (h : Booked offers queue c) :
    Booked offers queue (c.handleDisplayEvent (.damaged id)) := by
  rcases c.damaged_cases id with ⟨_, e⟩ | ⟨w, found, _, e⟩
  · rw [e]
    exact h
  · rw [e]
    have marked : Ledger.Kept offers queue (c.windows.modify id fun _ => w.marked) c.display :=
      Ledger.Kept.replace h found ⟨rfl, rfl, rfl, rfl, fun _ => rfl⟩
    exact Booked.of_eq (c := { c with windows := c.windows.modify id fun _ => w.marked }) marked
      (by simp) (by simp)

/-- The event is handled once its window is marked. -/
theorem damaged_handled (id : WindowId) (h : Booked offers (.damaged id :: queue) c) :
    Booked offers queue (c.handleDisplayEvent (.damaged id)) := by
  have booked := damaged_booked id h
  refine booked.imp fun books => books.handled fun v hv tracked same => ?_
  have here : v.id = id := by simpa using same.symm
  rcases c.damaged_cases id with ⟨untracked, e⟩ | ⟨w, found, _, e⟩
  · rw [e] at books hv
    rw [untracked v (here ▸ get?_of_mem books.distinct hv)] at tracked
    simp at tracked
  · rw [e, (scheduleRepaint_frame _).2.2.2.1] at hv
    rcases (mem_replace found).mp hv with rfl | ⟨_, other⟩
    · rfl
    · exact (other here).elim

theorem selectionCleared_handled (h : Booked offers (.selectionCleared :: queue) c) :
    Booked offers queue (c.handleDisplayEvent .selectionCleared) := by
  have passed : Booked offers queue c :=
    Ledger.Kept.imp h fun books => books.handled fun _ _ _ => by simp
  rcases c.selectionCleared_cases with e | e
  · rw [e]
    exact passed
  · rw [e]
    exact finish_booked (c := { c with selection? := none }) passed

theorem dispatchDisplayEvents_booked (h : Booked offers queue c) :
    Booked offers queue c.dispatchDisplayEvents.2 := by
  have taken : Booked offers ((DisplayServer.takeEvents c.display).1 ++ queue)
      { c with display := (DisplayServer.takeEvents c.display).2 } :=
    Ledger.Kept.next h rfl (Nat.le_refl _)
      (h.custody.of_server rfl fun _ hr => hr)
      fun _ books => books.takeEvents
  refine dispatch_induction (Q := fun events => Booked offers (events ++ queue)) taken ?_
  intro e rest c booked
  cases e with
  | damaged id => exact damaged_handled id booked
  | selectionCleared => exact selectionCleared_handled booked

theorem discardPlaceholder_booked (id : WindowId) (h : Booked offers queue c) :
    Booked offers queue (c.discardPlaceholder id).2 := by
  rcases c.discardPlaceholder_cases id with e | ⟨w, r, found, placeholder, _, e⟩
  · rw [e]
    exact h
  · rw [e]
    refine Booked.of_eq (c := { c with windows := c.windows.remove id }) ?_ (by simp) (by simp)
    have hw := mem_of_get? found
    refine Ledger.Kept.retouch h (.filter h.custody.distinct _ fun v hv gone => ?_)
    have same : v.id = id := by simpa using gone
    rw [eq_of_get? h.custody.distinct found hv same]
    exact h.custody.bare w hw.1 placeholder

theorem setGeometry_booked (id : WindowId) (geometry : Rect) (h : Booked offers queue c) :
    Booked offers queue (c.setGeometry id geometry) := by
  rcases c.setGeometry_cases id geometry with e | ⟨old, w, r, found, same, _, e⟩
  · rw [e]
    exact h
  · rw [e]
    refine Booked.of_eq (c := { c with windows := c.windows.modify id fun _ => w }) ?_ (by simp)
      (by simp)
    exact Ledger.Kept.replace h found same.alike

/-! What others do, and windows that come, go and change their state. -/

omit [Renderer σ] in
theorem outside_booked (change : DisplayChange) (h : Booked offers queue c) :
    Booked offers queue { c with display := c.display.lift fun d => change.apply d } := by
  cases change with
  | reportDamage id rects =>
    have same : (c.display.server.reportDamage id rects).2.extensions =
          c.display.server.extensions ∧
        (c.display.server.reportDamage id rects).2.issued = c.display.server.issued ∧
        Custody c.windows (c.display.server.reportDamage id rects).2 := by
      rcases c.display.server.reportDamage_cases id rects with
        ⟨_, e⟩ | ⟨_, _, _, _, _, _, e, _⟩
      · rw [e]
        exact ⟨rfl, rfl, h.custody⟩
      · rw [e]
        exact ⟨rfl, rfl, h.custody.of_server (HeadlessDisplay.refill_handles _ _ _) fun _ hr => hr⟩
    apply Ledger.Kept.next h same.1 (Nat.le_of_eq same.2.1.symm) same.2.2
    intro _ books
    exact books.report id rects
  | stealSelection =>
    refine Ledger.Kept.of_untouched h ?_
    simp only [DisplayChange.apply, AuditedDisplay.lift, HeadlessDisplay.stealSelection]
    split
    · exact Untouched.refl _
    · exact ⟨rfl, rfl, rfl, rfl, rfl, rfl, rfl, fun _ e => List.mem_append_left _ e, rfl⟩
  | setRootProperty a =>
    refine Ledger.Kept.of_untouched h ?_
    simp only [DisplayChange.apply, AuditedDisplay.lift, HeadlessDisplay.setRootProperty]
    split <;> exact ⟨rfl, rfl, rfl, rfl, rfl, rfl, rfl, fun _ e => e, rfl⟩
  | refuseSelection | setRefreshRate =>
    exact Ledger.Kept.of_untouched h ⟨rfl, rfl, rfl, rfl, rfl, rfl, rfl, fun _ e => e, rfl⟩

/-- A window that was put on top takes its first turn there. -/
theorem entered_booked {w : Toplevel} (untracked : w.damage? = none)
    (fresh : c.windows.contains w.id = false) (h : Booked offers queue c) :
    Booked offers queue (c.entered w) := by
  have put : Ledger.Kept offers queue ⟨c.windows.windows ++ [w]⟩ c.display := by
    have distinct := h.custody.distinct.insert w
    rw [WindowStack.insert, fresh] at distinct
    exact Ledger.Kept.retouch h (.append untracked distinct)
  have top : (⟨c.windows.windows ++ [w]⟩ : WindowStack).get? w.id = some w := by
    have none := get?_eq_none_iff.mpr (contains_eq_false_iff.mp fresh)
    unfold get? at none ⊢
    simp [List.find?_append, none]
  rw [Booked, entered, entering]
  split
  · rw [← modify_top fresh]
    exact trackStep_books (t := (c.display, c.renderer)) top put
  · exact put

/-- A window that leaves is not tracked any more. -/
theorem leaving_untracked {w : Toplevel} (stays : Bool)
    (idle : c.hasScene = false → w.damage? = none) : (c.leaving w stays).1.damage? = none := by
  rw [leaving]
  split
  · exact untrackStep_untracked w _
  · rename_i off
    exact idle (by simpa using off)

/-- A window that leaves takes its last turn. -/
theorem left_booked {w : Toplevel} {id : WindowId} (found : c.windows.get? id = some w)
    (keepPlaceholder : Bool) (idle : c.hasScene = false → w.damage? = none)
    (h : Booked offers queue c) :
    Booked offers queue (c.left w keepPlaceholder) := by
  obtain ⟨_, rfl⟩ := mem_of_get? found
  have same := (c.leaving_kept w (keepPlaceholder && c.hasScene)).id
  have untracked := leaving_untracked (keepPlaceholder && c.hasScene) idle
  have kept : Ledger.Kept offers queue
      (c.windows.modify w.id fun _ => (c.leaving w (keepPlaceholder && c.hasScene)).1)
      (c.leaving w (keepPlaceholder && c.hasScene)).2.1 := by
    rw [leaving]
    split
    · exact untrackStep_books (t := (c.display, _)) found h
    · exact Ledger.Kept.replace h found (Toplevel.Alike.refl w)
  have there := get?_replace found same
  rw [Booked, left]
  split
  · rw [← modify_replace c.windows same]
    exact kept.retouch (.untracked kept.custody.distinct there untracked same untracked)
  · rw [← remove_replace c.windows same]
    refine kept.retouch (.filter kept.custody.distinct _ fun v hv dropped => ?_)
    have here : v.id = w.id := by simpa using dropped
    rw [eq_of_get? kept.custody.distinct there hv here]
    exact untracked

end Compositor

end Compositing
