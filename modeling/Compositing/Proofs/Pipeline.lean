import Compositing.Proofs.Bounds
import Compositing.Proofs.Ledger

/-!
# No damage is lost on its way

What is drawn to a window goes to its damage object, from there into a reply that the window
awaits, and from the reply to the window. Reports and fetches of several windows may come in any
order. A pixel that was reported stays at one of the three places until it is forgotten on
purpose, and each reply is taken by the one window that asked for it. As with the books of the
damage objects, this holds as long as the server does not run out of numbers.
-/

namespace Compositing

open WindowStack

/-! What is done with windows. -/

inductive WindowAction where
  | track
  | untrack
  | notify
  | request
  | collect
  | addDamageFull
  | discardPixmap
  | addRepaint (g : Region)
  | resetDamage

namespace WindowAction

def forgets : WindowAction → Bool
  | .untrack | .resetDamage => true
  | _ => false

def apply {σ : Type} [Renderer σ] (w : Toplevel) (t : HeadlessDisplay × σ) :
    WindowAction → Toplevel × HeadlessDisplay × σ
  | .track => (w.track t.1 t.2).2
  | .untrack => (w.untrack t.1 t.2).2
  | .notify => (w.damageNotify.2, t)
  | .request => ((w.requestDamage t.1).2.1, (w.requestDamage t.1).2.2, t.2)
  | .collect => ((w.collectDamage t.1).2.1, (w.collectDamage t.1).2.2, t.2)
  | .addDamageFull => (w.addDamageFull, t)
  | .discardPixmap => ((w.discardPixmap t.2).1, t.1, (w.discardPixmap t.2).2)
  | .addRepaint g => (w.addRepaint g, t)
  | .resetDamage => (w.resetDamage, t)

end WindowAction

inductive PipelineStep where
  /-- Something is drawn to a window. -/
  | report (id : WindowId) (rects : List Rect)
  | act (id : WindowId) (a : WindowAction)

/-- Windows on a server, outside of any compositor. -/
structure Pipeline (σ : Type) where
  windows : WindowStack
  display : HeadlessDisplay
  renderer : σ

namespace Pipeline

variable {σ : Type} [Renderer σ]

def step (c : Pipeline σ) : PipelineStep → Pipeline σ
  | .report id rects => { c with display := (c.display.reportDamage id rects).2 }
  | .act id a =>
    match c.windows.get? id with
    | none => c
    | some w =>
      let (w, display, renderer) := a.apply w (c.display, c.renderer)
      ⟨c.windows.modify id fun _ => w, display, renderer⟩

def run (c : Pipeline σ) (steps : List PipelineStep) : Pipeline σ := steps.foldl step c

end Pipeline

/-! What passes between a window and the server. -/

namespace HeadlessDisplay

def dropReply (d : HeadlessDisplay) : Option DamageFetch → HeadlessDisplay
  | none => d
  | some fetch => d.discardReply fetch

theorem dropReply_same (d : HeadlessDisplay) (fetch? : Option DamageFetch) :
    (d.dropReply fetch?).damages = d.damages ∧
      (d.dropReply fetch?).nextNumber = d.nextNumber ∧ (d.dropReply fetch?).issued = d.issued := by
  cases fetch? with
  | none => exact ⟨rfl, rfl, rfl⟩
  | some fetch => exact ⟨rfl, rfl, rfl⟩

theorem destroyDamage_same (d : HeadlessDisplay) (handle : DamageHandle) :
    (d.destroyDamage handle).replies = d.replies ∧
      (d.destroyDamage handle).nextNumber = d.nextNumber ∧
      (d.destroyDamage handle).issued = d.issued ∧
      (d.destroyDamage handle).damages = d.damages.filter (·.handle != handle) := by
  rw [destroyDamage]
  split
  · exact ⟨rfl, rfl, rfl, rfl⟩
  · rename_i unknown
    refine ⟨rfl, rfl, rfl, (List.filter_eq_self.mpr fun o ho => ?_).symm⟩
    simpa using fun same => unknown (List.any_eq_true.mpr ⟨o, ho, by simpa using same⟩)

end HeadlessDisplay

/-- What becomes of the server and of a window when something is done with it, and whether what
is damaged of the window is forgotten. -/
inductive Exchange (d : HeadlessDisplay) (w : Toplevel) :
    Bool → HeadlessDisplay → Toplevel → Prop
  | still {forgets : Bool} {u : Toplevel} : u.id = w.id → u.isPlaceholder = w.isPlaceholder →
      u.geometry = w.geometry → u.damage? = w.damage? → u.pendingFetch? = w.pendingFetch? →
      ((∃ o ∈ d.damages, w.damage? = some o.handle) → w.isDamaged = true → u.isDamaged = true) →
      (forgets = false → ∀ p, w.localRect.contains p = true →
        w.damageRegion.contains p = true → u.damageRegion.contains p = true) →
      Exchange d w forgets d u
  | create {u : Toplevel} : w.damage? = none → w.isPlaceholder = false → u.id = w.id →
      u.isPlaceholder = w.isPlaceholder → u.geometry = w.geometry →
      u.damage? = some ⟨d.nextNumber⟩ → u.pendingFetch? = w.pendingFetch? →
      u.damageRegion = Region.ofRect w.localRect →
      Exchange d w false (d.created w.id) u
  | destroy {handle : DamageHandle} : w.damage? = some handle →
      Exchange d w true ((d.dropReply w.pendingFetch?).destroyDamage handle) w.released
  | request {object : DamageObject} : w.damage? = some object.handle → w.pendingFetch? = none →
      object ∈ d.damages →
      Exchange d w false (d.requested object)
        { w with isDamaged := false, pendingFetch? := some ⟨d.nextNumber⟩ }
  | collect {fetch : DamageFetch} : w.pendingFetch? = some fetch →
      Exchange d w false (d.discardReply fetch)
        { w with
          pendingFetch? := none
          damageRegion := w.damageRegion.union (Toplevel.received fetch d)
          windowRepaints := w.windowRepaints.union (Toplevel.received fetch d) }

namespace WindowAction

variable {σ : Type} [Renderer σ]

theorem still_of_same {d : HeadlessDisplay} {w u : Toplevel} (same : Toplevel.Same w u)
    (geometry : u.geometry = w.geometry) {forgets : Bool}
    (region : forgets = false → ∀ p, w.localRect.contains p = true →
      w.damageRegion.contains p = true → u.damageRegion.contains p = true) :
    Exchange d w forgets d u :=
  .still same.id (by rw [Toplevel.isPlaceholder, Toplevel.isPlaceholder, same.kind]) geometry
    same.damage same.awaited (fun _ dirty => same.dirty.trans dirty) region

theorem nothing_exchange {forgets : Bool} (d : HeadlessDisplay) (w : Toplevel) :
    Exchange d w forgets d w :=
  still_of_same (Toplevel.Same.refl w) rfl fun _ _ _ before => before

theorem addDamageFull_exchange (d : HeadlessDisplay) (w : Toplevel) :
    Exchange d w false d w.addDamageFull := by
  have same := w.addDamageFull_same
  rcases w.addDamageFull_cases with ⟨_, e⟩ | ⟨_, e⟩
  · rw [e]
    exact nothing_exchange d w
  · rw [e] at same ⊢
    exact still_of_same same rfl fun _ p inside _ => (Region.contains_ofRect _ p).trans inside

theorem track_exchange (d : HeadlessDisplay) (w : Toplevel) (r : σ) :
    Exchange d w false (w.track d r).2.2.1 (w.track d r).2.1 := by
  rcases w.track_cases d r with
    ⟨_, e⟩ | ⟨untracked, real, ⟨_, d', failed, e⟩ | ⟨handle, d', made, e⟩⟩
  · rw [e]
    exact nothing_exchange d w
  · rcases d.createDamage_cases w.id with ⟨_, answer⟩ | ⟨_, answer⟩
    · simp [DisplayServer.createDamage, answer] at failed
    · obtain rfl : d = d' := (Prod.mk.inj (answer.symm.trans failed)).2
      rw [e]
      exact nothing_exchange d w
  · rcases d.createDamage_cases w.id with ⟨_, answer⟩ | ⟨_, answer⟩
    · simp only [DisplayServer.createDamage, answer, Prod.mk.injEq, Except.ok.injEq] at made
      obtain ⟨rfl, rfl⟩ := made
      rw [e]
      exact .create untracked real rfl rfl rfl rfl rfl rfl
    · simp [DisplayServer.createDamage, answer] at made

theorem untrack_exchange (d : HeadlessDisplay) (w : Toplevel) (r : σ) :
    Exchange d w true (w.untrack d r).2.2.1 (w.untrack d r).2.1 := by
  rcases w.untrack_cases d r with ⟨_, e⟩ | ⟨handle, tracked, e⟩
  · rw [e]
    exact nothing_exchange d w
  · rw [e]
    have destroyed := Exchange.destroy (d := d) tracked
    cases awaited : w.pendingFetch? with
    | none =>
      rw [awaited] at destroyed
      exact destroyed
    | some fetch =>
      rw [awaited] at destroyed
      exact destroyed

/-- The mark of a window that asks in vain is lost, but then no object of it is at the server. -/
theorem request_exchange (d : HeadlessDisplay) (w : Toplevel) :
    Exchange d w false (w.requestDamage d).2.2 (w.requestDamage d).2.1 := by
  rcases w.requestDamage_cases d with
    ⟨_, e⟩ | ⟨_, free, ⟨untracked, e⟩ | ⟨handle, _, d', tracked, failed, e⟩ |
      ⟨handle, fetch, d', tracked, made, e⟩⟩
  · rw [e]
    exact nothing_exchange d w
  · rw [e]
    refine .still rfl rfl rfl rfl rfl ?_ fun _ _ _ before => before
    rintro ⟨_, _, tracked⟩
    simp [untracked] at tracked
  · rcases d.requestDamage_cases handle with ⟨unknown, answer⟩ | ⟨_, _, _, answer⟩
    · obtain rfl : d = d' := (Prod.mk.inj (answer.symm.trans failed)).2
      rw [e]
      refine .still rfl rfl rfl rfl rfl ?_ fun _ _ _ before => before
      rintro ⟨o, ho, holds⟩
      exact (unknown o ho (Option.some.inj (holds.symm.trans tracked))).elim
    · simp [DisplayServer.requestDamage, answer] at failed
  · rcases d.requestDamage_cases handle with ⟨_, answer⟩ | ⟨object, ho, rfl, answer⟩
    · simp [DisplayServer.requestDamage, answer] at made
    · simp only [DisplayServer.requestDamage, answer, Prod.mk.injEq, Except.ok.injEq] at made
      obtain ⟨rfl, rfl⟩ := made
      rw [e]
      exact .request tracked free ho

theorem collect_exchange (d : HeadlessDisplay) (w : Toplevel) :
    Exchange d w false (w.collectDamage d).2.2 (w.collectDamage d).2.1 := by
  rcases w.collectDamage_cases d with ⟨_, e⟩ | ⟨fetch, awaited, e⟩
  · rw [e]
    exact nothing_exchange d w
  · rw [e]
    exact .collect awaited

theorem notify_exchange (d : HeadlessDisplay) (w : Toplevel) :
    Exchange d w false d w.damageNotify.2 := by
  rcases w.damageNotify_cases with ⟨_, e⟩ | ⟨_, e⟩
  · rw [e]
    exact nothing_exchange d w
  · rw [e]
    exact .still rfl rfl rfl rfl rfl (fun _ _ => rfl) fun _ _ _ before => before

theorem addRepaint_exchange (d : HeadlessDisplay) (w : Toplevel) (g : Region) :
    Exchange d w false d (w.addRepaint g) := by
  have same := w.addRepaint_same g
  rw [Toplevel.addRepaint] at same ⊢
  by_cases untracked : w.damage?.isNone = true
  · rw [if_pos untracked]
    exact nothing_exchange d w
  · rw [if_neg untracked] at same ⊢
    exact still_of_same same rfl fun _ _ _ before => before

/-- Whatever is done with a window, it is one of these. -/
theorem exchange (a : WindowAction) (w : Toplevel) (d : HeadlessDisplay) (r : σ) :
    Exchange d w a.forgets (a.apply w (d, r)).2.1 (a.apply w (d, r)).1 := by
  cases a with
  | track => exact track_exchange d w r
  | untrack => exact untrack_exchange d w r
  | notify => exact notify_exchange d w
  | request => exact request_exchange d w
  | collect => exact collect_exchange d w
  | addDamageFull => exact addDamageFull_exchange d w
  | discardPixmap => exact addDamageFull_exchange d w
  | addRepaint g => exact addRepaint_exchange d w g
  | resetDamage => exact .still rfl rfl rfl rfl rfl (fun _ dirty => dirty) (by simp [forgets])

end WindowAction

/-! What waits at the server and in the windows. -/

namespace WindowStack

def Awaits (s : WindowStack) (fetch : DamageFetch) (id : WindowId) : Prop :=
  ∃ w ∈ s.windows, w.id = id ∧ w.pendingFetch? = some fetch

theorem awaits_iff {s : WindowStack} (distinct : s.Distinct) {id : WindowId} {w : Toplevel}
    (found : s.get? id = some w) {fetch : DamageFetch} :
    s.Awaits fetch id ↔ w.pendingFetch? = some fetch :=
  exists_iff_of_get? distinct found

section Replace

variable {s : WindowStack} {id : WindowId} {w u : Toplevel} {fetch : DamageFetch} {i : WindowId}

theorem awaits_replace (found : s.get? id = some w) (same : u.id = id) :
    (s.modify id fun _ => u).Awaits fetch i ↔
      (i = id ∧ u.pendingFetch? = some fetch) ∨ (i ≠ id ∧ s.Awaits fetch i) :=
  exists_replace found same

theorem awaits_same (distinct : s.Distinct) (found : s.get? id = some w) (same : u.id = id)
    (awaited : u.pendingFetch? = w.pendingFetch?) :
    (s.modify id fun _ => u).Awaits fetch i ↔ s.Awaits fetch i := by
  rw [awaits_replace found same, awaited]
  by_cases here : i = id
  · rw [here, awaits_iff distinct found]
    simp
  · simp [here]

/-- A window that awaits a new reply. -/
theorem awaits_posted (found : s.get? id = some w) (same : u.id = id) {new : DamageFetch}
    (asked : u.pendingFetch? = some new) (awaited : (s.modify id fun _ => u).Awaits fetch i) :
    (fetch = new ∧ i = id) ∨ s.Awaits fetch i := by
  rcases (awaits_replace found same).mp awaited with ⟨here, mine⟩ | ⟨_, before⟩
  · exact Or.inl ⟨Option.some.inj (mine.symm.trans asked), here⟩
  · exact Or.inr before

/-- A window that awaits nothing any more. -/
theorem awaits_dropped (found : s.get? id = some w) (same : u.id = id)
    (none : u.pendingFetch? = none) (awaited : (s.modify id fun _ => u).Awaits fetch i) :
    i ≠ id ∧ s.Awaits fetch i := by
  rcases (awaits_replace found same).mp awaited with ⟨_, some⟩ | other
  · simp [none] at some
  · exact other

end Replace

end WindowStack

/-- Each reply that is stored is awaited by one window, and what it holds was cut out of the
window's place. -/
structure Mail (place : WindowId → Rect) (s : WindowStack) (d : HeadlessDisplay) : Prop where
  answered : ∀ fetch id, s.Awaits fetch id → ∃ reply, (fetch, reply) ∈ d.replies
  apart : ∀ fetch i j, s.Awaits fetch i → s.Awaits fetch j → i = j
  once : (d.replies.map (·.1)).Nodup
  early : ∀ e ∈ d.replies, e.1.number.toNat < d.nextNumber.toNat
  exact : ∀ e ∈ d.replies, e.2.extents = Region.bounds ⟨e.2.rects⟩
  letters : ∀ e ∈ d.replies, ∀ id, s.Awaits e.1 id → ∀ q ∈ e.2.rects, q.Within (place id)
  objects : ∀ o ∈ d.damages, ∀ q ∈ o.pending.rects, q.Within (place o.window)

namespace Mail

variable {place : WindowId → Rect} {s s' : WindowStack} {d d' : HeadlessDisplay}

/-- The windows await what they did before. -/
theorem same (h : Mail place s d) (awaits : ∀ fetch id, s'.Awaits fetch id ↔ s.Awaits fetch id)
    (replies : d'.replies = d.replies) (next : d.nextNumber.toNat ≤ d'.nextNumber.toNat)
    (objects : ∀ o ∈ d'.damages, ∀ q ∈ o.pending.rects, q.Within (place o.window)) :
    Mail place s' d' where
  answered := by simpa only [awaits, replies] using h.answered
  apart := by simpa only [awaits] using h.apart
  once := replies ▸ h.once
  early := by
    intro e he
    rw [replies] at he
    exact Nat.lt_of_lt_of_le (h.early e he) next
  exact := replies ▸ h.exact
  letters := by simpa only [awaits, replies] using h.letters
  objects := objects

/-- The object with the handle collects something else. -/
theorem refilled (h : Mail place s d) {handle : DamageHandle} {pending : Region}
    (inside : ∀ o ∈ d.damages, o.handle = handle → ∀ q ∈ pending.rects, q.Within (place o.window)) :
    ∀ o ∈ d.damages.map (HeadlessDisplay.refill handle pending),
      ∀ q ∈ o.pending.rects, q.Within (place o.window) := by
  intro o' ho'
  obtain ⟨o, ho, rfl⟩ := List.mem_map.mp ho'
  rw [HeadlessDisplay.refill]
  split
  · rename_i same
    exact inside o ho (by simpa using same)
  · exact h.objects o ho

/-- A reply that a window does not await any more was awaited by this window alone. -/
theorem freed (h : Mail place s d) (distinct : s.Distinct) {w u : Toplevel}
    (found : s.get? w.id = some w) {fetch f : DamageFetch} {i : WindowId}
    (awaited : w.pendingFetch? = some fetch) (awaits : (s.modify w.id fun _ => u).Awaits f i)
    (same : u.id = w.id) (none : u.pendingFetch? = none) : s.Awaits f i ∧ f ≠ fetch := by
  obtain ⟨other, before⟩ := awaits_dropped found same none awaits
  refine ⟨before, ?_⟩
  rintro rfl
  exact other (h.apart _ _ _ before ((awaits_iff distinct found).mpr awaited))

/-- A reply is taken or dropped. -/
theorem drop (h : Mail place s d) (fetch : DamageFetch)
    (awaits : ∀ f id, s'.Awaits f id → s.Awaits f id ∧ f ≠ fetch)
    (replies : d'.replies = d.replies.filter (·.1 != fetch))
    (next : d'.nextNumber = d.nextNumber)
    (objects : ∀ o ∈ d'.damages, ∀ q ∈ o.pending.rects, q.Within (place o.window)) :
    Mail place s' d' where
  answered := by
    intro f id awaited
    obtain ⟨before, other⟩ := awaits f id awaited
    obtain ⟨reply, stored⟩ := h.answered f id before
    exact ⟨reply, replies ▸ List.mem_filter.mpr ⟨stored, by simpa using other⟩⟩
  apart := fun f i j first second => h.apart f i j (awaits f i first).1 (awaits f j second).1
  once := by
    rw [replies]
    exact h.once.sublist (List.filter_sublist.map _)
  early := by
    intro e he
    rw [next]
    exact h.early e (List.mem_filter.mp (replies ▸ he)).1
  exact := fun e he => h.exact e (List.mem_filter.mp (replies ▸ he)).1
  letters := fun e he id awaited =>
    h.letters e (List.mem_filter.mp (replies ▸ he)).1 id (awaits e.1 id awaited).1
  objects := objects

/-- No reply has the next number yet. -/
theorem next_free (h : Mail place s d) : ∀ e ∈ d.replies, e.1 ≠ ⟨d.nextNumber⟩ := by
  intro e he taken
  have early := h.early e he
  simp [taken] at early

/-- A window begins to await a new reply. -/
theorem post (h : Mail place s d) {id : WindowId} {reply : DamageReply}
    (awaits : ∀ f i, s'.Awaits f i → (f = ⟨d.nextNumber⟩ ∧ i = id) ∨ s.Awaits f i)
    (replies : d'.replies = d.replies.filter (·.1 != ⟨d.nextNumber⟩) ++ [(⟨d.nextNumber⟩, reply)])
    (next : d'.nextNumber.toNat = d.nextNumber.toNat + 1)
    (bounds : reply.extents = Region.bounds ⟨reply.rects⟩)
    (inside : ∀ q ∈ reply.rects, q.Within (place id))
    (objects : ∀ o ∈ d'.damages, ∀ q ∈ o.pending.rects, q.Within (place o.window)) :
    Mail place s' d' := by
  have free := h.next_free
  have kept : d.replies.filter (·.1 != ⟨d.nextNumber⟩) = d.replies :=
    List.filter_eq_self.mpr fun e he => by simpa using free e he
  rw [kept] at replies
  -- nobody else awaits the new number, as what is awaited is stored
  have other (i : WindowId) (awaited : s.Awaits ⟨d.nextNumber⟩ i) : False := by
    obtain ⟨_, stored⟩ := h.answered _ i awaited
    exact free _ stored rfl
  refine ⟨?_, ?_, ?_, ?_, ?_, ?_, objects⟩
  · intro f i awaited
    rw [replies]
    rcases awaits f i awaited with ⟨rfl, _⟩ | before
    · exact ⟨reply, List.mem_append_right _ (List.mem_singleton.mpr rfl)⟩
    · obtain ⟨reply', stored⟩ := h.answered f i before
      exact ⟨reply', List.mem_append_left _ stored⟩
  · intro f i j first second
    rcases awaits f i first with ⟨rfl, rfl⟩ | before
    · rcases awaits _ j second with ⟨_, rfl⟩ | before
      · rfl
      · exact (other j before).elim
    · rcases awaits f j second with ⟨rfl, _⟩ | before'
      · exact (other i before).elim
      · exact h.apart f i j before before'
  · rw [replies]
    exact nodup_map_snoc h.once free
  · intro e he
    rw [next]
    rcases List.mem_append.mp (replies ▸ he) with old | new
    · exact Nat.lt_succ_of_lt (h.early e old)
    · rw [List.mem_singleton.mp new]
      exact Nat.lt_succ_self _
  · intro e he
    rcases List.mem_append.mp (replies ▸ he) with old | new
    · exact h.exact e old
    · rw [List.mem_singleton.mp new]
      exact bounds
  · intro e he i awaited
    rcases List.mem_append.mp (replies ▸ he) with old | new
    · rcases awaits e.1 i awaited with ⟨taken, _⟩ | before
      · exact (free e old taken).elim
      · exact h.letters e old i before
    · rw [List.mem_singleton.mp new] at awaited ⊢
      rcases awaits _ i awaited with ⟨_, rfl⟩ | before
      · exact inside
      · exact (other i before).elim

end Mail

namespace Exchange

variable {place : WindowId → Rect} {s : WindowStack} {d d' : HeadlessDisplay} {w u : Toplevel}
  {forgets : Bool}

theorem stays (ex : Exchange d w forgets d' u) : u.id = w.id ∧ u.localRect = w.localRect := by
  cases ex with
  | still id _ geometry => exact ⟨id, by rw [Toplevel.localRect, Toplevel.localRect, geometry]⟩
  | create _ _ id _ geometry =>
    exact ⟨id, by rw [Toplevel.localRect, Toplevel.localRect, geometry]⟩
  | destroy | request | collect => exact ⟨rfl, rfl⟩

/-- Numbers are only given out. -/
theorem issued (ex : Exchange d w forgets d' u) : d.issued ≤ d'.issued := by
  cases ex with
  | still => exact Nat.le_refl _
  | create => simp
  | destroy =>
    rw [(HeadlessDisplay.destroyDamage_same _ _).2.2.1, (d.dropReply_same _).2.2]
  | request => simp
  | collect => exact Nat.le_refl _

theorem books (ex : Exchange d w forgets d' u) (h : Ledger [] s ⟨d, []⟩)
    (found : s.get? w.id = some w) (left : d'.issued < UInt32.size - 1) :
    Ledger [] (s.modify w.id fun _ => u) ⟨d', []⟩ := by
  cases ex with
  | still id placeholder _ damage awaited dirty _ =>
    cases tracked : w.damage? with
    | none =>
      exact h.retouch (.untracked h.distinct found tracked id (damage.trans tracked))
    | some handle =>
      refine h.retouch (.modify h.distinct w.id fun v hv here => ?_)
      rw [eq_of_get? h.distinct found hv here]
      obtain ⟨o, ho, rfl, _⟩ :=
        (h.owned handle w.id).mpr ((holds_iff h.distinct found).mpr tracked)
      exact ⟨id, placeholder, damage, awaited, dirty ⟨o, ho, tracked⟩⟩
  | create untracked real id placeholder _ holds awaited _ =>
    rw [HeadlessDisplay.created_issued] at left
    exact (h.create found untracked id (placeholder.trans real) holds awaited left).ledger h found
  | @destroy handle tracked =>
    have kept {replies : List (DamageFetch × DamageReply)}
        (dropped : ∀ r ∈ replies, r ∈ d.replies ∧ w.pendingFetch? ≠ some r.1) :
        Ledger [] (s.modify w.id fun _ => w.released)
          ⟨({ d with replies := replies } : HeadlessDisplay).destroyDamage handle, []⟩ := by
      have books := (h.destroy found tracked dropped).ledger h found
      rw [AuditedDisplay.destroyDamage] at books
      have strays := books.strays
      dsimp only at strays
      rwa [strays] at books
    cases awaited : w.pendingFetch? with
    | none => exact kept fun r hr => ⟨hr, by simp [awaited]⟩
    | some fetch =>
      refine kept fun r hr => ?_
      obtain ⟨old, other⟩ := List.mem_filter.mp hr
      refine ⟨old, fun mine => ?_⟩
      simp [Option.some.inj (awaited.symm.trans mine)] at other
  | request tracked free =>
    rw [HeadlessDisplay.requested_issued] at left
    exact (h.request found tracked free left).ledger h found
  | collect awaited =>
    refine (h.collect found awaited ?_).ledger h found
    exact ⟨rfl, rfl, rfl, rfl, fun dirty => dirty⟩

theorem mail (ex : Exchange d w forgets d' u) (h : Ledger [] s ⟨d, []⟩) (mail : Mail place s d)
    (found : s.get? w.id = some w) (left : d'.issued < UInt32.size - 1) :
    Mail place (s.modify w.id fun _ => u) d' := by
  cases ex with
  | still id _ _ _ awaited _ _ =>
    exact mail.same (fun f i => awaits_same h.distinct found id awaited) rfl (Nat.le_refl _)
      mail.objects
  | create untracked _ id _ _ _ awaited _ =>
    rw [HeadlessDisplay.created_issued] at left
    have next : (d.created w.id).nextNumber.toNat = d.nextNumber.toNat + 1 := h.next_number left
    refine mail.same (fun f i => awaits_same h.distinct found id awaited) rfl (by omega) ?_
    intro o ho
    rcases List.mem_append.mp ho with old | new
    · exact mail.objects o (List.mem_filter.mp old).1
    · rw [List.mem_singleton.mp new]
      simp [Region.empty]
  | @destroy handle tracked =>
    obtain ⟨damages, next, _⟩ := d.dropReply_same w.pendingFetch?
    obtain ⟨replies', next', _, damages'⟩ :=
      (d.dropReply w.pendingFetch?).destroyDamage_same handle
    have objects : ∀ o ∈ ((d.dropReply w.pendingFetch?).destroyDamage handle).damages,
        ∀ q ∈ o.pending.rects, q.Within (place o.window) := by
      intro o ho
      rw [damages', damages] at ho
      exact mail.objects o (List.mem_filter.mp ho).1
    cases awaited : w.pendingFetch? with
    | none =>
      rw [awaited] at objects replies' next next'
      exact mail.same (fun f i => awaits_same h.distinct found rfl awaited.symm) replies'
        (Nat.le_of_eq (congrArg _ (next'.trans next).symm)) objects
    | some fetch =>
      rw [awaited] at objects replies' next next'
      exact mail.drop fetch
        (fun f i awaits => mail.freed h.distinct found awaited awaits rfl rfl) replies'
        (next'.trans next) objects
  | @request object tracked free ho =>
    rw [HeadlessDisplay.requested_issued] at left
    have window : object.window = w.id := (h.watched_iff found tracked object ho).mp rfl
    exact mail.post (fun f i => awaits_posted found (by rfl) (by rfl)) rfl (h.next_number left) rfl
      (window ▸ mail.objects object ho) (mail.refilled (by simp [Region.empty]))
  | collect awaited =>
    exact mail.drop _ (fun f i awaits => mail.freed h.distinct found awaited awaits rfl rfl)
      rfl rfl mail.objects

end Exchange

end Compositing
