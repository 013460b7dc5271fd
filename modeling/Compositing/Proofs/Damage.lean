import Compositing.Renderer.Headless
import Compositing.Proofs.Pipeline

/-!
# No damage is lost

A pixel that was reported as damaged is found in the window's damage object, in the reply that the
window awaits or in the window, whatever is done with this window or another, until the window
forgets its damage on purpose. A reply may bring more than was reported, but nothing beyond the
smallest rectangle around it. As with the books, all this holds as long as the server does not
run out of numbers.
-/

namespace Compositing

open WindowStack

/-! What a reply brings. -/

namespace Region

theorem Spans.of_contains {g : Region} {p : Point} (inside : g.contains p = true) : g.Spans p :=
  ⟨⟨p, inside, Int.le_refl _⟩, ⟨p, inside, Int.le_refl _⟩, ⟨p, inside, Int.le_refl _⟩,
    ⟨p, inside, Int.le_refl _⟩⟩

/-- All pixels of the first region are added to the second, and nothing beyond the smallest
rectangle around them; and they alone, if there are few rectangles. -/
structure Adds (fetched old new : Region) : Prop where
  all : ∀ p, (old.contains p || fetched.contains p) = true → new.contains p = true
  tight : ∀ p, new.contains p = true → old.contains p = true ∨ fetched.Spans p
  exact : 1 ≤ fetched.rects.length → fetched.rects.length ≤ 15 →
    ∀ p, new.contains p = (old.contains p || fetched.contains p)

end Region

namespace Toplevel

variable {reply : DamageReply} {r : Rect}

theorem contains_replyRegion (bounds : reply.extents = Region.bounds ⟨reply.rects⟩)
    (inside : ∀ q ∈ reply.rects, q.Within r) {p : Point}
    (fetched : Region.contains ⟨reply.rects⟩ p = true) :
    (replyRegion reply).contains p = true := by
  rw [replyRegion]
  split
  · rw [Region.contains_ofRects]
    exact fetched
  · rw [Region.contains_ofRect, bounds]
    exact Region.contains_bounds_of_contains inside fetched

theorem spans_of_contains_replyRegion (bounds : reply.extents = Region.bounds ⟨reply.rects⟩)
    (inside : ∀ q ∈ reply.rects, q.Within r) {p : Point}
    (added : (replyRegion reply).contains p = true) : Region.Spans ⟨reply.rects⟩ p := by
  rw [replyRegion] at added
  split at added
  · rw [Region.contains_ofRects] at added
    exact Region.Spans.of_contains added
  · rw [Region.contains_ofRect, bounds] at added
    exact Region.spans_of_contains_bounds inside added

/-- The bounds of one rectangle are the rectangle. -/
theorem contains_replyRegion_of_few (bounds : reply.extents = Region.bounds ⟨reply.rects⟩)
    (some : 1 ≤ reply.rects.length) (few : reply.rects.length ≤ 15) (p : Point) :
    (replyRegion reply).contains p = Region.contains ⟨reply.rects⟩ p := by
  rw [replyRegion]
  split
  · exact Region.contains_ofRects reply.rects p
  · rename_i single
    obtain ⟨q, one⟩ : ∃ q, reply.rects = [q] := List.length_eq_one_iff.mp (by omega)
    rw [Region.contains_ofRect, bounds, one, Region.bounds_cons, List.foldl_nil]
    simp [Region.contains]

theorem union_replyRegion_adds (bounds : reply.extents = Region.bounds ⟨reply.rects⟩)
    (inside : ∀ q ∈ reply.rects, q.Within r) (old : Region) :
    Region.Adds ⟨reply.rects⟩ old (old.union (replyRegion reply)) where
  all := by
    intro p either
    rw [Region.contains_union, Bool.or_eq_true]
    exact (Bool.or_eq_true_iff.mp either).imp_right (contains_replyRegion bounds inside)
  tight := by
    intro p added
    rw [Region.contains_union, Bool.or_eq_true] at added
    exact added.imp_right (spans_of_contains_replyRegion bounds inside)
  exact := by
    intro some few p
    rw [Region.contains_union, contains_replyRegion_of_few bounds some few]

end Toplevel

theorem Mail.lookup {place : WindowId → Rect} {s : WindowStack} {d : HeadlessDisplay}
    (h : Mail place s d) {fetch : DamageFetch} {reply : DamageReply}
    (stored : (fetch, reply) ∈ d.replies) : d.replies.lookup fetch = some reply := by
  obtain ⟨before, after, split⟩ := List.append_of_mem stored
  refine List.lookup_eq_some_iff.mpr ⟨before, after, split, fun e he => ?_⟩
  have once := h.once
  rw [split, List.map_append, List.map_cons, List.nodup_middle] at once
  have other : fetch ∉ before.map (·.1) := fun listed =>
    (List.nodup_cons.mp once).1 (List.mem_append_left _ listed)
  have apart : fetch ≠ e.1 := by
    rintro rfl
    exact other (List.mem_map_of_mem he)
  simpa using apart

theorem Mail.received {place : WindowId → Rect} {s : WindowStack} {d : HeadlessDisplay}
    (h : Mail place s d) {fetch : DamageFetch} {reply : DamageReply}
    (stored : (fetch, reply) ∈ d.replies) :
    Toplevel.received fetch d = Toplevel.replyRegion reply :=
  Toplevel.received_eq (d := d) (h.lookup stored)

/-! Where a damaged pixel is found. -/

/-- The pixel is in the window's damage object, in the reply that the window awaits, or in what
is damaged of the window. -/
def Covers (d : HeadlessDisplay) (p : Point) (w : Toplevel) : Prop :=
  (∃ o ∈ d.damages, o.window = w.id ∧ o.pending.contains p = true) ∨
    (∃ fetch reply, w.pendingFetch? = some fetch ∧ (fetch, reply) ∈ d.replies ∧
      Region.contains ⟨reply.rects⟩ p = true) ∨
    w.damageRegion.contains p = true

namespace Exchange

variable {place : WindowId → Rect} {s : WindowStack} {d d' : HeadlessDisplay} {w u v : Toplevel}
  {forgets : Bool} {p : Point}

/-- The objects of other windows stay as they are. -/
theorem objects_stay (ex : Exchange d w forgets d' u) (h : Ledger [] s ⟨d, []⟩)
    (found : s.get? w.id = some w) :
    ∀ o ∈ d.damages, o.window ≠ w.id → o ∈ d'.damages := by
  intro o ho other
  cases ex with
  | still | collect => exact ho
  | create =>
    have free := h.next_fresh o ho
    exact List.mem_append_left _ (List.mem_filter.mpr ⟨ho, by simpa using free⟩)
  | @destroy handle tracked =>
    obtain ⟨_, _, _, damages⟩ := (d.dropReply w.pendingFetch?).destroyDamage_same handle
    rw [damages, (d.dropReply_same _).1]
    refine List.mem_filter.mpr ⟨ho, ?_⟩
    simpa using fun same => other ((h.watched_iff found tracked o ho).mp same)
  | @request object tracked _ member =>
    refine List.mem_map.mpr ⟨o, ho, ?_⟩
    rw [HeadlessDisplay.refill, if_neg]
    simpa using fun same => other ((h.watched_iff found tracked o ho).mp same)

/-- Replies that the window does not await stay. -/
theorem replies_stay (ex : Exchange d w forgets d' u) (mail : Mail place s d) :
    ∀ e ∈ d.replies, w.pendingFetch? ≠ some e.1 → e ∈ d'.replies := by
  intro e he other
  cases ex with
  | still | create => exact he
  | @destroy handle _ =>
    rw [((d.dropReply w.pendingFetch?).destroyDamage_same handle).1]
    cases awaited : w.pendingFetch? with
    | none => exact he
    | some fetch =>
      refine List.mem_filter.mpr ⟨he, ?_⟩
      simpa using fun same => other (awaited.trans (congrArg some same.symm))
  | request =>
    refine List.mem_append_left _ (List.mem_filter.mpr ⟨he, ?_⟩)
    simpa using mail.next_free e he
  | @collect fetch awaited =>
    refine List.mem_filter.mpr ⟨he, ?_⟩
    simpa using fun same => other (awaited.trans (congrArg some same.symm))

theorem covers_other (ex : Exchange d w forgets d' u) (h : Ledger [] s ⟨d, []⟩)
    (mail : Mail place s d) (found : s.get? w.id = some w) (hv : v ∈ s.windows)
    (other : v.id ≠ w.id) (covers : Covers d p v) : Covers d' p v := by
  rcases covers with ⟨o, ho, window, inside⟩ | ⟨fetch, reply, awaited, stored, inside⟩ | inside
  · exact Or.inl ⟨o, ex.objects_stay h found o ho (window ▸ other), window, inside⟩
  · refine Or.inr (Or.inl ⟨fetch, reply, awaited, ?_, inside⟩)
    refine ex.replies_stay mail _ stored fun mine => other ?_
    exact mail.apart fetch _ _ ⟨v, hv, rfl, awaited⟩ ((awaits_iff h.distinct found).mpr mine)
  · exact Or.inr (Or.inr inside)

/-- From the object a pixel goes to the reply, and from the reply to the window. -/
theorem covers_own (ex : Exchange d w false d' u) (h : Ledger [] s ⟨d, []⟩)
    (mail : Mail place s d) (found : s.get? w.id = some w)
    (here : w.localRect.contains p = true) (covers : Covers d p w) : Covers d' p u := by
  cases ex with
  | still id _ _ _ awaited _ region =>
    rw [Covers, id, awaited]
    exact covers.imp_right fun later => later.imp_right (region rfl p here)
  | create _ _ _ _ _ _ _ region =>
    refine Or.inr (Or.inr ?_)
    rw [region, Region.contains_ofRect]
    exact here
  | @request object tracked free ho =>
    rcases covers with ⟨o, ho', window, inside⟩ | ⟨fetch, reply, awaited, _⟩ | inside
    · have same := (h.watched_iff found tracked o ho').mpr window
      obtain rfl := h.object_eq ho' ho same
      refine Or.inr (Or.inl ⟨_, ⟨o.pending.bounds, o.pending.rects⟩, rfl, ?_, inside⟩)
      exact List.mem_append_right _ (List.mem_singleton.mpr rfl)
    · simp [free] at awaited
    · exact Or.inr (Or.inr inside)
  | @collect fetch awaited =>
    rcases covers with object | ⟨fetch', reply, awaited', stored, inside⟩ | inside
    · exact Or.inl object
    · obtain rfl := Option.some.inj (awaited.symm.trans awaited')
      refine Or.inr (Or.inr ?_)
      have awaits := (awaits_iff h.distinct found).mpr awaited
      rw [Region.contains_union, mail.received stored, Bool.or_eq_true]
      exact Or.inr (Toplevel.contains_replyRegion (mail.exact _ stored)
        (mail.letters _ stored _ awaits) inside)
    · refine Or.inr (Or.inr ?_)
      rw [Region.contains_union, inside, Bool.true_or]

end Exchange

/-! The whole pipeline. -/

namespace Pipeline

variable {σ : Type} {place : WindowId → Rect} {c : Pipeline σ} {id : WindowId} {p : Point}

def start (extensions : List Extension) (layout : Layout) (r : σ) (windows : List Toplevel) :
    Pipeline σ :=
  ⟨⟨windows⟩, .new extensions layout, r⟩

structure Sound (place : WindowId → Rect) (c : Pipeline σ) : Prop where
  books : Ledger [] c.windows ⟨c.display, []⟩
  mail : Mail place c.windows c.display
  placed : ∀ w ∈ c.windows.windows, w.localRect = place w.id

def Draws (place : WindowId → Rect) : PipelineStep → Prop
  | .report id rects => ∀ q ∈ rects, q.isEmpty = true ∨ q.Within (place id)
  | .act _ _ => True

def Remembers (id : WindowId) : PipelineStep → Prop
  | .report _ _ => True
  | .act i a => i = id → a.forgets = false

theorem start_sound (extensions : List Extension) (layout : Layout) (r : σ)
    {windows : List Toplevel} (distinct : (⟨windows⟩ : WindowStack).Distinct)
    (untracked : ∀ w ∈ windows, w.damage? = none ∧ w.pendingFetch? = none)
    (placed : ∀ w ∈ windows, w.localRect = place w.id) :
    Sound place (start extensions layout r windows) := by
  have nobody (fetch : DamageFetch) (id : WindowId) :
      ¬(start extensions layout r windows).windows.Awaits fetch id := by
    rintro ⟨w, hw, _, awaited⟩
    simp [(untracked w hw).2] at awaited
  refine ⟨⟨distinct, ?_, ?_, ?_, ?_, ?_, ?_, ?_, ?_, rfl⟩, ⟨?_, ?_, ?_, ?_, ?_, ?_, ?_⟩, placed⟩
  · intro handle id
    constructor
    · rintro ⟨o, ho, _⟩
      simp [start, HeadlessDisplay.new] at ho
    · rintro ⟨w, hw, _, holds⟩
      simp [(untracked w hw).1] at holds
  · simp [start, HeadlessDisplay.new]
  · simp [start, HeadlessDisplay.new]
  · simp [start, HeadlessDisplay.new, HeadlessDisplay.issued]
  · simp [start, HeadlessDisplay.new]
  · exact fun w hw _ => (untracked w hw).1
  · simp [start, HeadlessDisplay.new]
  · simp [start, HeadlessDisplay.new]
  · exact fun fetch id awaits => (nobody fetch id awaits).elim
  · exact fun fetch i _ awaits => (nobody fetch i awaits).elim
  · simp [start, HeadlessDisplay.new]
  · simp [start, HeadlessDisplay.new]
  · simp [start, HeadlessDisplay.new]
  · simp [start, HeadlessDisplay.new]
  · simp [start, HeadlessDisplay.new]

/-! One step. -/

section Step

variable [Renderer σ]

/-- A step is a report, or an exchange of a window with the server, or nothing at all. -/
theorem step_act_cases (c : Pipeline σ) (i : WindowId) (a : WindowAction) :
    c.step (.act i a) = c ∨ ∃ w d r u, c.windows.get? i = some w ∧
      Exchange c.display w a.forgets d u ∧
      c.step (.act i a) = ⟨c.windows.modify i fun _ => u, d, r⟩ := by
  rw [step]
  cases found : c.windows.get? i with
  | none => exact Or.inl rfl
  | some w => exact Or.inr ⟨w, _, _, _, rfl, a.exchange w c.display c.renderer, rfl⟩

theorem step_issued (c : Pipeline σ) (k : PipelineStep) :
    c.display.issued ≤ (c.step k).display.issued := by
  cases k with
  | report i rects =>
    rw [step]
    rcases c.display.reportDamage_cases i rects with ⟨_, e⟩ | ⟨_, _, _, _, _, _, e, _⟩
    · rw [e]
    · rw [e]
      exact Nat.le_refl _
  | act i a =>
    rcases c.step_act_cases i a with e | ⟨w, d, r, u, _, ex, e⟩
    · rw [e]
    · rw [e]
      exact ex.issued

theorem step_sound {k : PipelineStep} (h : Sound place c) (draws : Draws place k)
    (left : (c.step k).display.issued < UInt32.size - 1) : Sound place (c.step k) := by
  cases k with
  | report i rects =>
    have books := h.books.report i rects
    refine ⟨books, ?_, h.placed⟩
    rw [step]
    rcases c.display.reportDamage_cases i rects with
      ⟨_, e⟩ | ⟨object, ho, pending, events, window, drawn, e, _⟩
    · rw [e]
      exact h.mail
    · rw [e]
      refine h.mail.same (fun _ _ => Iff.rfl) rfl (Nat.le_refl _) (h.mail.refilled ?_)
      intro o member same
      obtain rfl := h.books.object_eq member ho same
      rw [drawn, window]
      exact Region.foldl_addRect_within (window ▸ h.mail.objects o ho) draws
  | act i a =>
    rcases c.step_act_cases i a with e | ⟨w, d, r, u, found, ex, e⟩
    · rw [e]
      exact h
    · obtain ⟨hw, rfl⟩ := mem_of_get? found
      rw [e] at left ⊢
      refine ⟨ex.books h.books found left, ex.mail h.books h.mail found left, ?_⟩
      intro v hv
      rcases (mem_replace found).mp hv with rfl | ⟨hv, _⟩
      · rw [ex.stays.1, ex.stays.2]
        exact h.placed w hw
      · exact h.placed v hv

def Covered (c : Pipeline σ) (id : WindowId) (p : Point) : Prop :=
  ∃ w ∈ c.windows.windows, w.id = id ∧ Covers c.display p w

omit [Renderer σ] in
theorem refill_covers {d : HeadlessDisplay} {object : DamageObject} {pending : Region}
    {events : List DisplayEvent} (h : ∀ o ∈ d.damages, o.handle = object.handle → o = object)
    (more : object.pending.contains p = true → pending.contains p = true) {w : Toplevel}
    (covers : Covers d p w) :
    Covers { d with
      damages := d.damages.map (HeadlessDisplay.refill object.handle pending)
      events := events } p w := by
  rcases covers with ⟨o, ho, window, inside⟩ | later
  · refine Or.inl ⟨_, List.mem_map_of_mem ho, ?_, ?_⟩
    · rw [HeadlessDisplay.refill_window, window]
    · rw [HeadlessDisplay.refill]
      split
      · rename_i same
        obtain rfl := h o ho (by simpa using same)
        exact more inside
      · exact inside
  · exact Or.inr later

/-- What is drawn to a tracked window is damaged. -/
theorem report_covers (h : Sound place c) {rects : List Rect}
    (tracked : ∃ w ∈ c.windows.windows, w.id = id ∧ w.damage?.isSome = true) {q : Rect}
    (hq : q ∈ rects) (inside : q.contains p = true) :
    Covered (c.step (.report id rects)) id p := by
  obtain ⟨w, hw, rfl, tracked⟩ := tracked
  obtain ⟨handle, holds⟩ := Option.isSome_iff_exists.mp tracked
  obtain ⟨o, ho, _, watched⟩ := (h.books.owned handle w.id).mpr ⟨w, hw, rfl, holds⟩
  refine ⟨w, hw, rfl, Or.inl ?_⟩
  rw [step]
  rcases c.display.reportDamage_cases w.id rects with
    ⟨unknown, _⟩ | ⟨object, ho', pending, events, window, drawn, e, _⟩
  · exact (unknown o ho watched).elim
  · rw [e]
    refine ⟨_, List.mem_map_of_mem ho', ?_, ?_⟩
    · rw [HeadlessDisplay.refill_window, window]
    · rw [HeadlessDisplay.refill, if_pos (by simp), drawn, Region.contains_foldl_addRect,
        Bool.or_eq_true]
      exact Or.inr (List.any_eq_true.mpr ⟨q, hq, inside⟩)

theorem step_covered {k : PipelineStep} (h : Sound place c) (remembers : Remembers id k)
    (inside : (place id).contains p = true) (covered : Covered c id p) :
    Covered (c.step k) id p := by
  obtain ⟨v, hv, same, covers⟩ := covered
  cases k with
  | report i rects =>
    refine ⟨v, hv, same, ?_⟩
    rw [step]
    rcases c.display.reportDamage_cases i rects with
      ⟨_, e⟩ | ⟨object, ho, pending, events, _, drawn, e, _⟩
    · rw [e]
      exact covers
    · rw [e]
      refine refill_covers (fun o member same => h.books.object_eq member ho same) ?_ covers
      intro before
      rw [drawn, Region.contains_foldl_addRect, before, Bool.true_or]
  | act i a =>
    rcases c.step_act_cases i a with e | ⟨w, d, r, u, found, ex, e⟩
    · rw [e]
      exact ⟨v, hv, same, covers⟩
    · obtain ⟨hw, rfl⟩ := mem_of_get? found
      rw [e]
      by_cases mine : v.id = w.id
      · obtain rfl := eq_of_get? h.books.distinct found hv mine
        rw [remembers same] at ex
        have here : v.localRect.contains p = true := by rwa [h.placed v hv, same]
        exact ⟨u, (mem_replace found).mpr (Or.inl rfl), ex.stays.1.trans same,
          ex.covers_own h.books h.mail found here covers⟩
      · exact ⟨v, (mem_replace found).mpr (Or.inr ⟨hv, mine⟩), same,
          ex.covers_other h.books h.mail found hv mine covers⟩

end Step

/-! A run. -/

section Run

variable [Renderer σ]

theorem run_issued (c : Pipeline σ) (steps : List PipelineStep) :
    c.display.issued ≤ (c.run steps).display.issued := by
  induction steps generalizing c with
  | nil => exact Nat.le_refl _
  | cons k rest ih => exact Nat.le_trans (c.step_issued k) (ih (c.step k))

theorem run_append (c : Pipeline σ) (before after : List PipelineStep) :
    c.run (before ++ after) = (c.run before).run after :=
  List.foldl_append

theorem run_sound {steps : List PipelineStep} (h : Sound place c)
    (draws : ∀ k ∈ steps, Draws place k) (left : (c.run steps).display.issued < UInt32.size - 1) :
    Sound place (c.run steps) := by
  induction steps generalizing c with
  | nil => exact h
  | cons k rest ih =>
    have more := (c.step k).run_issued rest
    refine ih (step_sound h (draws k List.mem_cons_self) ?_) ?_ left
    · exact Nat.lt_of_le_of_lt more left
    · exact fun k' later => draws k' (List.mem_cons_of_mem k later)

theorem run_covered {steps : List PipelineStep} (h : Sound place c)
    (draws : ∀ k ∈ steps, Draws place k) (remembers : ∀ k ∈ steps, Remembers id k)
    (left : (c.run steps).display.issued < UInt32.size - 1)
    (inside : (place id).contains p = true) (covered : Covered c id p) :
    Covered (c.run steps) id p := by
  induction steps generalizing c with
  | nil => exact covered
  | cons k rest ih =>
    have more := (c.step k).run_issued rest
    refine ih (step_sound h (draws k List.mem_cons_self) (Nat.lt_of_le_of_lt more left)) ?_ ?_ left
      (step_covered h (remembers k List.mem_cons_self) inside covered)
    · exact fun k' later => draws k' (List.mem_cons_of_mem k later)
    · exact fun k' later => remembers k' (List.mem_cons_of_mem k later)

/-- What was drawn at some time is still damaged in the end. -/
theorem run_drawn_covered {before after : List PipelineStep} {rects : List Rect}
    (h : Sound place c) (draws : ∀ k ∈ before ++ .report id rects :: after, Draws place k)
    (remembers : ∀ k ∈ after, Remembers id k)
    (left : (c.run (before ++ .report id rects :: after)).display.issued < UInt32.size - 1)
    (tracked : ∃ w ∈ (c.run before).windows.windows, w.id = id ∧ w.damage?.isSome = true)
    {q : Rect} (hq : q ∈ rects) (drawn : q.contains p = true) :
    Covered (c.run (before ++ .report id rects :: after)) id p := by
  rw [run_append] at left ⊢
  simp only [List.forall_mem_append, List.forall_mem_cons] at draws
  obtain ⟨earlier, drawing, later⟩ := draws
  have first := run_sound h earlier (Nat.lt_of_le_of_lt (run_issued _ _) left)
  have second := step_sound first drawing (Nat.lt_of_le_of_lt (run_issued _ after) left)
  have here : (place id).contains p = true := by
    rcases drawing q hq with empty | within
    · rw [Rect.contains_of_isEmpty empty] at drawn
      simp at drawn
    · exact within.contains drawn
  have damaged := report_covers first tracked hq drawn
  have last := run_covered second later remembers left here damaged
  exact last

end Run

/-! What holds at every moment. -/

/-- The replies that are stored are those that the windows await, one for each. -/
theorem Sound.replies (h : Sound place c) :
    (c.display.replies.map (·.1)).Perm (c.windows.windows.filterMap (·.pendingFetch?)) := by
  have once : (c.windows.windows.filterMap (·.pendingFetch?)).Nodup := by
    refine List.pairwise_filterMap.mpr ?_
    refine (List.Nodup.of_map _ h.books.distinct).imp_of_mem ?_
    rintro v w hv hw other f awaited _ awaited' rfl
    exact other (eq_of_id_eq h.books.distinct hv hw
      (h.mail.apart f _ _ ⟨v, hv, rfl, awaited⟩ ⟨w, hw, rfl, awaited'⟩))
  refine (List.perm_ext_iff_of_nodup h.mail.once once).mpr fun f => ?_
  rw [List.mem_filterMap, List.mem_map]
  constructor
  · rintro ⟨e, he, rfl⟩
    obtain ⟨w, hw, _, awaited⟩ := h.books.awaited e he
    exact ⟨w, hw, awaited⟩
  · rintro ⟨w, hw, awaited⟩
    obtain ⟨reply, stored⟩ := h.mail.answered f w.id ⟨w, hw, rfl, awaited⟩
    exact ⟨(f, reply), stored, rfl⟩

/-- A window collects what its reply holds. -/
theorem Sound.collects (h : Sound place c) {w : Toplevel} (hw : w ∈ c.windows.windows)
    {fetch : DamageFetch} (awaited : w.pendingFetch? = some fetch) :
    ∃ reply, c.display.replies.lookup fetch = some reply ∧
      Region.Adds ⟨reply.rects⟩ w.damageRegion (w.collectDamage c.display).2.1.damageRegion ∧
      Region.Adds ⟨reply.rects⟩ w.windowRepaints
        (w.collectDamage c.display).2.1.windowRepaints := by
  have awaits : c.windows.Awaits fetch w.id := ⟨w, hw, rfl, awaited⟩
  obtain ⟨reply, stored⟩ := h.mail.answered fetch w.id awaits
  have bounds := h.mail.exact _ stored
  have inside := h.mail.letters _ stored w.id awaits
  refine ⟨reply, h.mail.lookup stored, ?_⟩
  rcases w.collectDamage_cases c.display with ⟨none, _⟩ | ⟨fetch', awaited', e⟩
  · simp [none] at awaited
  · obtain rfl := Option.some.inj (awaited.symm.trans awaited')
    rw [e, h.mail.received stored]
    exact ⟨Toplevel.union_replyRegion_adds bounds inside _,
      Toplevel.union_replyRegion_adds bounds inside _⟩

/-- The handle of a covering object is the window's own. -/
theorem Sound.covers (h : Sound place c) {w : Toplevel} (hw : w ∈ c.windows.windows)
    (covers : Covers c.display p w) :
    (∃ o ∈ c.display.damages, w.damage? = some o.handle ∧ o.pending.contains p = true) ∨
      (∃ fetch reply, w.pendingFetch? = some fetch ∧
        c.display.replies.lookup fetch = some reply ∧
        Region.contains ⟨reply.rects⟩ p = true) ∨
      w.damageRegion.contains p = true := by
  rcases covers with ⟨o, ho, window, inside⟩ | ⟨fetch, reply, awaited, stored, inside⟩ | inside
  · obtain ⟨v, hv, same, holds⟩ := (h.books.owned o.handle w.id).mp ⟨o, ho, rfl, window⟩
    obtain rfl := eq_of_id_eq h.books.distinct hv hw same
    exact Or.inl ⟨o, ho, holds, inside⟩
  · exact Or.inr (Or.inl ⟨fetch, reply, awaited, h.mail.lookup stored, inside⟩)
  · exact Or.inr (Or.inr inside)

/-- Whatever is done with windows of small extents, in whatever order: every pixel that was drawn
to a tracked window is in its damage object, in the reply that it awaits or in what is damaged of
it, until the window is let go or reset. The replies that are stored are those that the windows
await, one for each, and a window that awaits one asks for no other. Collecting a reply adds its
pixels to what is damaged and what is to be painted, and hardly more. -/
theorem damage_never_lost [Renderer σ] (extensions : List Extension) (layout : Layout) (r : σ)
    {windows : List Toplevel} (distinct : (⟨windows⟩ : WindowStack).Distinct)
    (untracked : ∀ w ∈ windows, w.damage? = none ∧ w.pendingFetch? = none)
    (small : ∀ w ∈ windows, w.geometry.size.Small) {steps : List PipelineStep}
    (inside : ∀ id rects, .report id rects ∈ steps → ∃ w ∈ windows, w.id = id ∧
      ∀ q ∈ rects, q.isEmpty = true ∨ q.LiesIn w.geometry.size)
    {c : Pipeline σ} (reached : c = (start extensions layout r windows).run steps)
    (left : c.display.issued < UInt32.size - 1) :
    (∀ before id rects after, steps = before ++ .report id rects :: after →
      (∃ w ∈ ((start extensions layout r windows).run before).windows.windows,
        w.id = id ∧ w.damage?.isSome = true) →
      (∀ a, .act id a ∈ after → a.forgets = false) →
      ∀ q ∈ rects, ∀ p, q.contains p = true → ∃ w ∈ c.windows.windows, w.id = id ∧
        ((∃ o ∈ c.display.damages, w.damage? = some o.handle ∧ o.pending.contains p = true) ∨
          (∃ fetch reply, w.pendingFetch? = some fetch ∧
            c.display.replies.lookup fetch = some reply ∧
            Region.contains ⟨reply.rects⟩ p = true) ∨
          w.damageRegion.contains p = true)) ∧
      ((c.display.replies.map (·.1)).Nodup ∧
        (c.display.replies.map (·.1)).Perm (c.windows.windows.filterMap (·.pendingFetch?))) ∧
      ∀ w ∈ c.windows.windows, ∀ fetch, w.pendingFetch? = some fetch →
        w.requestDamage c.display = (false, w, c.display) ∧
        ∃ reply, c.display.replies.lookup fetch = some reply ∧
          Region.Adds ⟨reply.rects⟩ w.damageRegion
            (w.collectDamage c.display).2.1.damageRegion ∧
          Region.Adds ⟨reply.rects⟩ w.windowRepaints
            (w.collectDamage c.display).2.1.windowRepaints := by
  let place : WindowId → Rect := fun id =>
    (((⟨windows⟩ : WindowStack).get? id).map (·.localRect)).getD Rect.empty
  have placed : ∀ w ∈ windows, w.localRect = place w.id := by
    intro w hw
    simp only [place, get?_of_mem distinct hw, Option.map_some, Option.getD_some]
  have begun : Sound place (start extensions layout r windows) :=
    start_sound extensions layout r distinct untracked placed
  have draws : ∀ k ∈ steps, Draws place k := by
    intro k hk
    cases k with
    | act => trivial
    | report id rects =>
      obtain ⟨w, hw, rfl, lies⟩ := inside id rects hk
      intro q hq
      rw [← placed w hw]
      by_cases filled : q.isEmpty = true
      · exact Or.inl filled
      · exact Or.inr (((lies q hq).resolve_left filled).within (small w hw) (by simpa using filled))
  have sound : Sound place c := reached ▸ run_sound begun draws (reached ▸ left)
  refine ⟨?_, ⟨sound.mail.once, sound.replies⟩, fun w hw fetch awaited => ⟨?_, ?_⟩⟩
  · rintro before id rects after rfl tracked remembers q hq p drawn
    have remembers : ∀ k ∈ after, Remembers id k := by
      intro k hk
      cases k with
      | report => trivial
      | act i a =>
        rintro rfl
        exact remembers a hk
    obtain ⟨w, hw, same, covers⟩ : Covered c id p :=
      reached ▸ run_drawn_covered begun draws remembers (reached ▸ left) tracked hq drawn
    exact ⟨w, hw, same, sound.covers hw covers⟩
  · rw [Toplevel.requestDamage, if_pos (by simp [awaited])]
  · exact sound.collects hw awaited

/-- Two windows; the first is drawn to again while it awaits a reply. -/
def overtaken : List Toplevel :=
  [.unmanaged ⟨1⟩ (.ofCoords 0 0 100 100), .unmanaged ⟨2⟩ (.ofCoords 50 50 100 100)]

def beforeOvertaking : List PipelineStep :=
  [.act ⟨1⟩ .track, .act ⟨2⟩ .track, .act ⟨1⟩ .resetDamage]

def overtaking : List PipelineStep :=
  [.act ⟨1⟩ .notify, .act ⟨1⟩ .request, .report ⟨1⟩ [.ofCoords 20 20 5 5], .act ⟨1⟩ .notify,
    .act ⟨1⟩ .request, .act ⟨2⟩ .collect]

def overtakingSteps : List PipelineStep :=
  beforeOvertaking ++ .report ⟨1⟩ [.ofCoords 10 10 5 5] :: overtaking

def overtook : Pipeline HeadlessRenderer :=
  (start Extension.all (.single 200 200) (.new ⟨9⟩ fun _ => 0) overtaken).run overtakingSteps

/-- What was drawn first is in the reply, as it is found neither in the object nor in the window. -/
theorem overtook_damage_kept :
    (∃ w ∈ overtook.windows.windows, w.id = ⟨1⟩ ∧ ∃ fetch reply, w.pendingFetch? = some fetch ∧
      overtook.display.replies.lookup fetch = some reply ∧
      Region.contains ⟨reply.rects⟩ ⟨12, 12⟩ = true) ∧
    (overtook.display.replies.map (·.1)).Perm
      (overtook.windows.windows.filterMap (·.pendingFetch?)) := by
  have distinct : (⟨overtaken⟩ : WindowStack).Distinct := by
    show [(⟨1⟩ : WindowId), ⟨2⟩].Nodup
    decide
  have untracked : ∀ w ∈ overtaken, w.damage? = none ∧ w.pendingFetch? = none := by
    simp [overtaken, Toplevel.unmanaged, Toplevel.new]
  have small : ∀ w ∈ overtaken, w.geometry.size.Small := by
    simp only [overtaken, List.forall_mem_cons, List.not_mem_nil, false_implies, implies_true,
      and_true]
    exact ⟨⟨by decide, by decide⟩, by decide, by decide⟩
  have inside : ∀ id rects, .report id rects ∈ overtakingSteps → ∃ w ∈ overtaken, w.id = id ∧
      ∀ q ∈ rects, q.isEmpty = true ∨ q.LiesIn w.geometry.size := by
    intro id rects drawn
    have either : id = ⟨1⟩ ∧ (rects = [.ofCoords 10 10 5 5] ∨ rects = [.ofCoords 20 20 5 5]) := by
      simpa [overtakingSteps, beforeOvertaking, overtaking, ← and_or_left] using drawn
    obtain ⟨rfl, rfl | rfl⟩ := either
    · refine ⟨_, List.mem_cons_self, rfl, fun q hq => Or.inr ?_⟩
      rw [List.mem_singleton.mp hq]
      exact ⟨by decide, by decide, by decide, by decide⟩
    · refine ⟨_, List.mem_cons_self, rfl, fun q hq => Or.inr ?_⟩
      rw [List.mem_singleton.mp hq]
      exact ⟨by decide, by decide, by decide, by decide⟩
  have issued : overtook.display.issued = 3 := rfl
  have left : overtook.display.issued < UInt32.size - 1 := by
    rw [issued]
    decide
  obtain ⟨kept, ⟨_, each⟩, _⟩ := damage_never_lost Extension.all (.single 200 200)
    (HeadlessRenderer.new ⟨9⟩ fun _ => 0) distinct untracked small inside (c := overtook) rfl left
  refine ⟨?_, each⟩
  obtain ⟨w, hw, same, places⟩ := kept beforeOvertaking ⟨1⟩ [.ofCoords 10 10 5 5] overtaking rfl
    ⟨_, List.mem_cons_self, rfl, rfl⟩ (by simp [overtaking, WindowAction.forgets])
    (.ofCoords 10 10 5 5) List.mem_cons_self ⟨12, 12⟩ (by decide)
  have only : ∃ v u, overtook.windows.windows = [v, u] ∧ u.id = ⟨2⟩ ∧
      v.damageRegion.contains ⟨12, 12⟩ = false := ⟨_, _, rfl, rfl, by decide +kernel⟩
  have objects : ∀ o ∈ overtook.display.damages, o.pending.contains ⟨12, 12⟩ = false := by
    decide +kernel
  obtain ⟨v, u, two, other, clear⟩ := only
  refine ⟨w, hw, same, ?_⟩
  rcases places with ⟨o, ho, _, found⟩ | reply | found
  · simp [objects o ho] at found
  · exact reply
  · rcases (List.mem_pair.mp (two ▸ hw)) with rfl | rfl
    · simp [clear] at found
    · simp [other] at same

end Pipeline

end Compositing
