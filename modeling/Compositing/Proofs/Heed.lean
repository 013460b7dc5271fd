import Compositing.Proofs.Denial
import Mathlib.Tactic.IntervalCases

/-!
# Whether a failed request is made up for

What was drawn to a tracked window stays in its damage object until a frame takes it from there
and adds it to the window, however many requests fail in between. But a frame asks only for the
objects of windows that are marked, and a request that fails takes the mark off. Unless another
notice is on its way, nobody marks the window again: the server announces an object only when it
begins to hold something, and this one still does. So all damage arrives if and only if no
frame neglects an object in this way, and what one frame neglects no later one takes.
-/

namespace Compositing

open WindowStack

structure DamageObject.Grows (o o' : DamageObject) : Prop where
  handle : o'.handle = o.handle
  window : o'.window = o.window
  contains : ∀ p, o.pending.contains p = true → o'.pending.contains p = true
  filled : o.pending.isEmpty = false → o'.pending.isEmpty = false

theorem DamageObject.Grows.refl (o : DamageObject) : Grows o o :=
  ⟨rfl, rfl, fun _ inside => inside, fun filled => filled⟩

theorem DamageObject.Grows.trans {o o' o'' : DamageObject} (first : Grows o o')
    (second : Grows o' o'') : Grows o o'' where
  handle := second.handle.trans first.handle
  window := second.window.trans first.window
  contains := fun p inside => second.contains p (first.contains p inside)
  filled := fun filled => second.filled (first.filled filled)

theorem Region.foldl_addRect_filled {rs : List Rect} {g : Region} (filled : g.isEmpty = false) :
    (rs.foldl Region.addRect g).isEmpty = false := by
  induction rs generalizing g with
  | nil => exact filled
  | cons r rest ih =>
    refine ih ?_
    rw [addRect]
    split
    · exact filled
    · simp only [isEmpty, List.isEmpty_eq_false_iff] at filled ⊢
      exact List.append_ne_nil_of_left_ne_nil filled _

namespace HeadlessDisplay

variable {d : HeadlessDisplay} {id : WindowId} {rects : List Rect} {p : Point}

theorem find_handle (once : (d.damages.map (·.handle)).Nodup) {o : DamageObject}
    (ho : o ∈ d.damages) : d.damages.find? (·.handle == o.handle) = some o := by
  cases found : d.damages.find? (·.handle == o.handle) with
  | none => simpa using List.find?_eq_none.mp found o ho
  | some v =>
    have same : v.handle = o.handle := by simpa using List.find?_some found
    rw [List.inj_on_of_nodup_map once (List.mem_of_find?_eq_some found) ho same]

def Owes (d : HeadlessDisplay) (id : WindowId) (p : Point) : Prop :=
  ∃ o ∈ d.damages, o.window = id ∧ o.pending.contains p = true

/-- The window's object holds something, and neither a mark nor a notice says so. -/
structure Overlooks (d : HeadlessDisplay) (w : Toplevel) (o : DamageObject) : Prop where
  member : o ∈ d.damages
  own : w.damage? = some o.handle
  filled : o.pending.isEmpty = false
  unmarked : w.isDamaged = false
  unannounced : .damaged w.id ∉ d.events

/-! Reports. -/

/-- A report takes nothing out of an object. -/
theorem report_grows (once : (d.damages.map (·.handle)).Nodup) {o : DamageObject}
    (ho : o ∈ d.damages) (id : WindowId) (rects : List Rect) :
    ∃ o' ∈ (d.reportDamage id rects).2.damages, o.Grows o' := by
  rcases d.reportDamage_cases id rects with ⟨_, e⟩ | ⟨object, member, pending, _, _, added, e, _⟩
  · rw [e]
    exact ⟨o, ho, DamageObject.Grows.refl o⟩
  · rw [e]
    by_cases same : o.handle = object.handle
    · obtain rfl := List.inj_on_of_nodup_map once ho member same
      have more : refill o.handle pending o = { o with pending := pending } := if_pos (by simp)
      refine ⟨_, List.mem_map.mpr ⟨o, ho, more⟩, rfl, rfl, fun p inside => ?_, fun filled => ?_⟩
      · rw [added, Region.contains_foldl_addRect, inside, Bool.true_or]
      · rw [added]
        exact Region.foldl_addRect_filled filled
    · have kept : refill object.handle pending o = o := if_neg (by simpa using same)
      exact ⟨o, List.mem_map.mpr ⟨o, ho, kept⟩, DamageObject.Grows.refl o⟩

/-- What is drawn to a watched window is owed. -/
theorem report_owes (watched : ∃ o ∈ d.damages, o.window = id) {q : Rect} (hq : q ∈ rects)
    (inside : q.contains p = true) : (d.reportDamage id rects).2.Owes id p := by
  obtain ⟨o, ho, window⟩ := watched
  rcases d.reportDamage_cases id rects with
    ⟨unknown, _⟩ | ⟨object, member, pending, _, same, added, e, _⟩
  · exact (unknown o ho window).elim
  · rw [e]
    refine ⟨_, List.mem_map_of_mem member, ?_, ?_⟩
    · rw [refill_window, same]
    · rw [refill, if_pos (by simp), added, Region.contains_foldl_addRect, Bool.or_eq_true]
      exact Or.inr (List.any_eq_true.mpr ⟨q, hq, inside⟩)

/-- A report is announced only if the object was empty. -/
theorem reportDamage_events (d : HeadlessDisplay) (id : WindowId) (rects : List Rect) :
    (d.reportDamage id rects).2.events = d.events ∨
      (∃ o ∈ d.damages, o.window = id ∧ o.pending.isEmpty = true) ∧
        (d.reportDamage id rects).2.events = d.events ++ [.damaged id] := by
  rw [reportDamage]
  split
  · exact Or.inl rfl
  · rename_i object found
    dsimp only
    split
    · rename_i begins
      have window : object.window = id := by simpa using List.find?_some found
      exact Or.inr ⟨⟨object, List.mem_of_find?_eq_some found, window,
        (Bool.and_eq_true_iff.mp begins).1⟩, rfl⟩
    · exact Or.inl rfl

end HeadlessDisplay

namespace Ledger

variable {s : WindowStack} {d : HeadlessDisplay}

/-- An object of which neither a mark nor a notice tells is overlooked. -/
theorem of_heeded {lost : List DisplayEvent} (h : Ledger lost s ⟨d, []⟩)
    (heeded : ∀ w ∈ s.windows, ∀ o, ¬d.Overlooks w o) : Ledger [] s ⟨d, []⟩ := by
  refine { h with announced := fun o ho filled => ?_ }
  obtain ⟨w, hw, same, holds⟩ := (h.owned o.handle o.window).mp ⟨o, ho, rfl, rfl⟩
  by_cases marked : w.isDamaged = true
  · exact Or.inr ⟨w, hw, same, marked⟩
  · by_cases coming : .damaged o.window ∈ d.events
    · exact Or.inl coming
    · rw [← same] at coming
      exact (heeded w hw o ⟨ho, holds, filled, by simpa using marked, coming⟩).elim

theorem heeded (h : Ledger [] s ⟨d, []⟩) : ∀ w ∈ s.windows, ∀ o, ¬d.Overlooks w o := by
  rintro w hw o ⟨ho, own, filled, unmarked, unannounced⟩
  obtain ⟨v, hv, same, holds⟩ := (h.owned o.handle o.window).mp ⟨o, ho, rfl, rfl⟩
  obtain rfl := h.holder_eq hw hv own holds
  rcases h.announced o ho filled with coming | ⟨v, hv, same', marked⟩
  · exact unannounced (same ▸ coming)
  · obtain rfl := eq_of_id_eq h.distinct hv hw (same'.trans same.symm)
    simp [unmarked] at marked

/-- What is overlooked is not announced when more is drawn. -/
theorem report_overlooks {lost : List DisplayEvent} (h : Ledger lost s ⟨d, []⟩) {w : Toplevel}
    (hw : w ∈ s.windows) {o : DamageObject} (overlooks : d.Overlooks w o) (id : WindowId)
    (rects : List Rect) :
    ∃ o', (d.reportDamage id rects).2.Overlooks w o' ∧ o.Grows o' := by
  obtain ⟨ho, own, filled, unmarked, unannounced⟩ := overlooks
  obtain ⟨o', ho', grows⟩ := HeadlessDisplay.report_grows h.once ho id rects
  refine ⟨o', ⟨ho', own.trans (by rw [grows.handle]), grows.filled filled, unmarked, ?_⟩, grows⟩
  rcases d.reportDamage_events id rects with same | ⟨⟨v, hv, here, empty⟩, news⟩
  · rw [same]
    exact unannounced
  · -- the notice is about another window, as the object of this one was not empty
    rw [news]
    refine fun coming => (List.mem_append.mp coming).elim unannounced fun new => ?_
    obtain rfl : w.id = id := by simpa using new
    have watched := (h.watched_iff (get?_of_mem h.distinct hw) own v hv).mpr here
    obtain rfl := h.object_eq hv ho watched
    simp [filled] at empty

end Ledger

/-- A report of what was drawn, the delivery of the waiting events, or a frame. -/
def Step.Routine {ω : Type} (change : ω → DisplayChange) : Step ω → Prop
  | .outside o => ∃ id rects, change o = .reportDamage id rects
  | .dispatchDisplayEvents | .performCompositing => True
  | _ => False

theorem Step.Routine.cases {ω : Type} {change : ω → DisplayChange} {k : Step ω}
    (routine : k.Routine change) :
    (∃ o id rects, k = .outside o ∧ change o = .reportDamage id rects) ∨
      k = .dispatchDisplayEvents ∨ k = .performCompositing := by
  cases k with
  | outside o =>
    obtain ⟨id, rects, e⟩ := routine
    exact Or.inl ⟨o, id, rects, rfl, e⟩
  | dispatchDisplayEvents => exact Or.inr (Or.inl rfl)
  | performCompositing => exact Or.inr (Or.inr rfl)
  | _ => exact routine.elim

namespace Compositor

variable {ω σ : Type} [Renderer σ] {place : WindowId → Rect}
  {c : Compositor (Flaky HeadlessDisplay) σ} {id : WindowId} {p : Point}

/-- A frame made now takes the pixel out of the window's object, and adds it to what is damaged of
the window and to what is to be painted of it. -/
structure Folds (c : Compositor (Flaky HeadlessDisplay) σ) (id : WindowId) (p : Point) : Prop where
  visible : c.overlayVisible = true
  owed : c.display.server.Owes id p
  taken : ¬c.fetchDamage.display.server.Owes id p
  added : ∃ w ∈ c.fetchDamage.windows.windows, w.id = id ∧ w.damageRegion.contains p = true ∧
    w.windowRepaints.contains p = true

/-- A frame made now is denied nothing of the window, which is tracked, and all notices of it were
delivered. -/
structure Grants (c : Compositor (Flaky HeadlessDisplay) σ) (id : WindowId) : Prop where
  visible : c.overlayVisible = true
  tracked : ∃ handle, c.windows.Holds handle id ∧ handle ∉ c.denied
  delivered : .damaged id ∉ c.display.server.events

def Heeded (c : Compositor (Flaky HeadlessDisplay) σ) : Prop :=
  ∀ w ∈ c.windows.windows, ∀ o, ¬c.display.server.Overlooks w o

/-- A frame made now is denied an object that holds something, and no other notice of it is
waiting. -/
def Neglects (c : Compositor (Flaky HeadlessDisplay) σ) : Prop :=
  c.overlayVisible = true ∧ ∃ w ∈ c.windows.windows, ∃ o ∈ c.display.server.damages,
    w.dirty? = some o.handle ∧ o.handle ∈ c.denied ∧ o.pending.isEmpty = false ∧
      .damaged w.id ∉ c.display.server.events

/-! One frame. -/

section Frame

variable (h : c.Consistent place) (visible : c.overlayVisible = true)
  (left : c.performCompositing.display.server.issued < UInt32.size - 1)
include h visible left

/-- An object that is not granted stays as it is. -/
theorem frame_leaves {o : DamageObject} (ho : o ∈ c.display.server.damages)
    (free : o.handle ∉ c.granted) : o ∈ c.performCompositing.display.server.damages := by
  rw [(frame_server h visible left).1]
  exact List.mem_map.mpr ⟨o, ho, by simp [HeadlessDisplay.drained, free]⟩

/-- What waits in an object that is asked for and not denied is folded. -/
theorem folds_of_asked {o : DamageObject} (ho : o ∈ c.display.server.damages) {w : Toplevel}
    (hw : w ∈ c.windows.windows) (asked : w.dirty? = some o.handle) (free : o.handle ∉ c.denied)
    (inside : o.pending.contains p = true) : c.Folds o.window p := by
  obtain ⟨lost, books⟩ := h.books
  rw [(performCompositing_visible visible).1] at left
  obtain ⟨windows, objects, _⟩ := fetchDamage_frame h left
  have granted : o.handle ∈ c.granted := (mem_granted h).mpr ⟨⟨w, hw, asked⟩, free⟩
  refine ⟨visible, ⟨o, ho, rfl, inside⟩, ?_, ?_⟩
  · rintro ⟨v', hv', window, waits⟩
    rw [objects] at hv'
    obtain ⟨v, hv, rfl⟩ := List.mem_map.mp hv'
    rw [HeadlessDisplay.drained_window] at window
    have same : v.handle = o.handle := (books.handle_eq_iff hv ho).mpr window
    simp [HeadlessDisplay.drained, same, granted, Region.contains_empty] at waits
  · obtain ⟨v, hv, id, holds⟩ := (books.owned o.handle o.window).mp ⟨o, ho, rfl, rfl⟩
    obtain rfl := books.holder_eq hw hv (Toplevel.damage_of_dirty asked) holds
    have brings : (c.obtained w).contains p = true := by
      have own : (w.mutedBy c.denied).dirty? = some o.handle :=
        Toplevel.dirty?_mutedBy.mpr ⟨asked, free⟩
      rw [obtained, HeadlessDisplay.due, own, Option.map_some, Option.getD_some,
        HeadlessDisplay.holding, HeadlessDisplay.find_handle books.once ho]
      exact Toplevel.contains_replyRegion rfl (h.inside o ho) inside
    refine ⟨w.folded (c.obtained w), windows ▸ List.mem_map_of_mem hw, id, ?_, ?_⟩
    · rw [Toplevel.folded, Region.contains_union, brings, Bool.or_true]
    · rw [Toplevel.folded, Region.contains_union, brings, Bool.or_true]

/-- A frame folds what it gets, and the server still owes the rest. -/
theorem frame_owes (owed : c.display.server.Owes id p) :
    c.Folds id p ∨ c.performCompositing.display.server.Owes id p := by
  obtain ⟨o, ho, rfl, inside⟩ := owed
  by_cases granted : o.handle ∈ c.granted
  · obtain ⟨⟨w, hw, asked⟩, free⟩ := (mem_granted h).mp granted
    exact Or.inl (folds_of_asked h visible left ho hw asked free inside)
  · exact Or.inr ⟨o, frame_leaves h visible left ho granted, rfl, inside⟩

/-- A frame does not ask for what is overlooked. -/
theorem frame_overlooks {w w' : Toplevel} (hw : w ∈ c.windows.windows)
    (id : w'.id = w.id) (damage : w'.damage? = w.damage?) (off : w'.isDamaged = false)
    {o : DamageObject} (overlooks : c.display.server.Overlooks w o) :
    c.performCompositing.display.server.Overlooks w' o := by
  obtain ⟨lost, books⟩ := h.books
  obtain ⟨ho, own, filled, unmarked, unannounced⟩ := overlooks
  have skipped : o.handle ∉ c.granted := by
    intro granted
    obtain ⟨⟨v, hv, asked⟩, _⟩ := (mem_granted h).mp granted
    obtain rfl := books.holder_eq hv hw (Toplevel.damage_of_dirty asked) own
    simp [Toplevel.dirty?, unmarked] at asked
  refine ⟨frame_leaves h visible left ho skipped, damage.trans own, filled, off, ?_⟩
  rw [(frame_server h visible left).2, id]
  exact unannounced

end Frame

theorem frame_heeded (h : c.Consistent place)
    (left : c.performCompositing.display.server.issued < UInt32.size - 1) (heeded : c.Heeded)
    (attentive : ¬c.Neglects) : c.performCompositing.Heeded := by
  cases visible : c.overlayVisible with
  | false =>
    rw [c.performCompositing_hidden visible]
    exact heeded
  | true =>
    rintro w' hw' o' ⟨ho', own, filled, unmarked, unannounced⟩
    obtain ⟨w, hw, id, damage, _⟩ := frame_window h visible left hw'
    obtain ⟨objects, events⟩ := frame_server h visible left
    rw [events, id] at unannounced
    rw [objects] at ho'
    obtain ⟨o, ho, rfl⟩ := List.mem_map.mp ho'
    rw [HeadlessDisplay.drained_handle, damage] at own
    by_cases granted : o.handle ∈ c.granted
    · simp [HeadlessDisplay.drained, granted, Region.isEmpty, Region.empty] at filled
    · have kept : HeadlessDisplay.drained c.granted o = o := by
        simp [HeadlessDisplay.drained, granted]
      rw [kept] at filled
      by_cases marked : w.isDamaged = true
      · -- what is asked for and not granted is denied
        have asked : w.dirty? = some o.handle := by rw [Toplevel.dirty?, if_pos marked, own]
        have denied : o.handle ∈ c.denied := by
          by_contra free
          exact granted ((mem_granted h).mpr ⟨⟨w, hw, asked⟩, free⟩)
        exact attentive ⟨visible, w, hw, o, ho, asked, denied, filled, unannounced⟩
      · exact heeded w hw o ⟨ho, own, filled, by simpa using marked, unannounced⟩

/-- What a frame neglects is overlooked afterwards. -/
theorem not_heeded_of_neglects (h : c.Consistent place)
    (left : c.performCompositing.display.server.issued < UInt32.size - 1)
    (neglects : c.Neglects) : ¬c.performCompositing.Heeded := by
  obtain ⟨visible, w, hw, o, ho, asked, denied, filled, unannounced⟩ := neglects
  obtain ⟨server, look, painted, same⟩ := performCompositing_visible visible
  have skipped : o.handle ∉ c.granted := fun granted => ((mem_granted h).mp granted).2 denied
  have kept := frame_leaves h visible left ho skipped
  have events := (frame_server h visible left).2
  rw [server] at left
  have member : look (w.folded (c.obtained w)) ∈ c.performCompositing.windows.windows := by
    rw [painted, (fetchDamage_frame h left).1]
    exact List.mem_map_of_mem (List.mem_map_of_mem hw)
  obtain ⟨id, damage, mark⟩ := same (w.folded (c.obtained w))
  have own := Toplevel.damage_of_dirty asked
  refine fun heeded => heeded _ member o ⟨kept, damage.trans own, filled, mark, ?_⟩
  rw [events, id]
  exact unannounced

/-- All that is owed to a window is folded if the window is granted its request, as it makes one. -/
theorem folds_of_heeded (h : c.Consistent place)
    (left : c.performCompositing.display.server.issued < UInt32.size - 1) (heeded : c.Heeded)
    (grants : c.Grants id) (owed : c.display.server.Owes id p) : c.Folds id p := by
  obtain ⟨lost, books⟩ := h.books
  obtain ⟨visible, ⟨handle, ⟨w, hw, rfl, own⟩, free⟩, delivered⟩ := grants
  obtain ⟨o, ho, window, inside⟩ := owed
  obtain rfl := (books.watched_iff (get?_of_mem books.distinct hw) own o ho).mpr window
  have filled : o.pending.isEmpty = false := by
    obtain ⟨q, hq, _⟩ := List.any_eq_true.mp inside
    rw [Region.isEmpty, List.isEmpty_eq_false_iff_exists_mem]
    exact ⟨q, hq⟩
  have marked : w.isDamaged = true := by
    by_contra unmarked
    exact heeded w hw o ⟨ho, own, filled, by simpa using unmarked, delivered⟩
  have asked : w.dirty? = some o.handle := by rw [Toplevel.dirty?, if_pos marked, own]
  exact window ▸ folds_of_asked h visible left ho hw asked free inside

/-! The steps of a routine. -/

/-- The delivery of the events takes them from the server and does nothing else there, as far as
tracked windows go. -/
theorem delivery (distinct : c.windows.Distinct) {w' : Toplevel}
    (hw' : w' ∈ c.dispatchDisplayEvents.2.windows.windows) (tracked : w'.damage?.isSome = true) :
    c.dispatchDisplayEvents.2.display.server = c.display.server.takeEvents.2 ∧
      ∃ w ∈ c.windows.windows, w'.id = w.id ∧ w'.damage? = w.damage? ∧
        (w'.isDamaged = true ↔
          w.isDamaged = true ∨ .damaged w.id ∈ c.display.server.events) := by
  obtain ⟨server, w, hw, id, damage, marks⟩ := dispatch_tracked distinct hw' tracked
  exact ⟨congrArg Flaky.server server, w, hw, id, damage, marks⟩

section Steps

variable {change : ω → DisplayChange} {renderer : ω → σ → σ}
  {W : World ω (Flaky HeadlessDisplay) σ}
  (others : W = (DisplayChange.world change renderer).flaky) {k : Step ω}
include others

theorem step_report {o : ω} {rects : List Rect} (report : change o = .reportDamage id rects) :
    (c.step W (.outside o)).windows = c.windows ∧
      (c.step W (.outside o)).display.server = (c.display.server.reportDamage id rects).2 := by
  subst others
  refine ⟨rfl, ?_⟩
  show (change o).apply c.display.server = _
  rw [report, DisplayChange.apply]

variable (routine : k.Routine change) (h : c.Consistent place)
  (h' : (c.step W k).Consistent place)
include routine h h'

/-- What is overlooked stays overlooked, and windows are not tracked anew. -/
theorem step_overlooks {w' : Toplevel} (hw' : w' ∈ (c.step W k).windows.windows)
    (tracked : w'.damage?.isSome = true) :
    ∃ w ∈ c.windows.windows, w'.id = w.id ∧ w'.damage? = w.damage? ∧
      ∀ o, c.display.server.Overlooks w o →
        ∃ o', (c.step W k).display.server.Overlooks w' o' ∧ o.Grows o' := by
  obtain ⟨lost, books⟩ := h.books
  rcases routine.cases with ⟨o, i, rects, rfl, report⟩ | rfl | rfl
  · obtain ⟨windows, server⟩ := step_report (c := c) others report
    rw [windows] at hw'
    rw [server]
    exact ⟨w', hw', rfl, rfl, fun o overlooks => books.report_overlooks hw' overlooks i rects⟩
  · obtain ⟨server, w, hw, id, damage, marks⟩ := delivery books.distinct hw' tracked
    refine ⟨w, hw, id, damage, fun o overlooks => ⟨o, ?_, DamageObject.Grows.refl o⟩⟩
    obtain ⟨ho, own, filled, unmarked, unannounced⟩ := overlooks
    have off : w'.isDamaged ≠ true := fun on =>
      (marks.mp on).elim (by simp [unmarked]) unannounced
    rw [step, server]
    exact ⟨ho, damage.trans own, filled, by simpa using off, List.not_mem_nil⟩
  · rw [step] at hw' h' ⊢
    cases visible : c.overlayVisible with
    | false =>
      rw [c.performCompositing_hidden visible] at hw' ⊢
      exact ⟨w', hw', rfl, rfl, fun o overlooks => ⟨o, overlooks, DamageObject.Grows.refl o⟩⟩
    | true =>
      obtain ⟨w, hw, id, damage, off⟩ := frame_window h visible h'.left hw'
      refine ⟨w, hw, id, damage, fun o overlooks => ⟨o, ?_, DamageObject.Grows.refl o⟩⟩
      exact frame_overlooks h visible h'.left hw id damage off overlooks

/-- What is owed to a window that is still tracked is folded now or owed further on. -/
theorem step_owes (owed : c.display.server.Owes id p)
    (tracked : ∃ w ∈ (c.step W k).windows.windows, w.id = id ∧ w.damage?.isSome = true) :
    (k = .performCompositing ∧ c.Folds id p) ∨ (c.step W k).display.server.Owes id p := by
  obtain ⟨lost, books⟩ := h.books
  rcases routine.cases with ⟨o, i, rects, rfl, report⟩ | rfl | rfl
  · obtain ⟨v, hv, rfl, inside⟩ := owed
    obtain ⟨v', hv', grows⟩ := HeadlessDisplay.report_grows books.once hv i rects
    rw [(step_report others report).2]
    exact Or.inr ⟨v', hv', grows.window, grows.contains p inside⟩
  · obtain ⟨w', hw', _, tracked⟩ := tracked
    rw [step, (delivery books.distinct hw' tracked).1]
    exact Or.inr owed
  · rw [step] at h' ⊢
    cases visible : c.overlayVisible with
    | false =>
      rw [c.performCompositing_hidden visible]
      exact Or.inr owed
    | true => exact (frame_owes h visible h'.left owed).imp_left fun folds => ⟨rfl, folds⟩

theorem step_heeded (heeded : c.Heeded) (attentive : k = .performCompositing → ¬c.Neglects) :
    (c.step W k).Heeded := by
  obtain ⟨lost, books⟩ := h.books
  rcases routine.cases with ⟨o, i, rects, rfl, report⟩ | rfl | rfl
  · obtain ⟨windows, server⟩ := step_report (c := c) others report
    rw [Heeded, windows, server]
    exact ((books.of_heeded heeded).report i rects).heeded
  · rintro w' hw' o ⟨ho, own, filled, unmarked, _⟩
    obtain ⟨server, w, hw, id, damage, marks⟩ := delivery books.distinct hw' (by simp [own])
    rw [step, server] at ho
    have untold : ¬(w.isDamaged = true ∨ .damaged w.id ∈ c.display.server.events) :=
      fun told => by simp [marks.mpr told] at unmarked
    obtain ⟨off, unannounced⟩ := not_or.mp untold
    exact heeded w hw o ⟨ho, damage.symm.trans own, filled, by simpa using off, unannounced⟩
  · exact frame_heeded h h'.left heeded (attentive rfl)

end Steps

/-! Whole runs. -/

def Sustains (place : WindowId → Rect) (W : World ω (Flaky HeadlessDisplay) σ)
    (c : Compositor (Flaky HeadlessDisplay) σ) (steps : List (Step ω)) : Prop :=
  ∀ before, before <+: steps → (c.run W before).Consistent place

namespace Sustains

variable {W : World ω (Flaky HeadlessDisplay) σ} {steps before after : List (Step ω)} {k : Step ω}

theorem start (h : c.Sustains place W steps) : c.Consistent place := h [] List.nil_prefix

theorem next (h : c.Sustains place W steps) (taken : before ++ [k] <+: steps) :
    ((c.run W before).step W k).Consistent place :=
  c.run_snoc W before k ▸ h (before ++ [k]) taken

/-- A part of the run is a run of its own. -/
theorem part (h : c.Sustains place W steps) (reached : before ++ after <+: steps) :
    (c.run W before).Sustains place W after := by
  rintro first ⟨rest, rfl⟩
  rw [← run_append]
  refine h _ (List.IsPrefix.trans ⟨rest, ?_⟩ reached)
  rw [List.append_assoc]

theorem tail (h : c.Sustains place W (k :: steps)) : (c.step W k).Sustains place W steps :=
  h.part (show [k] ++ steps <+: k :: steps from List.prefix_rfl)

end Sustains

section Runs

variable {change : ω → DisplayChange} {renderer : ω → σ → σ}
  {W : World ω (Flaky HeadlessDisplay) σ}
  (others : W = (DisplayChange.world change renderer).flaky) {steps : List (Step ω)}
  (routine : ∀ k ∈ steps, k.Routine change) (sustained : c.Sustains place W steps)
include others routine sustained

/-- What is overlooked at the beginning of a run is overlooked at its end. -/
theorem run_overlooks {w' : Toplevel} (hw' : w' ∈ (c.run W steps).windows.windows)
    (tracked : w'.damage?.isSome = true) :
    ∃ w ∈ c.windows.windows, w'.id = w.id ∧ w'.damage? = w.damage? ∧
      ∀ o, c.display.server.Overlooks w o →
        ∃ o', (c.run W steps).display.server.Overlooks w' o' ∧ o.Grows o' := by
  induction steps generalizing c with
  | nil => exact ⟨w', hw', rfl, rfl, fun o overlooks => ⟨o, overlooks, .refl o⟩⟩
  | cons k rest ih =>
    obtain ⟨usual, onward⟩ := List.forall_mem_cons.mp routine
    obtain ⟨v, hv, id, damage, later⟩ := ih onward sustained.tail hw'
    obtain ⟨w, hw, id', damage', first⟩ := step_overlooks others usual sustained.start
      sustained.tail.start hv (damage ▸ tracked)
    refine ⟨w, hw, id.trans id', damage.trans damage', fun o overlooks => ?_⟩
    obtain ⟨o', overlooks', grows⟩ := first o overlooks
    obtain ⟨o'', overlooks'', grows'⟩ := later o' overlooks'
    exact ⟨o'', overlooks'', grows.trans grows'⟩

/-- What is owed at the beginning of a run is folded by one of its frames or owed at its end. -/
theorem run_owes (owed : c.display.server.Owes id p)
    (tracked : ∃ w ∈ (c.run W steps).windows.windows, w.id = id ∧ w.damage?.isSome = true) :
    (∃ before, before ++ [.performCompositing] <+: steps ∧ (c.run W before).Folds id p) ∨
      (c.run W steps).display.server.Owes id p := by
  induction steps generalizing c with
  | nil => exact Or.inr owed
  | cons k rest ih =>
    obtain ⟨usual, onward⟩ := List.forall_mem_cons.mp routine
    obtain ⟨w', hw', same, known⟩ := tracked
    obtain ⟨w, hw, id, damage, _⟩ := run_overlooks others onward sustained.tail hw' known
    have halfway : ∃ w ∈ (c.step W k).windows.windows, w.id = _ ∧ w.damage?.isSome = true :=
      ⟨w, hw, id.symm.trans same, damage ▸ known⟩
    rcases step_owes others usual sustained.start sustained.tail.start owed halfway with
      ⟨rfl, folds⟩ | owed
    · exact Or.inl ⟨[], ⟨rest, rfl⟩, folds⟩
    · refine (ih onward sustained.tail owed ⟨w', hw', same, known⟩).imp_left ?_
      rintro ⟨before, reached, folds⟩
      exact ⟨k :: before, List.cons_prefix_cons.mpr ⟨rfl, reached⟩, folds⟩

/-- Nothing is overlooked in a run if and only if nothing was before and no frame neglects what it
is denied. -/
theorem run_heeded :
    (∀ before, before <+: steps → (c.run W before).Heeded) ↔
      c.Heeded ∧ ∀ before, before ++ [.performCompositing] <+: steps →
        ¬(c.run W before).Neglects := by
  constructor
  · intro heeded
    refine ⟨heeded [] List.nil_prefix, fun before taken neglects => ?_⟩
    have earlier := sustained before ((List.prefix_append _ _).trans taken)
    have noticed := heeded _ taken
    rw [run_snoc] at noticed
    exact not_heeded_of_neglects earlier (sustained.next taken).left neglects noticed
  · rintro ⟨start, attentive⟩ before reached
    refine run_along (P := Heeded) _ start (fun before k taken heeded => ?_) reached
    have earlier := sustained before ((List.prefix_append _ _).trans taken)
    refine step_heeded others (routine k (taken.subset (by simp))) earlier (sustained.next taken)
      heeded ?_
    rintro rfl
    exact attentive before taken

end Runs

/-- What was drawn to a window is folded by the time that the window is granted its request, if
nothing is overlooked then. -/
theorem report_folded {change : ω → DisplayChange} {renderer : ω → σ → σ}
    {W : World ω (Flaky HeadlessDisplay) σ}
    (others : W = (DisplayChange.world change renderer).flaky) {o : ω} {rects : List Rect}
    (report : change o = .reportDamage id rects) {between : List (Step ω)}
    (routine : ∀ k ∈ between, k.Routine change)
    (sustained : c.Sustains place W (.outside o :: between ++ [.performCompositing]))
    (heeded : (c.run W (.outside o :: between)).Heeded)
    (grants : (c.run W (.outside o :: between)).Grants id) {q : Rect} (hq : q ∈ rects)
    (inside : q.contains p = true) :
    ∃ since, since ++ [.performCompositing] <+: between ++ [.performCompositing] ∧
      (c.run W (.outside o :: since)).Folds id p := by
  obtain ⟨lost, books⟩ := sustained.start.books
  obtain ⟨windows, server⟩ := step_report (c := c) others report
  obtain ⟨handle, ⟨w', hw', same, own⟩, _⟩ := grants.tracked
  have tracked : w'.damage?.isSome = true := by rw [own]; rfl
  have first : (c.step W (.outside o)).Sustains place W between :=
    fun before reached => sustained.tail before (reached.trans (List.prefix_append between _))
  obtain ⟨w, hw, id', damage, _⟩ := run_overlooks others routine first hw' tracked
  rw [windows] at hw
  obtain ⟨v, hv, _, window⟩ := (books.owned handle id).mpr
    ⟨w, hw, id'.symm.trans same, damage.symm.trans own⟩
  have owed : (c.step W (.outside o)).display.server.Owes id p := by
    rw [server]
    exact HeadlessDisplay.report_owes ⟨v, hv, window⟩ hq inside
  rcases run_owes others routine first owed ⟨w', hw', same, tracked⟩ with
    ⟨before, reached, folds⟩ | owed
  · exact ⟨before, reached.trans (List.prefix_append between _), folds⟩
  · have whole : (.outside o :: between) ++ [.performCompositing] <+:
        .outside o :: between ++ [.performCompositing] := List.prefix_rfl
    have final := sustained.next whole
    exact ⟨between, List.prefix_rfl,
      folds_of_heeded (first between List.prefix_rfl) final.left heeded grants owed⟩

/-- From whatever compositor on a flaky server the calls have led to, let reports, deliveries of
events and frames follow in any order. Nothing is overlooked at any moment of this run if and only
if nothing was when it began and no frame of it neglects what it is denied. Whenever nothing is
overlooked, a frame that is granted a window's request has folded all that was reported of the
window before, itself or through the frames since the report. And what is overlooked once is
never asked for again, but stays in its object as long as the window is tracked. -/
theorem heeded_iff_never_neglects (change : ω → DisplayChange) (renderer : ω → σ → σ)
    (offers : List Extension) (layout : Layout) (fails : Nat → Bool) (r : σ)
    (options : CompositingOptions) (place : WindowId → Rect) {history steps : List (Step ω)}
    (fresh : ∀ k ∈ history, k.AddsFresh) (routine : ∀ k ∈ steps, k.Routine change)
    (drawn : ∀ o, .outside o ∈ history ++ steps → (change o).Draws place)
    {W : World ω (Flaky HeadlessDisplay) σ}
    (others : W = (DisplayChange.world change renderer).flaky)
    {c : Compositor (Flaky HeadlessDisplay) σ}
    (reached : c = (Compositor.new ⟨.new offers layout, fails, 0⟩ r options).run W history)
    (left : (c.run W steps).display.server.issued < UInt32.size - 1) :
    ((∀ before, before <+: steps → (c.run W before).Heeded) ↔
        c.Heeded ∧ ∀ before, before ++ [.performCompositing] <+: steps →
          ¬(c.run W before).Neglects) ∧
      (∀ before o id rects between, change o = .reportDamage id rects →
        before ++ (.outside o :: between ++ [.performCompositing]) <+: steps →
        (c.run W (before ++ .outside o :: between)).Heeded →
        (c.run W (before ++ .outside o :: between)).Grants id →
        ∀ q ∈ rects, ∀ p, q.contains p = true →
          ∃ since, since ++ [.performCompositing] <+: between ++ [.performCompositing] ∧
            (c.run W (before ++ .outside o :: since)).Folds id p) ∧
      ∀ before after, before ++ after <+: steps → ∀ w ∈ (c.run W before).windows.windows, ∀ o,
        (c.run W before).display.server.Overlooks w o →
        ∀ w' ∈ (c.run W (before ++ after)).windows.windows, w'.id = w.id →
          w'.damage?.isSome = true →
          ∃ o', (c.run W (before ++ after)).display.server.Overlooks w' o' ∧ o.Grows o' := by
  have sustained : c.Sustains place W steps := by
    subst others
    rintro before ⟨after, rfl⟩
    have adds {part : List (Step ω)} (listed : part ⊆ before ++ after) :
        ∀ k ∈ part, k.AddsFresh := by
      intro k hk
      rcases (routine k (listed hk)).cases with ⟨_, _, _, rfl, _⟩ | rfl | rfl
      all_goals trivial
    have start := congrArg (run (DisplayChange.world change renderer).flaky · before) reached
    rw [← run_append] at start
    have earlier : ∀ k ∈ history ++ before, k.AddsFresh :=
      List.forall_mem_append.mpr ⟨fresh, adds (List.subset_append_left _ _)⟩
    rw [run_append] at left
    have more := Nat.lt_of_le_of_lt
      (run_issued change renderer (adds (List.subset_append_right before after))
        (start ▸ run_distinct _ _ r options _) (start ▸ run_calm _ _ r options earlier)) left
    refine run_consistent change renderer offers layout fails r options earlier ?_ start more
    intro o ho
    refine drawn o (List.mem_append.mpr ((List.mem_append.mp ho).imp_right fun listed => ?_))
    exact List.mem_append_left _ listed
  refine ⟨run_heeded others routine sustained, ?_, ?_⟩
  · intro before o id rects between report taken heeded grants q hq p inside
    rw [run_append] at heeded grants
    obtain ⟨since, shorter, folds⟩ := report_folded others report
      (fun k hk => routine k (taken.subset (by simp [hk]))) (sustained.part taken) heeded grants
      hq inside
    refine ⟨since, shorter, ?_⟩
    rw [run_append]
    exact folds
  · intro before after reached w hw o overlooks w' hw' same tracked
    have later := sustained.part reached
    obtain ⟨lost, books⟩ := later.start.books
    rw [run_append] at hw' ⊢
    obtain ⟨v, hv, id, _, onward⟩ := run_overlooks others
      (fun k hk => routine k (reached.subset (List.mem_append_right before hk))) later hw' tracked
    obtain rfl := eq_of_id_eq books.distinct hv hw (id.symm.trans same)
    exact onward o overlooks

end Compositor

/-! A notice that follows the failed request, and one that was spent before. -/

namespace Compositor

def forsaken : Compositor (Flaky HeadlessDisplay) HeadlessRenderer :=
  Compositor.new ⟨.new Extension.all (.single 1920 1080), (· == 0), 0⟩ (.new ⟨1⟩ fun _ => 0)
    CompositingOptions.standard

def settlingSteps : List (Step DisplayChange) :=
  [.setup, .addWindow (.unmanaged ⟨1⟩ (.ofCoords 0 0 100 100)), .performCompositing]

theorem settlingSteps_fresh : ∀ k ∈ settlingSteps, k.AddsFresh := by
  simp [settlingSteps, Step.AddsFresh]

def cornerDrawn : Step DisplayChange := .outside (.reportDamage ⟨1⟩ [.ofCoords 0 0 5 5])

/-- The window is marked before anything was drawn to it. -/
def forewarned : Compositor (Flaky HeadlessDisplay) HeadlessRenderer :=
  forsaken.run (DisplayChange.world id fun _ r => r).flaky
    (settlingSteps ++ [.handleDisplayEvent (.damaged ⟨1⟩)])

/-- The request of the first frame fails, and the notice of what it was for comes after it. -/
def noticeFollows : List (Step DisplayChange) :=
  [cornerDrawn, .performCompositing, .dispatchDisplayEvents, .performCompositing]

/-- The notice makes up for the failed request. -/
theorem noticeFollows_folded :
    (∀ before, before <+: noticeFollows →
        (forewarned.run (DisplayChange.world id fun _ r => r).flaky before).Heeded) ∧
      ∃ since, since ++ [.performCompositing] <+: noticeFollows.tail ∧
        (forewarned.run (DisplayChange.world id fun _ r => r).flaky
          (cornerDrawn :: since)).Folds ⟨1⟩ ⟨2, 2⟩ := by
  let place : WindowId → Rect := fun _ => .ofCoords 0 0 100 100
  have fresh : ∀ k ∈ settlingSteps ++ [.handleDisplayEvent (.damaged ⟨1⟩)], k.AddsFresh :=
    List.forall_mem_append.mpr ⟨settlingSteps_fresh, by simp [Step.AddsFresh]⟩
  have routine : ∀ k ∈ noticeFollows, k.Routine id := by
    simp [noticeFollows, cornerDrawn, Step.Routine]
  have drawn (o : DisplayChange) (listed : .outside o ∈
      (settlingSteps ++ [.handleDisplayEvent (.damaged ⟨1⟩)]) ++ noticeFollows) :
      (id o).Draws place := by
    obtain rfl : o = .reportDamage ⟨1⟩ [.ofCoords 0 0 5 5] := by
      simpa [settlingSteps, noticeFollows, cornerDrawn] using listed
    have corner : (Rect.ofCoords 0 0 5 5).Within (.ofCoords 0 0 100 100) := by
      constructor <;> decide
    intro q hq
    rw [List.mem_singleton.mp hq]
    exact Or.inr corner
  obtain ⟨heeded, folded, _⟩ := heeded_iff_never_neglects id (fun _ r => r) Extension.all
    (.single 1920 1080) (· == 0) (HeadlessRenderer.new ⟨1⟩ fun _ => 0)
    CompositingOptions.standard place fresh routine drawn rfl (c := forewarned) rfl (by decide)
  have attentive : forewarned.Heeded ∧ ∀ before, before ++ [.performCompositing] <+: noticeFollows →
      ¬(forewarned.run (DisplayChange.world id fun _ r => r).flaky before).Neglects := by
    refine ⟨?_, fun before reached => ?_⟩
    · rintro w hw o ⟨_, _, _, unmarked, _⟩
      obtain rfl := List.mem_singleton.mp hw
      cases unmarked
    · obtain ⟨taken, next, short⟩ := Step.taken_at reached
      change before.length < 4 at short
      rw [taken]
      generalize before.length = n at short next
      rintro ⟨_, w, hw, o, _, _, denied, _, unannounced⟩
      interval_cases n
      · cases next
      · -- the notice is still waiting
        obtain rfl := List.mem_singleton.mp hw
        exact unannounced (List.mem_singleton_self _)
      · cases next
      · cases denied
  have all := heeded.mpr attentive
  have grants : (forewarned.run (DisplayChange.world id fun _ r => r).flaky
      [cornerDrawn, .performCompositing, .dispatchDisplayEvents]).Grants ⟨1⟩ := by
    refine ⟨rfl, ⟨⟨1⟩, ⟨_, List.mem_singleton_self _, rfl, rfl⟩, ?_⟩, ?_⟩
    · exact List.not_mem_nil
    · exact List.not_mem_nil
  exact ⟨all, folded [] _ ⟨1⟩ _ [.performCompositing, .dispatchDisplayEvents] rfl List.prefix_rfl
    (all _ ⟨[.performCompositing], rfl⟩) grants _ (List.mem_singleton_self _) _ rfl⟩

/-- The notice of what is drawn to the window was taken before the request for it fails. -/
def noticeSpent : List (Step DisplayChange) :=
  settlingSteps ++
    [cornerDrawn, .dispatchDisplayEvents, .performCompositing, .dispatchDisplayEvents]

/-- The window is not marked any more, and a frame of which no request fails gets nothing of what
was drawn. -/
theorem noticeSpent_owed :
    let c := forsaken.run (DisplayChange.world id fun _ r => r).flaky noticeSpent
    c.Grants ⟨1⟩ ∧ c.denied = [] ∧ (∀ w ∈ c.windows.windows, w.isDamaged = false) ∧
      c.performCompositing.display.server.Owes ⟨1⟩ ⟨2, 2⟩ ∧
      ∀ w ∈ c.fetchDamage.windows.windows, w.damageRegion.contains ⟨2, 2⟩ = false ∧
        w.windowRepaints.contains ⟨2, 2⟩ = false := by
  refine ⟨⟨rfl, ?_, List.not_mem_nil⟩, rfl, fun w hw => ?_, ?_, fun w hw => ?_⟩
  · exact ⟨⟨1⟩, ⟨_, List.mem_singleton_self _, rfl, rfl⟩, List.not_mem_nil⟩
  · obtain rfl := List.mem_singleton.mp hw
    rfl
  · exact ⟨_, List.mem_singleton_self _, rfl, rfl⟩
  · obtain rfl := List.mem_singleton.mp hw
    exact ⟨rfl, rfl⟩

end Compositor

end Compositing
