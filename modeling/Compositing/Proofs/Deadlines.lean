import Compositing.Pace.Timers
import Mathlib.Data.List.Induction

/-!
# Timers go off in the order of their deadlines

What a queue of timers does can be read off its history alone: a timer is due when its latest start
says, and of several timers that are due at one moment the one that was started first goes off
first. The history tells when each call came and which timer it took off. No timer that is armed is
due before one that was taken off, since that one was the first and the clock has come to it. So the
deadlines of the timers that are taken off never go down, even where they are taken off late.
-/

namespace Compositing

/-! ## The history of a queue -/

/-- What is asked of a queue. Its handles share one clock, so it makes no difference through which
of them it is asked. -/
inductive TimerCall where
  | start (id : TimerId) (after : Nanos)
  | stop (id : TimerId)
  | popDue (target : Nanos)
  | advanceTo (target : Nanos)

/-- A call with the moment at which it came and the timer that it took off. -/
structure TimerRecord where
  moment : Nanos
  call : TimerCall
  taken? : Option TimerId

/-- When a timer is due, with the place of the start that says so in a history that begins with its
latest call. The latest start counts, unless the timer was stopped or taken off since. -/
def armedBy : List TimerRecord → TimerId → Option (Nat × Nanos)
  | [], _ => none
  | r :: earlier, id =>
    match r.call with
    | .start started after =>
      if started = id then some (earlier.length, r.moment + after) else armedBy earlier id
    | .stop stopped => if stopped = id then none else armedBy earlier id
    | .popDue _ => if r.taken? = some id then none else armedBy earlier id
    | .advanceTo _ => armedBy earlier id

def deadlinesMet : List TimerRecord → List Nanos
  | [] => []
  | r :: earlier =>
    ((r.taken?.bind (armedBy earlier)).map (·.2)).toList ++ deadlinesMet earlier

def StartedBefore (history : List TimerRecord) (a b : TimerId) : Prop :=
  ∃ i j m n, armedBy history a = some (i, m) ∧ armedBy history b = some (j, n) ∧ i < j

def Timers.answer (t : Timers) : TimerCall → Option TimerId × Timers
  | .start id after => (none, t.start id after)
  | .stop id => (none, t.stop id)
  | .popDue target => t.take target
  | .advanceTo target => (none, t.advanceTo target)

structure Served where
  queue : Timers
  history : List TimerRecord

namespace Served

def serve (s : Served) (call : TimerCall) : Served where
  queue := (s.queue.answer call).2
  history := ⟨s.queue.now, call, (s.queue.answer call).1⟩ :: s.history

def after (calls : List TimerCall) : Served := calls.foldl serve ⟨Timers.new, []⟩

theorem after_snoc (calls : List TimerCall) (call : TimerCall) :
    after (calls ++ [call]) = (after calls).serve call := by
  simp [after]

end Served

theorem armedBy_lt {history : List TimerRecord} {id : TimerId} {i : Nat} {moment : Nanos}
    (armed : armedBy history id = some (i, moment)) : i < history.length := by
  induction history with
  | nil => simp [armedBy] at armed
  | cons r earlier ih =>
    have before (h : armedBy earlier id = some (i, moment)) : i < (r :: earlier).length :=
      Nat.lt_succ_of_lt (ih h)
    rw [armedBy] at armed
    split at armed
    · split at armed
      · simp only [Option.some.injEq, Prod.mk.injEq] at armed
        rw [← armed.1]
        exact Nat.lt_succ_self _
      · exact before armed
    · split at armed
      · simp at armed
      · exact before armed
    · split at armed
      · simp at armed
      · exact before armed
    · exact before armed

/-! ## The timer that goes off first -/

namespace Timers

variable {t t' : Timers} {e a : TimerId × Nanos} {es rest : List (TimerId × Nanos)}

theorem deadline?_stop (t : Timers) (stopped id : TimerId) :
    (t.stop stopped).deadline? id = if id = stopped then none else t.deadline? id := by
  simp only [deadline?, stop, List.find?_filter]
  split
  · rename_i same
    simp [same, List.find?_eq_none]
  · rename_i other
    congr 2
    funext e
    by_cases here : e.1 = id
    · simp [here, other]
    · simp [here]

theorem mem_stop {stopped id : TimerId} {moment : Nanos} :
    (id, moment) ∈ (t.stop stopped).armed ↔ (id, moment) ∈ t.armed ∧ id ≠ stopped := by
  simp [stop]

theorem mem_start {started id : TimerId} {after moment : Nanos} :
    (id, moment) ∈ (t.start started after).armed ↔
      ((id, moment) ∈ t.armed ∧ id ≠ started) ∨ (id = started ∧ moment = t.now + after) := by
  rw [start, List.mem_append, mem_stop, List.mem_singleton, Prod.mk.injEq]

theorem first?_eq_none_iff : t.first? = none ↔ t.armed = [] := by
  rw [first?]
  cases t.armed <;> simp

/-- Which timer goes off: the one that is taken off was due, and the clock moves to its moment. -/
theorem popDue_cases {target : Nanos} {id : TimerId} (h : t.popDue target = some (id, t')) :
    ∃ moment, t.first? = some (id, moment) ∧ moment ≤ target ∧
      t' = { t.stop id with now := max t.now moment } := by
  rw [popDue] at h
  split at h
  · simp at h
  · rename_i first moment found
    split at h
    · rename_i due
      simp only [Option.some.injEq, Prod.mk.injEq] at h
      obtain ⟨rfl, rfl⟩ := h
      exact ⟨moment, found, due, rfl⟩
    · simp at h

/-- The earliest of some timers, and of several such timers the one listed first. -/
def FirstDue (es : List (TimerId × Nanos)) (e : TimerId × Nanos) : Prop :=
  ∃ before after, es = before ++ e :: after ∧ (∀ a ∈ before, e.2 < a.2) ∧ ∀ a ∈ after, e.2 ≤ a.2

theorem FirstDue.mem (h : FirstDue es e) : e ∈ es := by
  obtain ⟨before, after, rfl, _, _⟩ := h
  simp

theorem FirstDue.least (h : FirstDue es e) (ha : a ∈ es) : e.2 ≤ a.2 := by
  obtain ⟨before, after, rfl, ahead, behind⟩ := h
  rcases List.mem_append.mp ha with earlier | here
  · exact Nat.le_of_lt (ahead a earlier)
  · rcases List.mem_cons.mp here with rfl | later
    · exact Nat.le_refl _
    · exact behind a later

theorem FirstDue.cons (h : FirstDue es e) (after : e.2 < a.2) : FirstDue (a :: es) e := by
  obtain ⟨before, rest, rfl, ahead, behind⟩ := h
  refine ⟨a :: before, rest, rfl, ?_, behind⟩
  intro b hb
  rcases List.mem_cons.mp hb with rfl | hb
  · exact after
  · exact ahead b hb

/-- A timer that is due no earlier than the one listed before it changes nothing. -/
theorem FirstDue.insert {b : TimerId × Nanos} (h : FirstDue (b :: rest) e) (after : b.2 ≤ a.2) :
    FirstDue (b :: a :: rest) e := by
  obtain ⟨before, later, split, ahead, behind⟩ := h
  cases before with
  | nil =>
    obtain ⟨rfl, rfl⟩ := List.cons.inj split
    refine ⟨[], a :: rest, rfl, by simp, ?_⟩
    intro c hc
    rcases List.mem_cons.mp hc with rfl | hc
    · exact after
    · exact behind c hc
  | cons c before =>
    obtain ⟨rfl, rfl⟩ := List.cons.inj split
    have first := ahead b List.mem_cons_self
    have skipped : FirstDue (before ++ e :: later) e :=
      ⟨before, later, rfl, fun c hc => ahead c (List.mem_cons_of_mem _ hc), behind⟩
    exact (skipped.cons (Nat.lt_of_lt_of_le first after)).cons first

theorem firstDue_foldl (es : List (TimerId × Nanos)) (e : TimerId × Nanos) :
    FirstDue (e :: es) (es.foldl sooner e) := by
  induction es generalizing e with
  | nil => exact ⟨[], [], rfl, by simp, by simp⟩
  | cons a rest ih =>
    rw [List.foldl_cons]
    by_cases before : a.2 < e.2
    · rw [show sooner e a = a from if_pos before]
      have first := ih a
      exact first.cons (Nat.lt_of_le_of_lt (first.least List.mem_cons_self) before)
    · rw [show sooner e a = e from if_neg before]
      exact (ih e).insert (Nat.le_of_not_lt before)

theorem firstDue_of_first? (found : t.first? = some e) : FirstDue t.armed e := by
  rw [first?] at found
  split at found
  · simp at found
  · rename_i a rest armed
    obtain rfl := Option.some.inj found
    rw [armed]
    exact firstDue_foldl rest a

/-- Nothing is taken off exactly if nothing is due. -/
theorem popDue_eq_none_iff {target : Nanos} :
    t.popDue target = none ↔ ∀ e ∈ t.armed, target < e.2 := by
  rw [popDue]
  cases found : t.first? with
  | none => simp [first?_eq_none_iff.mp found]
  | some e =>
    have first := firstDue_of_first? found
    dsimp only
    constructor
    · intro late a ha
      have behind : target < e.2 := by simpa using late
      exact Nat.lt_of_lt_of_le behind (first.least ha)
    · intro late
      exact if_neg (Nat.not_le.mpr (late e first.mem))

end Timers

/-! ## The queue is what its history says -/

namespace Served

variable {s : Served} {t : Timers} {history history' : List TimerRecord} {id : TimerId}

/-- The armed timers are those of the history, listed in the order in which they were started. -/
structure Recounts (history : List TimerRecord) (armed : List (TimerId × Nanos)) : Prop where
  told : ∀ id moment, (id, moment) ∈ armed ↔ ∃ i, armedBy history id = some (i, moment)
  ordered : armed.Pairwise fun a b => StartedBefore history a.1 b.1

theorem Recounts.deadline? (h : Recounts history t.armed) (id : TimerId) :
    t.deadline? id = (armedBy history id).map (·.2) := by
  ext moment
  simp only [Timers.deadline?, Option.map_eq_some_iff]
  constructor
  · rintro ⟨⟨found, _⟩, scanned, rfl⟩
    have same : found = id := by simpa using List.find?_some scanned
    obtain ⟨i, armed⟩ := (h.told found _).mp (List.mem_of_find?_eq_some scanned)
    exact ⟨_, same ▸ armed, rfl⟩
  · rintro ⟨⟨i, _⟩, armed, rfl⟩
    have listed := (h.told id _).mpr ⟨i, armed⟩
    have hit : (t.armed.find? fun e => e.1 == id).isSome = true :=
      List.find?_isSome.mpr ⟨_, listed, beq_self_eq_true id⟩
    obtain ⟨e, scanned⟩ := Option.isSome_iff_exists.mp hit
    have same : e.1 = id := by simpa using List.find?_some scanned
    obtain ⟨j, again⟩ := (h.told e.1 e.2).mp (List.mem_of_find?_eq_some scanned)
    rw [same, armed] at again
    simp only [Option.some.injEq, Prod.mk.injEq] at again
    exact ⟨e, scanned, again.2.symm⟩

theorem StartedBefore.ne {a b : TimerId} (h : StartedBefore history a b) : a ≠ b := by
  rintro rfl
  obtain ⟨i, j, m, n, here, there, before⟩ := h
  rw [here] at there
  simp only [Option.some.injEq, Prod.mk.injEq] at there
  exact Nat.ne_of_lt before there.1

theorem Recounts.nodup (h : Recounts history t.armed) : (t.armed.map (·.1)).Nodup :=
  List.pairwise_map.mpr (h.ordered.imp StartedBefore.ne)

/-- A call that concerns no timer. -/
theorem Recounts.same (h : Recounts history t.armed)
    (same : ∀ id, armedBy history' id = armedBy history id) : Recounts history' t.armed where
  told := fun id moment => by rw [same, h.told]
  ordered := by simpa only [StartedBefore, same] using h.ordered

/-- What is left when a timer is stopped keeps its order. -/
theorem Recounts.stop_ordered (h : Recounts history t.armed)
    (others : ∀ other, other ≠ id → armedBy history' other = armedBy history other) :
    (t.stop id).armed.Pairwise fun a b => StartedBefore history' a.1 b.1 := by
  refine (h.ordered.filter _).imp_of_mem ?_
  intro a b ha hb before
  have first := (Timers.mem_stop.mp ha).2
  have second := (Timers.mem_stop.mp hb).2
  rwa [StartedBefore, others a.1 first, others b.1 second]

/-- A timer that is armed no more. -/
theorem Recounts.drop (h : Recounts history t.armed) (gone : armedBy history' id = none)
    (others : ∀ other, other ≠ id → armedBy history' other = armedBy history other) :
    Recounts history' (t.stop id).armed where
  told := by
    intro other moment
    rw [Timers.mem_stop]
    by_cases here : other = id
    · simp [here, gone]
    · simp [here, others other here, h.told]
  ordered := h.stop_ordered others

/-- A timer that is armed now was started after all others. -/
theorem Recounts.add {after : Nanos} (h : Recounts history t.armed)
    (started : armedBy history' id = some (history.length, t.now + after))
    (others : ∀ other, other ≠ id → armedBy history' other = armedBy history other) :
    Recounts history' (t.start id after).armed where
  told := by
    intro other moment
    rw [Timers.mem_start]
    by_cases here : other = id
    · simp [here, started, eq_comm]
    · simp [here, others other here, h.told]
  ordered := by
    refine List.pairwise_append.mpr ⟨h.stop_ordered others, List.pairwise_singleton _ _, ?_⟩
    intro a ha b hb
    obtain ⟨still, ne⟩ := Timers.mem_stop.mp ha
    obtain ⟨i, earlier⟩ := (h.told a.1 a.2).mp still
    rw [List.mem_singleton.mp hb]
    exact ⟨i, history.length, a.2, t.now + after, (others a.1 ne).trans earlier, started,
      armedBy_lt earlier⟩

/-- The queue is as its history says, and its clock has come to all that was taken off, before which
nothing is due. -/
structure Sound (s : Served) : Prop where
  recounts : Recounts s.history s.queue.armed
  past : ∀ m ∈ deadlinesMet s.history, m ≤ s.queue.now
  ahead : ∀ m ∈ deadlinesMet s.history, ∀ e ∈ s.queue.armed, m ≤ e.2
  ascending : (deadlinesMet s.history).Pairwise fun later earlier => earlier ≤ later

theorem sound_new : Sound ⟨Timers.new, []⟩ where
  recounts := ⟨by simp [Timers.new, armedBy], List.Pairwise.nil⟩
  past := by simp [deadlinesMet]
  ahead := by simp [deadlinesMet]
  ascending := List.Pairwise.nil

theorem Sound.start (h : s.Sound) (id : TimerId) (after : Nanos) :
    (s.serve (.start id after)).Sound where
  recounts := h.recounts.add (by simp [serve, armedBy]) fun other ne => by
    simp [serve, armedBy, ne.symm]
  past := h.past
  ahead := by
    intro m hm e he
    rcases Timers.mem_start.mp he with before | here
    · exact h.ahead m hm e before.1
    · rw [here.2]
      exact Nat.le_trans (h.past m hm) (Nat.le_add_right _ _)
  ascending := h.ascending

theorem Sound.stop (h : s.Sound) (id : TimerId) : (s.serve (.stop id)).Sound where
  recounts := h.recounts.drop (by simp [serve, armedBy]) fun other ne => by
    simp [serve, armedBy, ne.symm]
  past := h.past
  ahead := fun m hm e he => h.ahead m hm e (Timers.mem_stop.mp he).1
  ascending := h.ascending

theorem Sound.advanceTo (h : s.Sound) (target : Nanos) : (s.serve (.advanceTo target)).Sound where
  recounts := h.recounts.same fun _ => rfl
  past := fun m hm => Nat.le_trans (h.past m hm) (Nat.le_max_left _ _)
  ahead := h.ahead
  ascending := h.ascending

theorem Sound.popDue (h : s.Sound) (target : Nanos) : (s.serve (.popDue target)).Sound := by
  rw [serve, Timers.answer, Timers.take]
  cases popped : s.queue.popDue target with
  | none => exact ⟨h.recounts.same fun _ => by simp [armedBy], h.past, h.ahead, h.ascending⟩
  | some taken =>
    obtain ⟨id, t⟩ := taken
    obtain ⟨moment, found, _, rfl⟩ := Timers.popDue_cases popped
    have first := Timers.firstDue_of_first? found
    obtain ⟨i, armed⟩ := (h.recounts.told id moment).mp first.mem
    have met : deadlinesMet (⟨s.queue.now, .popDue target, some id⟩ :: s.history) =
        moment :: deadlinesMet s.history := by
      simp [deadlinesMet, armed]
    dsimp only
    refine ⟨?_, ?_, ?_, ?_⟩
    · exact h.recounts.drop (by simp [armedBy]) fun other ne => by simp [armedBy, ne.symm]
    · rw [met]
      intro m hm
      rcases List.mem_cons.mp hm with rfl | hm
      · exact Nat.le_max_right _ _
      · exact Nat.le_trans (h.past m hm) (Nat.le_max_left _ _)
    · rw [met]
      intro m hm e he
      have still := (Timers.mem_stop.mp he).1
      rcases List.mem_cons.mp hm with rfl | hm
      · exact first.least still
      · exact h.ahead m hm e still
    · rw [met]
      exact List.pairwise_cons.mpr ⟨fun m hm => h.ahead m hm _ first.mem, h.ascending⟩

theorem Sound.serve (h : s.Sound) (call : TimerCall) : (s.serve call).Sound := by
  cases call with
  | start id after => exact h.start id after
  | stop id => exact h.stop id
  | popDue target => exact h.popDue target
  | advanceTo target => exact h.advanceTo target

theorem after_sound (calls : List TimerCall) : (after calls).Sound := by
  induction calls using List.reverseRecOn with
  | nil => exact sound_new
  | append_singleton calls call ih =>
    rw [after_snoc]
    exact ih.serve call

theorem now_le_serve (s : Served) (call : TimerCall) : s.queue.now ≤ (s.serve call).queue.now := by
  cases call with
  | start id after => exact Nat.le_refl _
  | stop id => exact Nat.le_refl _
  | advanceTo target => exact Nat.le_max_left _ _
  | popDue target =>
    rw [serve, Timers.answer, Timers.take]
    cases popped : s.queue.popDue target with
    | none => exact Nat.le_refl _
    | some taken =>
      obtain ⟨moment, _, _, same⟩ := Timers.popDue_cases popped
      rw [same]
      exact Nat.le_max_left _ _

theorem now_le_after (calls more : List TimerCall) :
    (after calls).queue.now ≤ (after (calls ++ more)).queue.now := by
  induction more using List.reverseRecOn with
  | nil => simp
  | append_singleton more call ih =>
    rw [← List.append_assoc, after_snoc]
    exact Nat.le_trans ih (now_le_serve _ call)

/-- Whatever was asked of a queue, its clock never moves back, and each timer has the one deadline
that its latest start has set, unless it was stopped or taken off since. A timer is taken off
exactly if one is due by the target; it is the earliest, of several the one started first, the clock
comes to its deadline, and the others stay as they are. The deadlines of all timers ever taken off
never go down. -/
theorem earliest_deadline_first (calls : List TimerCall) :
    (∀ more, (after calls).queue.now ≤ (after (calls ++ more)).queue.now) ∧
      ((after calls).queue.armed.map (·.1)).Nodup ∧
      (∀ id, (after calls).queue.deadline? id =
        (armedBy (after calls).history id).map (·.2)) ∧
      (∀ target, ((after calls).queue.popDue target).isSome = true ↔
        ∃ id moment, (after calls).queue.deadline? id = some moment ∧ moment ≤ target) ∧
      (∀ target id t, (after calls).queue.popDue target = some (id, t) →
        ∃ moment, (after calls).queue.deadline? id = some moment ∧ moment ≤ target ∧
          (∀ other m, other ≠ id → (after calls).queue.deadline? other = some m →
            moment < m ∨ moment = m ∧ StartedBefore (after calls).history id other) ∧
          t.now = max (after calls).queue.now moment ∧
          ∀ other, t.deadline? other =
            if other = id then none else (after calls).queue.deadline? other) ∧
      (deadlinesMet (after calls).history).Pairwise fun later earlier => earlier ≤ later := by
  have sound := after_sound calls
  have due (id : TimerId) (moment : Nanos) :
      (after calls).queue.deadline? id = some moment ↔
        (id, moment) ∈ (after calls).queue.armed := by
    rw [sound.recounts.deadline?, sound.recounts.told]
    simp
  refine ⟨now_le_after calls, sound.recounts.nodup, sound.recounts.deadline?, ?_, ?_,
    sound.ascending⟩
  · intro target
    rw [Option.isSome_iff_ne_none, ne_eq, Timers.popDue_eq_none_iff]
    simp [due]
  · intro target id t popped
    obtain ⟨moment, found, soon, rfl⟩ := Timers.popDue_cases popped
    have first := Timers.firstDue_of_first? found
    refine ⟨moment, (due id moment).mpr first.mem, soon, ?_, rfl, ?_⟩
    · intro other m ne armed
      obtain ⟨before, later, split, ahead, behind⟩ := first
      have listed := (due other m).mp armed
      have ordered := sound.recounts.ordered
      rw [split] at listed ordered
      rcases List.mem_append.mp listed with earlier | here
      · exact Or.inl (ahead _ earlier)
      · rcases List.mem_cons.mp here with same | after
        · exact (ne (congrArg Prod.fst same)).elim
        · have started := (List.pairwise_cons.mp (List.pairwise_append.mp ordered).2.1).1 _ after
          rcases Nat.lt_or_eq_of_le (behind _ after) with strictly | same
          · exact Or.inl strictly
          · exact Or.inr ⟨same, started⟩
    · intro other
      exact Timers.deadline?_stop _ id other

def lateAndEven : List TimerCall :=
  [.start .repaint 5, .start .restart 9, .advanceTo 9, .start .deferred 0, .start .restart 0]

/-- The late timer goes off first, even if the target lies in the past, and of the other two the one
that was not started anew. -/
theorem lateAndEven_in_order :
    (after lateAndEven).queue.popDue 6 =
        some (.repaint, ⟨9, [(.deferred, 9), (.restart, 9)]⟩) ∧
      (∃ moment, (after lateAndEven).queue.deadline? .repaint = some moment ∧ moment ≤ 6) ∧
      (after (lateAndEven ++ [.popDue 6])).queue.popDue 9 = some (.deferred, ⟨9, [(.restart, 9)]⟩) ∧
      ∀ m, (after (lateAndEven ++ [.popDue 6])).queue.deadline? .restart = some m → 9 < m ∨
        9 = m ∧ StartedBefore (after (lateAndEven ++ [.popDue 6])).history .deferred .restart := by
  have late : (after lateAndEven).queue.popDue 6 =
      some (.repaint, ⟨9, [(.deferred, 9), (.restart, 9)]⟩) := rfl
  have even : (after (lateAndEven ++ [.popDue 6])).queue.popDue 9 =
      some (.deferred, ⟨9, [(.restart, 9)]⟩) := rfl
  obtain ⟨moment, due, soon, _⟩ :=
    (earliest_deadline_first lateAndEven).2.2.2.2.1 6 .repaint _ late
  obtain ⟨next, armed, _, first, _⟩ :=
    (earliest_deadline_first (lateAndEven ++ [.popDue 6])).2.2.2.2.1 9 .deferred _ even
  have nine : next = 9 := by
    have known : (after (lateAndEven ++ [.popDue 6])).queue.deadline? .deferred = some 9 := by
      decide
    exact Option.some.inj (armed.symm.trans known)
  subst nine
  exact ⟨late, ⟨moment, due, soon⟩, even, fun m => first .restart m (by decide)⟩

end Served

end Compositing
