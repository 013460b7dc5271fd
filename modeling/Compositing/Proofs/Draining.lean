import Compositing.Proofs.Fetching
import Compositing.Proofs.Ledger
import Mathlib.Data.List.ReduceOption

/-!
# What a frame takes from a server in memory

A frame empties the damage objects of the windows that are damaged, and adds to each window what
its own object held. Between its requests and its replies no number is given out twice as long as
there are numbers left, so no reply is taken for another.
-/

namespace Compositing

namespace HeadlessDisplay

def drained (handles : List DamageHandle) (o : DamageObject) : DamageObject :=
  if handles.contains o.handle then { o with pending := Region.empty } else o

@[simp] theorem drained_handle (handles : List DamageHandle) (o : DamageObject) :
    (drained handles o).handle = o.handle := by
  rw [drained]
  split <;> rfl

@[simp] theorem drained_window (handles : List DamageHandle) (o : DamageObject) :
    (drained handles o).window = o.window := by
  rw [drained]
  split <;> rfl

theorem drained_refill (handle : DamageHandle) (handles : List DamageHandle) (o : DamageObject) :
    drained handles (refill handle Region.empty o) = drained (handle :: handles) o := by
  by_cases here : o.handle = handle
  · simp [drained, refill, here]
  · simp [drained, refill, here]

def holding (d : HeadlessDisplay) (handle : DamageHandle) : Region :=
  match d.damages.find? (·.handle == handle) with
  | none => Region.empty
  | some o => Toplevel.replyRegion ⟨o.pending.bounds, o.pending.rects⟩

def due (d : HeadlessDisplay) (w : Toplevel) : Region := (w.dirty?.map d.holding).getD Region.empty

/-! What the server becomes. -/

theorem requestDamage_shape (d : HeadlessDisplay) (handle : DamageHandle) :
    ∃ next replies requests, (d.requestDamage handle).2 = { d with
      nextNumber := next
      damages := d.damages.map (refill handle Region.empty)
      replies := replies
      fetchRequests := requests } := by
  rcases d.requestDamage_cases handle with ⟨unknown, e⟩ | ⟨o, _, rfl, e⟩
  · have same : d.damages.map (refill handle Region.empty) = d.damages := by
      refine (List.map_congr_left fun o ho => ?_).trans d.damages.map_id
      rw [refill, if_neg (by simpa using unknown o ho), id_eq]
    exact ⟨d.nextNumber, d.replies, d.fetchRequests, by rw [e, same]⟩
  · exact ⟨_, _, _, by rw [e]; rfl⟩

theorem askAll_shape (windows : List Toplevel) (d : HeadlessDisplay) :
    ∃ next replies requests, (askAll windows d).2 = { d with
      nextNumber := next
      damages := d.damages.map (drained (windows.filterMap (·.dirty?)))
      replies := replies
      fetchRequests := requests } := by
  induction windows generalizing d with
  | nil =>
    have same : d.damages.map (drained []) = d.damages := d.damages.map_id
    exact ⟨d.nextNumber, d.replies, d.fetchRequests, by rw [List.filterMap_nil, same]; rfl⟩
  | cons w rest ih =>
    rw [askAll]
    cases dirty : w.dirty? with
    | none =>
      rw [List.filterMap_cons_none dirty]
      exact ih d
    | some handle =>
      obtain ⟨next, replies, requests, asked⟩ := d.requestDamage_shape handle
      obtain ⟨next', replies', requests', others⟩ := ih (d.requestDamage handle).2
      refine ⟨next', replies', requests', ?_⟩
      rw [List.filterMap_cons_some dirty]
      refine others.trans ?_
      rw [asked, List.map_map]
      simp [Function.comp_def, drained_refill]

theorem collectAll_shape (tickets : List (Option DamageFetch)) (d : HeadlessDisplay) :
    ∃ replies, (collectAll tickets d).2 = { d with replies := replies } := by
  induction tickets generalizing d with
  | nil => exact ⟨d.replies, rfl⟩
  | cons ticket? rest ih =>
    cases ticket? with
    | none => exact ih d
    | some ticket =>
      obtain ⟨replies, others⟩ := ih (d.discardReply ticket)
      exact ⟨replies, others⟩

theorem harvest_shape (windows : List Toplevel) (d : HeadlessDisplay) :
    ∃ next replies requests flushes, (harvest windows d).2 = { d with
      nextNumber := next
      damages := d.damages.map (drained (windows.filterMap (·.dirty?)))
      replies := replies
      fetchRequests := requests
      flushes := flushes } := by
  obtain ⟨next, replies, requests, asked⟩ := askAll_shape windows d
  obtain ⟨replies', collected⟩ := collectAll_shape (askAll windows d).1
    (sendOff (askAll windows d).1 (askAll windows d).2)
  rw [harvest, collected, sendOff]
  split
  · exact ⟨next, replies', requests, d.flushes, by rw [asked]⟩
  · exact ⟨next, replies', requests, d.flushes + 1, by rw [asked]; rfl⟩

/-! What comes of the replies. -/

theorem lookup_others {t fetch : DamageFetch} (other : t ≠ fetch)
    (replies : List (DamageFetch × DamageReply)) :
    (replies.filter (·.1 != fetch)).lookup t = replies.lookup t := by
  induction replies with
  | nil => rfl
  | cons e rest ih =>
    by_cases here : e.1 = fetch
    · have apart : (t == e.1) = false := by simpa [here] using other
      rw [List.filter_cons_of_neg (by simpa using here), ih, List.lookup_cons, apart]
    · rw [List.filter_cons_of_pos (by simpa using here), List.lookup_cons, List.lookup_cons, ih]

theorem lookup_posted (fetch : DamageFetch) (reply : DamageReply)
    (replies : List (DamageFetch × DamageReply)) :
    (replies.filter (·.1 != fetch) ++ [(fetch, reply)]).lookup fetch = some reply := by
  have gone : (replies.filter (·.1 != fetch)).lookup fetch = none := by
    refine List.lookup_eq_none_iff.mpr fun e he => ?_
    have other := (List.mem_filter.mp he).2
    simpa using Ne.symm (by simpa using other)
  rw [List.lookup_append, gone]
  simp

/-- The region is what the reply to the ticket stands for. -/
def Answers (d : HeadlessDisplay) : Option DamageFetch → Region → Prop
  | none, g => g = Region.empty
  | some t, g => ∃ reply, d.replies.lookup t = some reply ∧ Toplevel.replyRegion reply = g

theorem Answers.imp {d d' : HeadlessDisplay} {ticket? : Option DamageFetch} {g : Region}
    (h : d.Answers ticket? g)
    (same : ∀ t, ticket? = some t → d'.replies.lookup t = d.replies.lookup t) :
    d'.Answers ticket? g := by
  cases ticket? with
  | none => exact h
  | some t =>
    obtain ⟨reply, found, brings⟩ := h
    exact ⟨reply, (same t rfl).trans found, brings⟩

/-- Each reply is found when its turn comes, as no ticket is listed twice. -/
theorem collectAll_answers {tickets : List (Option DamageFetch)} {regions : List Region}
    {d : HeadlessDisplay} (once : tickets.reduceOption.Nodup)
    (answers : List.Forall₂ d.Answers tickets regions) : (collectAll tickets d).1 = regions := by
  induction tickets generalizing regions d with
  | nil =>
    cases answers
    rfl
  | cons ticket? tickets ih =>
    obtain _ | ⟨one, others⟩ := answers
    cases ticket? with
    | none =>
      obtain rfl : _ = Region.empty := one
      rw [List.reduceOption_cons_of_none] at once
      rw [collectAll, ih once others]
    | some t =>
      obtain ⟨reply, found, rfl⟩ := one
      rw [List.reduceOption_cons_of_some] at once
      obtain ⟨free, once⟩ := List.nodup_cons.mp once
      have brings : Toplevel.received t d = Toplevel.replyRegion reply :=
        Toplevel.received_eq (d := d) found
      have apart : ∀ ticket? ∈ tickets, ∀ u, ticket? = some u → u ≠ t := by
        rintro _ listed u rfl rfl
        exact free (List.reduceOption_mem_iff.mpr listed)
      have left : List.Forall₂ (d.discardReply t).Answers tickets _ :=
        ((List.forall₂_and_left tickets _).mpr ⟨apart, others⟩).imp fun _ _ one =>
          Answers.imp one.2 fun u here => lookup_others (one.1 u here) d.replies
      rw [collectAll, brings, ← ih once left]
      rfl

/-! What is asked for. -/

theorem requestDamage_of_find {handle : DamageHandle} {d : HeadlessDisplay} {o : DamageObject}
    (found : d.damages.find? (·.handle == handle) = some o) :
    d.requestDamage handle = (.ok ⟨d.nextNumber⟩, d.requested o) := by
  have same : o.handle = handle := by simpa using List.find?_some found
  subst same
  rw [requestDamage, found]
  rfl

theorem askAll_issued (windows : List Toplevel) (d : HeadlessDisplay) :
    d.issued ≤ (askAll windows d).2.issued := by
  induction windows generalizing d with
  | nil => exact Nat.le_refl _
  | cons w rest ih =>
    rw [askAll]
    cases w.dirty? with
    | none => exact ih d
    | some handle =>
      have more : d.issued ≤ (d.requestDamage handle).2.issued := by
        rcases d.requestDamage_cases handle with ⟨_, e⟩ | ⟨o, _, _, e⟩
        · exact Nat.le_of_eq (by rw [e])
        · rw [e, requested_issued]
          exact Nat.le_succ _
      exact Nat.le_trans more (ih _)

/-- Emptying one object changes nothing about another. -/
theorem holding_requested {d : HeadlessDisplay} {o : DamageObject} {handle : DamageHandle}
    (other : handle ≠ o.handle) : (d.requested o).holding handle = d.holding handle := by
  have same : (fun v : DamageObject => v.handle == handle) ∘ refill o.handle Region.empty =
      fun v => v.handle == handle := by
    funext v
    simp
  rw [holding, holding, requested, List.find?_map, same]
  cases found : d.damages.find? (·.handle == handle) with
  | none => rfl
  | some v =>
    have here : v.handle = handle := by simpa using List.find?_some found
    have kept : refill o.handle Region.empty v = v := by
      rw [refill, if_neg]
      simpa [here] using other
    rw [Option.map_some, kept]

/-- The tickets of a frame over some windows, and the replies that they stand for. -/
structure Tickets (windows : List Toplevel) (d : HeadlessDisplay) : Prop where
  late : ∀ t ∈ (askAll windows d).1.reduceOption, d.nextNumber.toNat ≤ t.number.toNat
  once : (askAll windows d).1.reduceOption.Nodup
  kept : ∀ t : DamageFetch, t.number.toNat < d.nextNumber.toNat →
    (askAll windows d).2.replies.lookup t = d.replies.lookup t
  answers : List.Forall₂ (askAll windows d).2.Answers (askAll windows d).1 (windows.map d.due)

/-- Nothing comes of the first window. -/
theorem Tickets.cons_none {w : Toplevel} {rest : List Toplevel} {d : HeadlessDisplay}
    (h : Tickets rest d)
    (first : askAll (w :: rest) d = (none :: (askAll rest d).1, (askAll rest d).2))
    (nothing : d.due w = Region.empty) : Tickets (w :: rest) d where
  late := by
    rw [first, List.reduceOption_cons_of_none]
    exact h.late
  once := by
    rw [first, List.reduceOption_cons_of_none]
    exact h.once
  kept := by
    rw [first]
    exact h.kept
  answers := by
    rw [first]
    exact List.Forall₂.cons nothing h.answers

/-- The first window is granted its request, and the object that is emptied is no other's. -/
theorem Tickets.cons_some {w : Toplevel} {rest : List Toplevel} {d : HeadlessDisplay}
    {o : DamageObject} (h : Tickets rest (d.requested o))
    (first : askAll (w :: rest) d =
      (some ⟨d.nextNumber⟩ :: (askAll rest (d.requested o)).1, (askAll rest (d.requested o)).2))
    (next : (d.requested o).nextNumber.toNat = d.nextNumber.toNat + 1)
    (brings : d.due w = Toplevel.replyRegion ⟨o.pending.bounds, o.pending.rects⟩)
    (others : ∀ v ∈ rest, (d.requested o).due v = d.due v) : Tickets (w :: rest) d where
  late := by
    rw [first, List.reduceOption_cons_of_some]
    refine List.forall_mem_cons.mpr ⟨Nat.le_refl _, fun t ht => ?_⟩
    have later := h.late t ht
    omega
  once := by
    rw [first, List.reduceOption_cons_of_some]
    refine List.nodup_cons.mpr ⟨fun again => ?_, h.once⟩
    have later := h.late _ again
    dsimp only at later
    omega
  kept := by
    intro t early
    have other : t ≠ ⟨d.nextNumber⟩ := by
      rintro rfl
      exact Nat.lt_irrefl _ early
    have posted : (d.requested o).replies.lookup t = d.replies.lookup t := by
      have apart : (t == ⟨d.nextNumber⟩) = false := by simpa using other
      rw [requested, List.lookup_append, lookup_others other, List.lookup_cons, apart]
      simp
    rw [first]
    exact (h.kept t (by omega)).trans posted
  answers := by
    rw [first, List.map_cons, ← List.map_congr_left others]
    refine List.Forall₂.cons ⟨_, ?_, brings.symm⟩ h.answers
    rw [h.kept ⟨d.nextNumber⟩ (by dsimp only; omega)]
    exact lookup_posted _ _ _

/-- The first window gets nothing, or it is granted its request. -/
theorem askAll_cases (w : Toplevel) (rest : List Toplevel) (d : HeadlessDisplay) :
    (d.due w = Region.empty ∧
        askAll (w :: rest) d = (none :: (askAll rest d).1, (askAll rest d).2)) ∨
      ∃ o, w.dirty? = some o.handle ∧
        d.due w = Toplevel.replyRegion ⟨o.pending.bounds, o.pending.rects⟩ ∧
        askAll (w :: rest) d = (some ⟨d.nextNumber⟩ ::
          (askAll rest (d.requested o)).1, (askAll rest (d.requested o)).2) := by
  rw [askAll, due]
  cases w.dirty? with
  | none => exact Or.inl ⟨rfl, rfl⟩
  | some handle =>
    have holds : ((some handle).map d.holding).getD Region.empty = d.holding handle := rfl
    rw [holds, holding]
    dsimp only
    cases found : d.damages.find? (·.handle == handle) with
    | none =>
      have refused : DisplayServer.requestDamage handle d =
          (.error (.unknownDamage handle), d) := by
        show d.requestDamage handle = _
        rw [requestDamage, found]
      rw [refused]
      exact Or.inl ⟨rfl, rfl⟩
    | some o =>
      have here : o.handle = handle := by simpa using List.find?_some found
      have granted : DisplayServer.requestDamage handle d = (.ok ⟨d.nextNumber⟩, d.requested o) :=
        requestDamage_of_find found
      rw [granted]
      exact Or.inr ⟨o, by rw [here], rfl, rfl⟩

/-- Emptying one object changes nothing for a window that does not ask for it. -/
theorem due_requested {d : HeadlessDisplay} {o : DamageObject} {w : Toplevel}
    (other : w.dirty? ≠ some o.handle) : (d.requested o).due w = d.due w := by
  rw [due, due]
  cases asked : w.dirty? with
  | none => rfl
  | some handle =>
    have elsewhere : handle ≠ o.handle := fun here => other (here ▸ asked)
    rw [Option.map_some, Option.map_some, holding_requested elsewhere]

theorem askAll_tickets {windows : List Toplevel} {d : HeadlessDisplay}
    (apart : (windows.filterMap (·.dirty?)).Nodup)
    (numbered : d.nextNumber.toNat = d.issued + 1)
    (left : (askAll windows d).2.issued < UInt32.size - 1) : Tickets windows d := by
  induction windows generalizing d with
  | nil => exact ⟨by simp [askAll], by simp [askAll], fun _ _ => rfl, List.Forall₂.nil⟩
  | cons w rest ih =>
    rcases askAll_cases w rest d with ⟨nothing, first⟩ | ⟨o, dirty, brings, first⟩
    · have apart := apart.sublist ((List.sublist_cons_self w rest).filterMap (·.dirty?))
      rw [first] at left
      exact (ih apart numbered left).cons_none first nothing
    · rw [List.filterMap_cons_some dirty] at apart
      obtain ⟨free, apart⟩ := List.nodup_cons.mp apart
      rw [first] at left
      dsimp only at left
      have more := askAll_issued rest (d.requested o)
      rw [requested_issued] at more
      have next : (d.requested o).nextNumber.toNat = d.nextNumber.toNat + 1 :=
        succNumber_toNat (by omega)
      have numbered' : (d.requested o).nextNumber.toNat = (d.requested o).issued + 1 := by
        rw [next, requested_issued, numbered]
      refine (ih apart numbered' left).cons_some first next brings fun v hv => ?_
      exact due_requested fun again => free (List.mem_filterMap.mpr ⟨v, hv, again⟩)

/-- Sending requests off gives out no number. -/
theorem sendOff_books (tickets : List (Option DamageFetch)) (d : HeadlessDisplay) :
    (sendOff tickets d).issued = d.issued ∧ (sendOff tickets d).replies = d.replies := by
  rw [sendOff]
  split
  · exact ⟨rfl, rfl⟩
  · exact ⟨rfl, rfl⟩

/-- Numbers are only given out for requests. -/
theorem harvest_issued (windows : List Toplevel) (d : HeadlessDisplay) :
    (harvest windows d).2.issued = (askAll windows d).2.issued := by
  obtain ⟨replies, collected⟩ := collectAll_shape (askAll windows d).1
    (sendOff (askAll windows d).1 (askAll windows d).2)
  rw [harvest, collected]
  exact (sendOff_books _ _).1

/-- Each window gets what its own object held. -/
theorem harvest_regions {windows : List Toplevel} {d : HeadlessDisplay}
    (apart : (windows.filterMap (·.dirty?)).Nodup)
    (numbered : d.nextNumber.toNat = d.issued + 1)
    (left : (harvest windows d).2.issued < UInt32.size - 1) :
    (harvest windows d).1 = windows.map d.due := by
  rw [harvest_issued] at left
  obtain ⟨_, once, _, answers⟩ := askAll_tickets apart numbered left
  refine collectAll_answers once (answers.imp fun ticket? g answered => answered.imp fun t _ => ?_)
  rw [(sendOff_books _ _).2]

end HeadlessDisplay

end Compositing
