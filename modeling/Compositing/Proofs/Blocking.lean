import Compositing.Display.Headless
import Compositing.Proofs.Turnover
import Compositing.Renderer.Headless
import Mathlib.Data.List.Induction
import Mathlib.Tactic.IntervalCases

/-!
# Clients that block compositing

Whether compositing has to be suspended on behalf of the windows is decided when a window
changes, against the reasons that are held at that moment, and carried out on the next turn
of the loop without a second look. Between turns nothing goes wrong. A turn goes wrong
exactly if what was queued for it does not fit the windows any more, and then nothing puts
it right until a window changes again.
-/

namespace Compositing

/-- Everything but a suspension or a resumption from outside. -/
def Step.Ordinary {ω : Type} : Step ω → Prop
  | .suspend _ | .resume _ | .toggle | .toggleRemote | .setCompositing _ | .startOver _ => False
  | .handleRequest r => match r with
    | .toggleCompositing | .setCompositing _ | .suspend _ | .resume _ | .startOver => False
    | _ => True
  | _ => True

namespace Compositor

open WindowStack

variable {ω δ σ : Type}

def blocked (c : Compositor δ σ) : Bool := c.windows.windows.any (·.blocks)

def ruleAfter (held : Bool) : DeferredAction → Bool
  | .suspend reason => held || reason.rule
  | .resume reason => held && !reason.rule
  | .setup => held

/-- Whether compositing will be held suspended on behalf of windows after the next turn. -/
def queuedRule (c : Compositor δ σ) : Bool := c.deferred.foldl ruleAfter c.suspended.rule

def TakesTurn (c : Compositor δ σ) (k : Step ω) : Prop :=
  k = .handleTimer .deferred ∨
    ∃ target timers, k = .fireTimer target ∧ c.timers.popDue target = some (.deferred, timers)

/-- The reasons to be suspended stay, and work is only put off. -/
structure Waits (c c' : Compositor δ σ) : Prop where
  suspended : c'.suspended = c.suspended
  deferred : c.deferred <+: c'.deferred

theorem Waits.of_eq {c c' : Compositor δ σ} (suspended : c'.suspended = c.suspended)
    (deferred : c'.deferred = c.deferred) : Waits c c' :=
  ⟨suspended, deferred ▸ List.prefix_rfl⟩

theorem Waits.refl (c : Compositor δ σ) : Waits c c := of_eq rfl rfl

theorem Waits.of_same {c c' : Compositor δ σ} (same : c' = c) : Waits c c' := same ▸ refl c

theorem Waits.trans {c c' c'' : Compositor δ σ} (first : Waits c c') (second : Waits c' c'') :
    Waits c c'' :=
  ⟨second.suspended.trans first.suspended, first.deferred.trans second.deferred⟩

theorem Waits.defer (c : Compositor δ σ) (a : DeferredAction) : Waits c (c.defer a) :=
  ⟨rfl, List.prefix_append c.deferred [a]⟩

theorem Waits.blockFor (c : Compositor δ σ) (id : WindowId) : Waits c (c.blockFor id) := by
  rw [Compositor.blockFor]
  cases c.windows.get? id with
  | none => exact refl c
  | some w =>
    dsimp only
    split
    · exact defer c _
    · exact refl c

theorem Waits.unblock (c : Compositor δ σ) : Waits c c.unblock := by
  rw [Compositor.unblock]
  split
  · exact defer c _
  · exact refl c

variable [DisplayServer δ] [Renderer σ] (c : Compositor δ σ)

theorem Waits.restart : Waits c c.restart := by
  rw [Compositor.restart]
  split
  · have finished : Waits c ({ c.finish with phase := .starting } : Compositor δ σ) :=
      of_eq (by simp) (by simp)
    exact finished.trans (defer _ _)
  · exact refl c

theorem Waits.reconfigure (options : CompositingOptions) : Waits c (c.reconfigure options) := by
  rw [Compositor.reconfigure]
  dsimp only
  split
  · split
    · exact of_eq (by simp) (by simp)
    · exact of_eq (by simp) (by simp)
  · exact of_eq (by simp) (by simp)

theorem Waits.handleDisplayEvent (e : DisplayEvent) : Waits c (c.handleDisplayEvent e) := by
  cases e with
  | damaged id =>
    rcases c.damaged_cases id with ⟨_, h⟩ | ⟨w, _, _, h⟩
    · rw [h]
      exact refl c
    · rw [h]
      exact of_eq (by simp) (by simp)
  | selectionCleared =>
    rcases c.selectionCleared_cases with h | h
    · rw [h]
      exact refl c
    · rw [h]
      exact of_eq (by simp) (by simp)

theorem Waits.dispatchDisplayEvents : Waits c c.dispatchDisplayEvents.2 := by
  have start : Waits c { c with display := (DisplayServer.takeEvents c.display).2 } :=
    of_eq rfl rfl
  exact dispatch_induction (Q := fun _ c' => Waits c c') start
    fun e _ c' h => h.trans (handleDisplayEvent c' e)

omit [DisplayServer δ] [Renderer σ] in
theorem Waits.changeWindow (id : WindowId) (f : Toplevel → Toplevel)
    {next : Compositor δ σ → Compositor δ σ} (after : ∀ c, Waits c (next c)) :
    Waits c (c.changeWindow id f next) := by
  rw [Compositor.changeWindow]
  split
  · have changed : Waits c { c with windows := c.windows.modify id f } := of_eq rfl rfl
    exact changed.trans (after _)
  · exact refl c

theorem Waits.addWindow (w : Toplevel) : Waits c (c.addWindow w) := by
  have put : Waits c ((c.entered w).checkBypass true).scheduleRepaint :=
    of_eq (by simp [entered]) (by simp [entered])
  rcases c.addWindow_cases w with ⟨_, h⟩ | ⟨_, h⟩
  · rw [h]
    exact refl c
  · rw [h]
    split
    · exact put.trans (blockFor _ _)
    · exact put

theorem Waits.removeWindow (id : WindowId) (keepPlaceholder : Bool) :
    Waits c (c.removeWindow id keepPlaceholder).2 := by
  rcases c.removeWindow_cases id keepPlaceholder with ⟨_, h⟩ | ⟨w, _, _, h⟩
  · rw [h]
    exact refl c
  · have gone : Waits c (((c.left w keepPlaceholder).addRepaint
        (Region.ofRect w.geometry)).checkBypass true) :=
      of_eq (by simp [left]) (by simp [left])
    rw [h]
    split
    · exact gone.trans (unblock _)
    · exact gone

omit [DisplayServer δ] in
theorem Waits.setClientState (id : WindowId) (state : ClientState) :
    Waits c (c.setClientState id state).2 := by
  rcases c.setClientState_cases id state with h | ⟨w, old, _, _, h⟩
  · rw [h]
    exact refl c
  · have told : Waits c ((c.restated id state).checkBypass false) :=
      of_eq (by simp [restated]) (by simp [restated])
    rw [h]
    split
    · exact told.trans (blockFor _ _)
    · split
      · exact told.trans (unblock _)
      · exact told

theorem Waits.handleTimer {id : TimerId} (other : id ≠ .deferred) : Waits c (c.handleTimer id) := by
  cases id with
  | repaint => exact of_eq (performCompositing_frame c).2.1 (performCompositing_frame c).2.2.1
  | bypassCheck => exact of_eq (bypassPass_frame c).2.1 (bypassPass_frame c).2.2.1
  | bypassRetry =>
    exact of_eq (checkBypass_frame c false).2.2.2.2.1 (checkBypass_frame c false).2.2.2.2.2.1
  | supportSweep => exact of_eq rfl rfl
  | restart => exact restart c
  | deferred => exact (other rfl).elim

theorem Waits.fireTimer {target : Nanos}
    (other : ∀ timers, c.timers.popDue target ≠ some (.deferred, timers)) :
    Waits c (c.fireTimer target) := by
  rw [Compositor.fireTimer]
  split
  · exact refl c
  · rename_i id timers popped
    have still : Waits c { c with timers := timers } := of_eq rfl rfl
    refine still.trans (handleTimer _ ?_)
    rintro rfl
    exact other timers popped

/-- Outside the turns the reasons to be suspended stay as they are. -/
theorem Waits.step (W : World ω δ σ) {k : Step ω} (ordinary : k.Ordinary)
    (waiting : ¬ c.TakesTurn k) : Waits c (c.step W k) := by
  cases k with
  | suspend | resume | toggle | toggleRemote | setCompositing | startOver => exact ordinary.elim
  | setup => exact of_eq (setup_frame c).1 (setup_frame c).2
  | finish => exact of_eq (finish_frame c).2.1 (finish_frame c).2.2.1
  | reconfigure options => exact reconfigure c options
  | restart => exact restart c
  | shutdown => exact of_eq (finish_frame c).2.1 (finish_frame c).2.2.1
  | blockFor id => exact blockFor c id
  | unblock => exact unblock c
  | performCompositing =>
    exact of_eq (performCompositing_frame c).2.1 (performCompositing_frame c).2.2.1
  | addWindow w => exact addWindow c w
  | removeWindow id keepPlaceholder => exact removeWindow c id keepPlaceholder
  | setClientState id state => exact setClientState c id state
  | discardPlaceholder id =>
    rcases c.discardPlaceholder_cases id with h | ⟨_, _, _, _, _, h⟩
    · exact of_same h
    · exact of_eq (by simp [Compositor.step, h]) (by simp [Compositor.step, h])
  | setGeometry id geometry =>
    rcases c.setGeometry_cases id geometry with h | ⟨_, _, _, _, _, _, h⟩
    · exact of_same h
    · exact of_eq (by simp [Compositor.step, h]) (by simp [Compositor.step, h])
  | raiseWindow id =>
    dsimp only [Compositor.step, Compositor.raiseWindow]
    split
    · exact of_eq (by simp) (by simp)
    · exact refl c
  | setWindowOpacity id o =>
    have after (c : Compositor δ σ) : Waits c (c.scheduleRepaint.checkBypass false) :=
      of_eq (by simp) (by simp)
    exact changeWindow c id (fun w => (w.setOpacity o).addRepaintFull) after
  | setShaped id shaped =>
    apply changeWindow c id (fun w => { w with shaped := shaped })
    intro c
    exact of_eq (by simp) (by simp)
  | suspendBypass id suspended =>
    apply changeWindow c id (fun w => { w with bypassSuspended := suspended })
    intro c
    exact of_eq (by simp) (by simp)
  | addWindowRepaint id g =>
    apply changeWindow c id (Toplevel.addRepaint g)
    intro c
    exact of_eq (by simp) (by simp)
  | addWindowRepaintFull id =>
    apply changeWindow c id Toplevel.addRepaintFull
    intro c
    exact of_eq (by simp) (by simp)
  | addWindowLayerRepaint id g =>
    apply changeWindow c id (Toplevel.addLayerRepaint g)
    intro c
    exact of_eq (by simp) (by simp)
  | handleDisplayEvent e => exact handleDisplayEvent c e
  | dispatchDisplayEvents => exact dispatchDisplayEvents c
  | handleTimer id =>
    refine handleTimer c ?_
    rintro rfl
    exact waiting (Or.inl rfl)
  | fireTimer target =>
    apply fireTimer c
    intro timers popped
    exact waiting (Or.inr ⟨target, timers, rfl, popped⟩)
  | setBypassFullscreen on =>
    dsimp only [Compositor.step, Compositor.setBypassFullscreen]
    split
    · exact refl c
    · exact of_eq (by simp) (by simp)
  | setOverlayVisible visible =>
    rcases c.setOverlayVisible_cases visible with ⟨_, h⟩ | ⟨_, _, h⟩ | ⟨_, _, h⟩
    all_goals exact of_eq (by simp [Compositor.step, h]) (by simp [Compositor.step, h])
  | handleRequest r =>
    cases r with
    | isActive | compositingType | isCompositingPossible | notPossibleReason => exact refl c
    | _ => exact ordinary.elim
  | scheduleRepaint | addRepaint | addRepaintFull | setStackingOrder | checkBypass =>
    exact of_eq (by simp [Compositor.step, Compositor.setStackingOrder])
      (by simp [Compositor.step, Compositor.setStackingOrder])
  | scheduleRestart | advanceClock | keepSupportProperty | removeSupportProperty | takeEvents
  | outside => exact of_eq rfl rfl

end Compositor

namespace WindowStack

def othersBlock (s : WindowStack) (id : WindowId) : Bool :=
  s.windows.any fun v => v.id != id && v.blocks

theorem any_blocks_split {s : WindowStack} (distinct : s.Distinct) {id : WindowId} {w : Toplevel}
    (found : s.get? id = some w) : s.windows.any (·.blocks) = (w.blocks || s.othersBlock id) := by
  have hw := mem_of_get? found
  rw [Bool.eq_iff_iff, Bool.or_eq_true, othersBlock, List.any_eq_true, List.any_eq_true]
  constructor
  · rintro ⟨v, hv, blocks⟩
    by_cases same : v.id = id
    · exact Or.inl (eq_of_get? distinct found hv same ▸ blocks)
    · exact Or.inr ⟨v, hv, by simp [same, blocks]⟩
  · rintro (blocks | ⟨v, hv, h⟩)
    · exact ⟨w, hw.1, blocks⟩
    · simp only [Bool.and_eq_true] at h
      exact ⟨v, hv, h.2⟩

theorem any_blocks_modify {s : WindowStack} {id : WindowId} {f : Toplevel → Toplevel}
    {w : Toplevel} (distinct : s.Distinct) (found : s.get? id = some w) :
    (s.modify id f).windows.any (·.blocks) = ((f w).blocks || s.othersBlock id) := by
  have hw := mem_of_get? found
  rw [Bool.eq_iff_iff, Bool.or_eq_true, othersBlock, List.any_eq_true, List.any_eq_true]
  constructor
  · rintro ⟨v, hv, blocks⟩
    rcases mem_modify.mp hv with ⟨u, hu, same, rfl⟩ | ⟨hv, other⟩
    · exact Or.inl (eq_of_get? distinct found hu same ▸ blocks)
    · exact Or.inr ⟨v, hv, by simp [other, blocks]⟩
  · rintro (blocks | ⟨v, hv, h⟩)
    · exact ⟨f w, mem_modify.mpr (Or.inl ⟨w, hw.1, hw.2, rfl⟩), blocks⟩
    · simp only [Bool.and_eq_true, bne_iff_ne] at h
      exact ⟨v, mem_modify.mpr (Or.inr ⟨hv, h.1⟩), h.2⟩

theorem any_blocks_remove (s : WindowStack) (id : WindowId) :
    (s.remove id).windows.any (·.blocks) = s.othersBlock id := by
  simp [remove, othersBlock, List.any_filter]

end WindowStack

namespace Compositor

open WindowStack

variable {ω δ σ : Type}

@[simp] theorem holds_byRule (s : Suspension) : s.holds Suspension.byRule = s.rule := by
  simp [Suspension.holds, Suspension.byRule]

/-- A blocking window for which nothing is put off finds compositing suspended already. -/
theorem held_of_blockFor {c : Compositor δ σ} {id : WindowId} {w : Toplevel}
    (found : c.windows.get? id = some w) (blocks : w.blocks = true)
    (quiet : (c.blockFor id).deferred = []) : c.suspended.rule = true := by
  by_contra h
  have free : c.suspended.rule = false := by simpa using h
  simp [blockFor, found, blocks, free] at quiet

/-- If nothing is put off although compositing is suspended, some client still blocks it. -/
theorem blocked_of_unblock {c : Compositor δ σ} (held : c.suspended.rule = true)
    (quiet : c.unblock.deferred = []) : c.blocked = true := by
  by_contra open_
  have none : c.windows.windows.any (·.blocks) = false := by simpa [blocked] using open_
  simp [unblock, held, none] at quiet

/-- When nothing is put off, compositing is held suspended on behalf of windows exactly if one
blocks it. -/
def Agrees (c : Compositor δ σ) : Prop := c.deferred = [] → c.suspended.rule = c.blocked

variable [DisplayServer δ] [Renderer σ] {c : Compositor δ σ}

omit [DisplayServer δ] [Renderer σ] in
/-- What waits agrees with the windows, if whoever puts nothing off leaves no disagreement. -/
theorem Waits.agrees {c' : Compositor δ σ} (waits : Waits c c') (h : c.Agrees)
    (same : c'.deferred = [] → c.suspended.rule = c.blocked → c.suspended.rule = c'.blocked) :
    c'.Agrees := by
  intro quiet
  have before : c.deferred = [] := List.prefix_nil.mp (quiet ▸ waits.deferred)
  rw [waits.suspended]
  exact same quiet (h before)

theorem addWindow_agrees (w : Toplevel) (distinct : c.windows.Distinct) (h : c.Agrees) :
    (c.addWindow w).Agrees := by
  apply (Waits.addWindow c w).agrees h
  intro quiet agrees
  rcases c.addWindow_windows w with same | ⟨fresh, put⟩
  · rw [agrees, blocked, blocked, same]
  have kept := c.entering_kept w
  have more : (c.addWindow w).blocked = (c.blocked || w.blocks) := by
    rw [blocked, put]
    simp [entered, kept.blocks, blocked]
  cases blocks : w.blocks with
  | false => rw [more, agrees, blocks, Bool.or_false]
  | true =>
    rcases c.addWindow_cases w with ⟨known, _⟩ | ⟨_, e⟩
    · simp [known] at fresh
    have member : (c.entering w).1 ∈ (c.entered w).windows.windows :=
      List.mem_append_right _ (List.mem_singleton_self _)
    have found : (c.entered w).windows.get? w.id = some (c.entering w).1 :=
      kept.id ▸ get?_of_mem (entered_distinct fresh distinct) member
    rw [e, blocks, if_pos rfl] at quiet
    have held := held_of_blockFor (by simpa using found) (kept.blocks.trans blocks) quiet
    rw [more, blocks, Bool.or_true]
    simpa [entered] using held

theorem removeWindow_agrees (id : WindowId) (keepPlaceholder : Bool)
    (distinct : c.windows.Distinct) (h : c.Agrees) :
    (c.removeWindow id keepPlaceholder).2.Agrees := by
  apply (Waits.removeWindow c id keepPlaceholder).agrees h
  intro quiet agrees
  rcases c.removeWindow_cases id keepPlaceholder with ⟨_, e⟩ | ⟨w, found, _, e⟩
  · rw [e]
    exact agrees
  have same := (mem_of_get? found).2
  subst same
  have fewer : (c.left w keepPlaceholder).windows.windows.any (·.blocks) =
      c.windows.othersBlock w.id := by
    dsimp only [left]
    split
    · rw [any_blocks_modify distinct found]
      simp [Toplevel.blocks, Toplevel.becomePlaceholder, Toplevel.clientState?]
    · exact any_blocks_remove _ _
  have split := any_blocks_split distinct found
  cases blocks : w.blocks with
  | false =>
    rw [e, blocks, agrees, blocked, split, blocks]
    simp [blocked, fewer]
  | true =>
    have held : c.suspended.rule = true := by rw [agrees, blocked, split, blocks, Bool.true_or]
    rw [e, blocks, if_pos rfl] at quiet ⊢
    have still := blocked_of_unblock (by simpa [left] using held) quiet
    rw [held, blocked, (unblock_frame _).2.2.2.1]
    exact still.symm

omit [DisplayServer δ] [Renderer σ] in
theorem restated_get? {id : WindowId} {w : Toplevel} (state : ClientState)
    (distinct : c.windows.Distinct) (found : c.windows.get? id = some w) :
    (c.restated id state).windows.get? id = some { w with kind := .client state } := by
  obtain ⟨hw, rfl⟩ := mem_of_get? found
  have member : { w with kind := .client state } ∈ (c.restated w.id state).windows.windows :=
    mem_modify.mpr (Or.inl ⟨w, hw, rfl, rfl⟩)
  have unique : (c.restated w.id state).windows.Distinct := distinct.modify fun _ _ h => h
  exact get?_of_mem unique member

omit [DisplayServer δ] in
theorem setClientState_agrees (id : WindowId) (state : ClientState)
    (distinct : c.windows.Distinct) (h : c.Agrees) : (c.setClientState id state).2.Agrees := by
  apply (Waits.setClientState c id state).agrees h
  intro quiet agrees
  rcases c.setClientState_cases id state with e | ⟨w, old, found, client, e⟩
  · rw [e]
    exact agrees
  have before : c.blocked = (old.blocksCompositing || c.windows.othersBlock id) := by
    rw [blocked, any_blocks_split distinct found]
    simp [Toplevel.blocks, Toplevel.clientState?, client]
  have after : (c.restated id state).blocked =
      (state.blocksCompositing || c.windows.othersBlock id) := by
    rw [blocked, restated, any_blocks_modify distinct found]
    simp [Toplevel.blocks, Toplevel.clientState?]
  have shown : ((c.restated id state).checkBypass false).blocked =
      (c.restated id state).blocked := by
    simp [blocked]
  have held_eq : ((c.restated id state).checkBypass false).suspended.rule = c.suspended.rule := by
    simp [restated]
  rw [e] at quiet ⊢
  split at quiet
  · rename_i begins
    have found' := restated_get? state distinct found
    simp only [Bool.and_eq_true] at begins
    have blocks : ({ w with kind := .client state } : Toplevel).blocks = true := begins.1
    have held := held_of_blockFor (by simpa using found') blocks quiet
    rw [if_pos (by simpa using begins), blocked, (blockFor_frame _ _).2.2.2.1]
    exact (held_eq ▸ held).trans (by rw [← blocked, shown, after, begins.1, Bool.true_or])
  · rename_i no_begin
    rw [if_neg no_begin]
    split at quiet
    · rename_i ends
      simp only [Bool.and_eq_true] at ends
      have held : c.suspended.rule = true := by rw [agrees, before, ends.1, Bool.true_or]
      have still := blocked_of_unblock (held_eq.trans held) quiet
      rw [if_pos (by simpa using ends), blocked, (unblock_frame _).2.2.2.1, held]
      exact still.symm
    · rename_i no_end
      have same : state.blocksCompositing = old.blocksCompositing := by
        cases hs : state.blocksCompositing <;> cases ho : old.blocksCompositing <;> simp_all
      rw [if_neg no_end, shown, after, agrees, before, same]

/-- Outside the turns no disagreement arises. -/
theorem step_agrees (W : World ω δ σ) {k : Step ω} (ordinary : k.Ordinary)
    (waiting : ¬ c.TakesTurn k) (distinct : c.windows.Distinct) (h : c.Agrees) :
    (c.step W k).Agrees := by
  by_cases inner : k.Inner
  · have evolved := (evolves_preserved distinct).step W inner (Evolves.refl distinct)
    apply (Waits.step c W ordinary waiting).agrees h
    intro _ agrees
    rw [agrees, blocked, blocked, evolved.any_blocks distinct]
  · cases k with
    | addWindow w => exact addWindow_agrees w distinct h
    | removeWindow id keepPlaceholder => exact removeWindow_agrees id keepPlaceholder distinct h
    | setClientState id state => exact setClientState_agrees id state distinct h
    | outside o => exact h
    | _ => exact (inner trivial).elim

theorem runAction_rule (a : DeferredAction) :
    (c.runAction a).deferred = c.deferred ∧
      (c.runAction a).suspended.rule = ruleAfter c.suspended.rule a := by
  cases a with
  | suspend reason => simp [runAction, suspend, ruleAfter, Suspension.union]
  | resume reason => simp [runAction, resume, ruleAfter, Suspension.without]
  | setup => simp [runAction, ruleAfter]

/-- A turn does all that was put off and puts nothing off itself. -/
theorem runDeferred_rule :
    c.runDeferred.deferred = [] ∧ c.runDeferred.suspended.rule = c.queuedRule := by
  have all (actions : List DeferredAction) (c : Compositor δ σ) :
      (actions.foldl runAction c).deferred = c.deferred ∧
        (actions.foldl runAction c).suspended.rule =
          actions.foldl ruleAfter c.suspended.rule := by
    induction actions generalizing c with
    | nil => exact ⟨rfl, rfl⟩
    | cons a rest ih =>
      have one := runAction_rule (c := c) a
      have others := ih (c.runAction a)
      rw [one.1, one.2] at others
      exact others
  exact all c.deferred { c with deferred := [] }

theorem turn_rule (W : World ω δ σ) {k : Step ω} (turn : c.TakesTurn k)
    (distinct : c.windows.Distinct) :
    (c.step W k).deferred = [] ∧ (c.step W k).suspended.rule = c.queuedRule ∧
      (c.step W k).blocked = c.blocked := by
  have inner : k.Inner := by
    rcases turn with rfl | ⟨_, _, rfl, _⟩
    · exact trivial
    · exact trivial
  have evolved := (evolves_preserved distinct).step W inner (Evolves.refl distinct)
  have same : (c.step W k).blocked = c.blocked := evolved.any_blocks distinct
  rcases turn with rfl | ⟨target, timers, rfl, popped⟩
  · exact ⟨runDeferred_rule.1, runDeferred_rule.2, same⟩
  · have done := runDeferred_rule (c := { c with timers := timers })
    have e : c.step W (.fireTimer target) = runDeferred { c with timers := timers } := by
      simp [step, fireTimer, popped, handleTimer]
    exact ⟨e ▸ done.1, e ▸ done.2, same⟩

/-- A run without suspensions and resumptions from outside, from a compositor without windows
that is not suspended on behalf of any: the reason is held exactly while a client blocks
compositing, in every state in which nothing is put off, if and only if every turn finds that
what was put off for it still fits the windows. -/
theorem rule_held_iff_blocked (W : World ω δ σ) (c : Compositor δ σ)
    (empty : c.windows.windows = []) (free : c.suspended.holds Suspension.byRule = false)
    {steps : List (Step ω)} (ordinary : ∀ k ∈ steps, k.Ordinary) :
    (∀ before, before <+: steps → (c.run W before).deferred = [] →
        (c.run W before).suspended.holds Suspension.byRule = (c.run W before).blocked) ↔
      ∀ before k, before ++ [k] <+: steps → (c.run W before).TakesTurn k →
        (c.run W before).queuedRule = (c.run W before).blocked := by
  have distinct (before : List (Step ω)) : (c.run W before).windows.Distinct := by
    have start : c.windows.Distinct := by simp [Distinct, ids, empty]
    exact run_preserves W (P := fun c => c.windows.Distinct) (fun c k _ h => step_distinct W k h)
      start fun _ _ => trivial
  have snoc (before : List (Step ω)) (k : Step ω) :
      c.run W (before ++ [k]) = (c.run W before).step W k := run_append W c before [k]
  simp only [holds_byRule] at free ⊢
  constructor
  · intro agrees before k reached turn
    obtain ⟨quiet, held, same⟩ := turn_rule W turn (distinct before)
    have now := agrees (before ++ [k]) reached (snoc before k ▸ quiet)
    rwa [snoc, held, same] at now
  · intro fits before
    induction before using List.reverseRecOn with
    | nil =>
      intro _ _
      simp [run, blocked, empty, free]
    | append_singleton before k ih =>
      intro reached
      have earlier : before <+: steps := (List.prefix_append before [k]).trans reached
      by_cases turn : (c.run W before).TakesTurn k
      · obtain ⟨_, held, same⟩ := turn_rule W turn (distinct before)
        intro _
        rw [snoc, held, same]
        exact fits before k reached turn
      · have allowed : k.Ordinary := ordinary k (reached.subset (by simp))
        rw [snoc]
        exact step_agrees W allowed turn (distinct before) (ih earlier)

def untouched : Compositor HeadlessDisplay HeadlessRenderer :=
  Compositor.new (.new Extension.all (.single 1920 1080)) (.new ⟨1⟩ fun _ => 0)
    CompositingOptions.standard

/-- A client that blocks compositing comes, and goes after a turn. -/
def passingBlocker : List (Step Empty) :=
  [.addWindow (.client ⟨1⟩ (.ofCoords 0 0 100 100) ⟨false, false, true⟩), .fireTimer 0,
    .removeWindow ⟨1⟩ false, .fireTimer 0]

/-- Once the turn for the resumption is over, compositing is held suspended for nobody. -/
theorem passingBlocker_held :
    (untouched.run .closed passingBlocker).deferred = [] ∧
      (untouched.run .closed passingBlocker).suspended.holds Suspension.byRule =
        (untouched.run .closed passingBlocker).blocked := by
  have ordinary : ∀ k ∈ passingBlocker, k.Ordinary := by
    simp [passingBlocker, Step.Ordinary]
  have quiet : (untouched.run .closed passingBlocker).deferred = [] := rfl
  refine ⟨quiet, ?_⟩
  refine (rule_held_iff_blocked .closed untouched rfl rfl ordinary).mpr ?_ _ List.prefix_rfl quiet
  intro before k reached _
  have taken : before = passingBlocker.take before.length :=
    List.prefix_iff_eq_take.mp ((List.prefix_append before [k]).trans reached)
  have short : before.length < 4 := by
    have bound := reached.length_le
    simp only [List.length_append, passingBlocker, List.length_cons, List.length_nil] at bound
    omega
  rw [taken]
  generalize before.length = n at short
  interval_cases n
  · rfl
  · rfl
  · rfl
  · rfl

/-- A client that blocks compositing comes, and stops to block it before the turn. -/
def hastyBlocker : List (Step Empty) :=
  [.addWindow (.client ⟨1⟩ (.ofCoords 0 0 100 100) ⟨false, false, true⟩),
    .setClientState ⟨1⟩ ⟨false, false, false⟩, .fireTimer 0]

/-- Compositing stays suspended on behalf of a client that does not block it any more. -/
theorem hastyBlocker_held :
    untouched.windows.windows = [] ∧ untouched.suspended.holds Suspension.byRule = false ∧
      (∀ k ∈ hastyBlocker, k.Ordinary) ∧
      (untouched.run .closed hastyBlocker).deferred = [] ∧
      (untouched.run .closed hastyBlocker).suspended.holds Suspension.byRule = true ∧
      (untouched.run .closed hastyBlocker).blocked = false := by
  refine ⟨rfl, rfl, ?_, rfl, rfl, rfl⟩
  simp [hastyBlocker, Step.Ordinary]

end Compositor

end Compositing
