import Compositing.Proofs.Evolution
import Compositing.Proofs.Rounds

/-!
# What a frame fetches

The windows and the server take turns in a frame: the damaged windows have their damage asked for
and then their replies collected, both from bottom to top. What the server is asked can be said
without the windows in between. The first round gives a ticket for each window that was granted
one, the second gives a region for each window, and the frame adds the regions to the windows.
-/

namespace Compositing

open WindowStack (round round_cons_turn round_cons_skip visit_eq_round)

variable {δ σ : Type} [DisplayServer δ]

namespace Toplevel

def dirty? (w : Toplevel) : Option DamageHandle := if w.isDamaged then w.damage? else none

def inquired (w : Toplevel) (ticket? : Option DamageFetch) : Toplevel :=
  { w with isDamaged := false, pendingFetch? := ticket? }

def folded (w : Toplevel) (g : Region) : Toplevel :=
  { w with
    isDamaged := false
    damageRegion := w.damageRegion.union g
    windowRepaints := w.windowRepaints.union g }

end Toplevel

/-- Asks for the damage of all damaged windows. Each window, damaged or not, has its place in the
answer, which holds a ticket if a request for it has succeeded. -/
def askAll : List Toplevel → δ → List (Option DamageFetch) × δ
  | [], d => ([], d)
  | w :: rest, d =>
    match w.dirty? with
    | none => (none :: (askAll rest d).1, (askAll rest d).2)
    | some handle =>
      let asked := DisplayServer.requestDamage handle d
      (asked.1.toOption :: (askAll rest asked.2).1, (askAll rest asked.2).2)

/-- Collects the replies, and gives a region for each place, empty where no reply is. -/
def collectAll : List (Option DamageFetch) → δ → List Region × δ
  | [], d => ([], d)
  | none :: rest, d => (Region.empty :: (collectAll rest d).1, (collectAll rest d).2)
  | some ticket :: rest, d =>
    let d' := (DisplayServer.damageReply ticket d).2
    (Toplevel.received ticket d :: (collectAll rest d').1, (collectAll rest d').2)

def sendOff (tickets : List (Option DamageFetch)) (d : δ) : δ :=
  if tickets.all Option.isNone then d else DisplayServer.flush d

/-- What the server is asked for in a frame over some windows, and the regions that come of it. -/
def harvest (windows : List Toplevel) (d : δ) : List Region × δ :=
  collectAll (askAll windows d).1 (sendOff (askAll windows d).1 (askAll windows d).2)

theorem askAll_length (windows : List Toplevel) (d : δ) :
    (askAll windows d).1.length = windows.length := by
  induction windows generalizing d with
  | nil => rfl
  | cons w rest ih =>
    rw [askAll]
    cases w.dirty? with
    | none => simpa using ih d
    | some handle => simpa using ih (DisplayServer.requestDamage handle d).2

theorem collectAll_length (tickets : List (Option DamageFetch)) (d : δ) :
    (collectAll tickets d).1.length = tickets.length := by
  induction tickets generalizing d with
  | nil => rfl
  | cons ticket? rest ih =>
    cases ticket? with
    | none => simpa [collectAll] using ih d
    | some ticket => simpa [collectAll] using ih _

theorem harvest_length (windows : List Toplevel) (d : δ) :
    (harvest windows d).1.length = windows.length := by
  rw [harvest, collectAll_length, askAll_length]

namespace Compositor

open Toplevel (inquired folded)

/-! One turn, and the rounds. -/

/-- A window that awaits no reply has its damage asked for, if it is damaged and tracked. -/
theorem requestStep_eq {w : Toplevel} (free : w.pendingFetch? = none) (t : List WindowId × δ) :
    requestStep w t =
      match w.dirty? with
      | none => (w.inquired none, t)
      | some handle =>
        (w.inquired (DisplayServer.requestDamage handle t.2).1.toOption,
          if (DisplayServer.requestDamage handle t.2).1.toOption.isSome then t.1 ++ [w.id] else t.1,
          (DisplayServer.requestDamage handle t.2).2) := by
  rw [requestStep]
  rcases w.requestDamage_cases t.2 with
    ⟨idle, h⟩ | ⟨damaged, _, ⟨untracked, h⟩ | ⟨handle, e, d', tracked, failed, h⟩ |
      ⟨handle, ticket, d', tracked, granted, h⟩⟩
  · have clean : w.isDamaged = false := by simpa [free] using idle
    have still : w.inquired none = w := by rw [inquired, ← free, ← clean]
    have nothing : w.dirty? = none := by simp [Toplevel.dirty?, clean]
    rw [h, nothing, still]
  · have nothing : w.dirty? = none := by simp [Toplevel.dirty?, untracked]
    rw [h, nothing, inquired, ← free]
  · have due : w.dirty? = some handle := by simp [Toplevel.dirty?, damaged, tracked]
    rw [h, due]
    simp [failed, inquired, free, Except.toOption]
  · have due : w.dirty? = some handle := by simp [Toplevel.dirty?, damaged, tracked]
    rw [h, due]
    simp [granted, inquired, Except.toOption]

/-- The round of requests. -/
theorem requests_eq {windows : List Toplevel} (calm : ∀ w ∈ windows, w.pendingFetch? = none)
    (asked : List WindowId) (d : δ) :
    round (fun _ => true) requestStep windows (asked, d) =
      (List.zipWith inquired windows (askAll windows d).1,
        asked ++ ((List.zipWith inquired windows (askAll windows d).1).filter
          (·.pendingFetch?.isSome)).map (·.id),
        (askAll windows d).2) := by
  induction windows generalizing asked d with
  | nil => simp [WindowStack.round, askAll]
  | cons w rest ih =>
    have others := ih fun v hv => calm v (List.mem_cons_of_mem w hv)
    rw [round_cons_turn rfl, requestStep_eq (calm w List.mem_cons_self), askAll]
    cases w.dirty? with
    | none =>
      dsimp only
      rw [others]
      simp [inquired]
    | some handle =>
      dsimp only
      cases granted : (DisplayServer.requestDamage handle d).1.toOption with
      | none =>
        rw [others]
        simp [inquired]
      | some ticket =>
        rw [others]
        simp [inquired]

theorem collectStep_inquired {w : Toplevel} (free : w.pendingFetch? = none) (ticket : DamageFetch)
    (d : δ) :
    collectStep (w.inquired (some ticket)) d =
      (w.folded (Toplevel.received ticket d), (DisplayServer.damageReply ticket d).2) := by
  rw [collectStep]
  rcases (w.inquired (some ticket)).collectDamage_cases d with ⟨none, _⟩ | ⟨_, awaited, h⟩
  · simp [inquired] at none
  · obtain rfl := Option.some.inj awaited
    rw [h, inquired, folded, ← free]

/-- The round of replies. -/
theorem replies_eq {windows : List Toplevel} (calm : ∀ w ∈ windows, w.pendingFetch? = none)
    {tickets : List (Option DamageFetch)} (places : tickets.length = windows.length) (d : δ) :
    round (·.pendingFetch?.isSome) collectStep (List.zipWith inquired windows tickets) d =
      (List.zipWith folded windows (collectAll tickets d).1, (collectAll tickets d).2) := by
  induction windows generalizing tickets d with
  | nil =>
    obtain rfl := List.length_eq_zero_iff.mp places
    rfl
  | cons w rest ih =>
    obtain ⟨ticket?, tickets, rfl⟩ := List.exists_cons_of_length_eq_add_one places
    have free := calm w List.mem_cons_self
    have others := ih (fun v hv => calm v (List.mem_cons_of_mem w hv)) (Nat.succ.inj places)
    cases ticket? with
    | none =>
      have kept : w.inquired none = w.folded Region.empty := by
        rw [inquired, folded, ← free]
        rfl
      rw [List.zipWith_cons_cons, round_cons_skip (by simp [inquired]), others, collectAll, kept]
      rfl
    | some ticket =>
      rw [List.zipWith_cons_cons, round_cons_turn (by simp [inquired]),
        collectStep_inquired free, others, collectAll]
      rfl

omit [DisplayServer δ] in
/-- The windows hold the tickets. -/
theorem tickets_of_inquired {windows : List Toplevel} {tickets : List (Option DamageFetch)}
    (places : tickets.length = windows.length) :
    (List.zipWith inquired windows tickets).map (·.pendingFetch?) = tickets := by
  induction windows generalizing tickets with
  | nil =>
    obtain rfl := List.length_eq_zero_iff.mp places
    rfl
  | cons w rest ih =>
    obtain ⟨ticket?, tickets, rfl⟩ := List.exists_cons_of_length_eq_add_one places
    rw [List.zipWith_cons_cons, List.map_cons, ih (Nat.succ.inj places)]
    rfl

/-- Requests are sent off if there is a window with a reply to collect. -/
theorem sendOff_eq {windows : List Toplevel} {tickets : List (Option DamageFetch)}
    (places : tickets.length = windows.length) (d : δ) :
    sendOff tickets d =
      if (((List.zipWith inquired windows tickets).filter (·.pendingFetch?.isSome)).map
        (·.id)).isEmpty then d else DisplayServer.flush d := by
  have same : tickets.all Option.isNone =
      (((List.zipWith inquired windows tickets).filter (·.pendingFetch?.isSome)).map
        (·.id)).isEmpty := by
    conv_lhs => rw [← tickets_of_inquired places]
    rw [List.all_map, Bool.eq_iff_iff, List.isEmpty_map, List.isEmpty_iff, List.filter_eq_nil_iff]
    simp
  rw [sendOff, same]

/-- A frame adds to each window what it fetches for it, and leaves no reply to be collected. -/
theorem fetchDamage_eq {c : Compositor δ σ} (distinct : c.windows.Distinct)
    (calm : c.windows.Calm) :
    c.fetchDamage = { c with
      windows := ⟨List.zipWith folded c.windows.windows (harvest c.windows.windows c.display).1⟩
      display := (harvest c.windows.windows c.display).2 } := by
  have requests := requests_eq calm [] c.display
  have all : c.windows.ids = (c.windows.windows.filter fun _ => true).map (·.id) := by
    rw [WindowStack.ids, List.filter_true]
  have asked := visit_eq_round (fun _ => true)
    (fun w t => (requestStep_refreshed w t).looks.id) distinct ([], c.display)
  rw [requests, ← all] at asked
  have distinct' : WindowStack.Distinct ⟨List.zipWith inquired c.windows.windows
      (askAll c.windows.windows c.display).1⟩ := by
    have same := c.windows.visit_ids (fun w t => (requestStep_refreshed w t).looks.id)
      c.windows.ids ([], c.display)
    rw [asked] at same
    rw [WindowStack.Distinct, same]
    exact distinct
  have collected := visit_eq_round (·.pendingFetch?.isSome)
    (fun w d => (collectStep_refreshed w d).looks.id) distinct'
    (sendOff (askAll c.windows.windows c.display).1 (askAll c.windows.windows c.display).2)
  rw [replies_eq calm (askAll_length _ _), sendOff_eq (askAll_length _ _)] at collected
  rw [fetchDamage, asked]
  dsimp only
  rw [List.nil_append, collected, harvest, sendOff_eq (askAll_length _ _)]

end Compositor

end Compositing
