import Compositing.Proofs.Preservation
import Compositing.Proofs.Tracking

/-!
# What the windows keep

Only the window manager takes windows in, lets them go and says what they are. Whatever
else happens, windows change their inner state in place, change their order, or are
placeholders that disappear. So ids stay distinct, a placeholder is never drawn directly
to the screen, the clients that block compositing stay the same, and no reply is awaited
from one call to the next.
-/

namespace Compositing

namespace Toplevel

/-- The window is still the same one, and has not started to bypass compositing as a
placeholder. -/
structure Kept (w w' : Toplevel) : Prop where
  id : w'.id = w.id
  kind : w'.kind = w.kind
  bypass : w.isPlaceholder = true → w'.unredirected = true → w.unredirected = true

theorem Kept.refl (w : Toplevel) : Kept w w := ⟨rfl, rfl, fun _ h => h⟩

theorem Kept.isPlaceholder {w w' : Toplevel} (kept : Kept w w') :
    w'.isPlaceholder = w.isPlaceholder := by
  simp [Toplevel.isPlaceholder, kept.kind]

theorem Kept.blocks {w w' : Toplevel} (kept : Kept w w') : w'.blocks = w.blocks := by
  simp [Toplevel.blocks, clientState?, kept.kind]

theorem Kept.trans {u v w : Toplevel} (first : Kept u v) (second : Kept v w) : Kept u w where
  id := second.id.trans first.id
  kind := second.kind.trans first.kind
  bypass := by
    intro placeholder direct
    exact first.bypass placeholder (second.bypass (first.isPlaceholder ▸ placeholder) direct)

/-- A change of other things than these. -/
theorem Kept.of_eq {w w' : Toplevel} (id : w'.id = w.id) (kind : w'.kind = w.kind)
    (direct : w'.unredirected = w.unredirected) : Kept w w' :=
  ⟨id, kind, fun _ h => direct ▸ h⟩

theorem Same.kept {w w' : Toplevel} (same : Same w w') : Kept w w' :=
  Kept.of_eq same.id same.kind same.direct

/-- Of what decides whether the window may bypass compositing, nothing has changed. -/
structure Looks (w w' : Toplevel) : Prop where
  id : w'.id = w.id
  kind : w'.kind = w.kind
  geometry : w'.geometry = w.geometry
  opacity : w'.opacity = w.opacity
  shaped : w'.shaped = w.shaped
  hasAlpha : w'.hasAlpha = w.hasAlpha
  bypassSuspended : w'.bypassSuspended = w.bypassSuspended

theorem Looks.refl (w : Toplevel) : Looks w w := ⟨rfl, rfl, rfl, rfl, rfl, rfl, rfl⟩

theorem Looks.trans {u v w : Toplevel} (first : Looks u v) (second : Looks v w) : Looks u w where
  id := second.id.trans first.id
  kind := second.kind.trans first.kind
  geometry := second.geometry.trans first.geometry
  opacity := second.opacity.trans first.opacity
  shaped := second.shaped.trans first.shaped
  hasAlpha := second.hasAlpha.trans first.hasAlpha
  bypassSuspended := second.bypassSuspended.trans first.bypassSuspended

theorem Looks.isPlaceholder {w w' : Toplevel} (looks : Looks w w') :
    w'.isPlaceholder = w.isPlaceholder := by
  rw [Toplevel.isPlaceholder, Toplevel.isPlaceholder, looks.kind]

/-- The window is as it was but for what is damaged, what is to be painted and what is awaited. -/
structure Refreshed (w w' : Toplevel) : Prop where
  looks : Looks w w'
  damage : w'.damage? = w.damage?
  direct : w'.unredirected = w.unredirected

theorem Refreshed.refl (w : Toplevel) : Refreshed w w := ⟨Looks.refl w, rfl, rfl⟩

theorem Refreshed.trans {u v w : Toplevel} (first : Refreshed u v) (second : Refreshed v w) :
    Refreshed u w where
  looks := first.looks.trans second.looks
  damage := second.damage.trans first.damage
  direct := second.direct.trans first.direct

theorem Refreshed.kept {w w' : Toplevel} (same : Refreshed w w') : Kept w w' :=
  Kept.of_eq same.looks.id same.looks.kind same.direct

end Toplevel

namespace Compositor

open Toplevel

variable {δ σ : Type} [DisplayServer δ] [Renderer σ]

theorem trackStep_kept (w : Toplevel) (t : δ × σ) : Kept w (trackStep w t).1 := by
  refine trackStep_induction (P := fun u _ _ => Kept w u) w t (Kept.refl w)
    (fun _ _ _ => Kept.refl w) fun _ _ real _ => ?_
  exact ⟨rfl, rfl, fun placeholder => by simp [real] at placeholder⟩

theorem untrackStep_kept (w : Toplevel) (t : δ × σ) : Kept w (untrackStep w t).1 :=
  untrackStep_induction (P := fun u _ _ => Kept w u) w t (fun _ => Kept.refl w)
    fun _ _ _ => ⟨rfl, rfl, fun _ direct => by simp [released] at direct⟩

omit [Renderer σ] in
theorem requestStep_refreshed (w : Toplevel) (t : List WindowId × δ) :
    Refreshed w (requestStep w t).1 := by
  rw [requestStep]
  rcases requestDamage_cases w t.2 with
    ⟨_, h⟩ | ⟨_, _, ⟨_, h⟩ | ⟨_, _, _, _, _, h⟩ | ⟨_, _, _, _, _, h⟩⟩
  all_goals rw [h]; exact ⟨⟨rfl, rfl, rfl, rfl, rfl, rfl, rfl⟩, rfl, rfl⟩

omit [Renderer σ] in
theorem collectStep_refreshed (w : Toplevel) (d : δ) : Refreshed w (collectStep w d).1 := by
  rw [collectStep]
  rcases collectDamage_cases w d with ⟨_, h⟩ | ⟨_, _, h⟩
  all_goals rw [h]; exact ⟨⟨rfl, rfl, rfl, rfl, rfl, rfl, rfl⟩, rfl, rfl⟩

theorem painted_refreshed (w : Toplevel) : Refreshed w (painted w) := by
  rw [painted]
  split <;> exact ⟨⟨rfl, rfl, rfl, rfl, rfl, rfl, rfl⟩, rfl, rfl⟩

theorem bypassStep_kept (now : Nanos) (eligible : List WindowId) {w : Toplevel}
    (real : w.isPlaceholder = false) (p : BypassPass δ σ) :
    Kept w (bypassStep now eligible w p).1 := by
  have vacuous {w' : Toplevel} (id : w'.id = w.id) (kind : w'.kind = w.kind) : Kept w w' :=
    ⟨id, kind, fun placeholder => by simp [real] at placeholder⟩
  have same := addDamageFull_same { w with unredirected := false }
  exact bypassStep_induction (P := fun u _ _ => Kept w u) now eligible w p (Kept.refl w)
    (vacuous rfl rfl) (vacuous same.id same.kind)

end Compositor

namespace WindowStack

open Toplevel

def Calm (s : WindowStack) : Prop := ∀ w ∈ s.windows, w.pendingFetch? = none

/-- The one stack has become the other, without any doing of the window manager that lets
windows come or go. -/
structure Evolves (s s' : WindowStack) : Prop where
  distinct : s'.Distinct
  old : ∀ w' ∈ s'.windows, ∃ w ∈ s.windows, Kept w w'
  stays : ∀ w ∈ s.windows, w.isPlaceholder = false → ∃ w' ∈ s'.windows, w'.id = w.id
  calm : s.Calm → s'.Calm

theorem Evolves.refl {s : WindowStack} (distinct : s.Distinct) : Evolves s s :=
  ⟨distinct, fun w hw => ⟨w, hw, Kept.refl w⟩, fun w hw _ => ⟨w, hw, rfl⟩, id⟩

theorem Evolves.trans {s s' s'' : WindowStack} (distinct : s.Distinct) (first : Evolves s s')
    (second : Evolves s' s'') : Evolves s s'' where
  distinct := second.distinct
  old := by
    intro w'' hw''
    obtain ⟨w', hw', later⟩ := second.old w'' hw''
    obtain ⟨w, hw, earlier⟩ := first.old w' hw'
    exact ⟨w, hw, earlier.trans later⟩
  stays := by
    intro w hw real
    obtain ⟨w', hw', same⟩ := first.stays w hw real
    obtain ⟨v, hv, kept⟩ := first.old w' hw'
    have hvw : v = w := eq_of_id_eq distinct hv hw (kept.id.symm.trans same)
    have real' : w'.isPlaceholder = false := by rw [kept.isPlaceholder, hvw, real]
    obtain ⟨w'', hw'', same'⟩ := second.stays w' hw' real'
    exact ⟨w'', hw'', same'.trans same⟩
  calm := fun h => second.calm (first.calm h)

/-- Windows change in place. -/
theorem Evolves.of_becomes {s s' : WindowStack} (distinct : s.Distinct)
    (changed : Becomes Kept s s') (calm : s.Calm → s'.Calm) : Evolves s s' := by
  have distinct' := changed.distinct (fun v w kept => kept.id) distinct
  obtain ⟨g, shape, kept⟩ := changed
  refine ⟨distinct', ?_, ?_, calm⟩
  · intro w' hw'
    obtain ⟨w, hw, rfl⟩ := List.mem_map.mp (shape ▸ hw')
    exact ⟨w, hw, kept w hw⟩
  · intro w hw _
    exact ⟨g w, shape ▸ List.mem_map_of_mem hw, (kept w hw).id⟩

/-- One window changes in place. -/
theorem Evolves.modify {s : WindowStack} (distinct : s.Distinct) (id : WindowId)
    {f : Toplevel → Toplevel} (kept : ∀ w ∈ s.windows, w.id = id → Kept w (f w))
    (calm : ∀ w ∈ s.windows, w.id = id → w.pendingFetch? = none → (f w).pendingFetch? = none) :
    Evolves s (s.modify id f) := by
  refine of_becomes distinct (Becomes.modify Kept.refl s id kept) ?_
  intro still w hw
  rcases mem_modify.mp hw with ⟨v, hv, same, rfl⟩ | ⟨hv, _⟩
  · exact calm v hv same (still v hv)
  · exact still w hv

/-- Placeholders disappear. -/
theorem Evolves.filter {s : WindowStack} (distinct : s.Distinct) {keep : Toplevel → Bool}
    (gone : ∀ w ∈ s.windows, keep w = false → w.isPlaceholder = true) :
    Evolves s ⟨s.windows.filter keep⟩ := by
  refine ⟨distinct.filter keep, ?_, ?_, ?_⟩
  · intro w hw
    exact ⟨w, (List.mem_filter.mp hw).1, Kept.refl w⟩
  · intro w hw real
    have kept : keep w = true := by
      by_contra h
      have placeholder := gone w hw (by simpa using h)
      simp [real] at placeholder
    exact ⟨w, List.mem_filter.mpr ⟨hw, kept⟩, rfl⟩
  · intro still w hw
    exact still w (List.mem_filter.mp hw).1

theorem Evolves.discardPlaceholders {s : WindowStack} (distinct : s.Distinct) :
    Evolves s s.discardPlaceholders :=
  filter distinct fun w _ h => by simpa using h

theorem Evolves.restack {s : WindowStack} (distinct : s.Distinct) (order : List WindowId) :
    Evolves s (s.restack order) where
  distinct := distinct.restack order
  old := fun w hw => ⟨w, (mem_restack distinct order).mp hw, Kept.refl w⟩
  stays := fun w hw _ => ⟨w, (mem_restack distinct order).mpr hw, rfl⟩
  calm := fun still w hw => still w ((mem_restack distinct order).mp hw)

/-- A visit whose turns change their windows in place and await nothing. -/
theorem Evolves.visit {τ : Type} {s : WindowStack} (distinct : s.Distinct)
    {f : Toplevel → τ → Toplevel × τ} {ids : List WindowId} (t : τ)
    (kept : ∀ w ∈ s.windows, w.id ∈ ids → ∀ v t, Kept w v → Kept v (f v t).1)
    (calm : ∀ w t, w.pendingFetch? = none → (f w t).1.pendingFetch? = none) :
    Evolves s (s.visit ids f t).1 := by
  refine of_becomes distinct (Becomes.visit Kept.refl (fun v w h => h.id) distinct ?_ t) ?_
  · intro w hw listed v t' sofar
    exact sofar.trans (kept w hw listed v t' sofar)
  · intro still
    refine visit_induction (P := fun _ s' _ => s'.Calm) still ?_ ?_
    · intro _ _ _ _ _ h
      exact h
    · intro id rest s' t' w found h v hv
      rcases (mem_replace found).mp hv with rfl | ⟨hv, _⟩
      · exact calm w t' (h w (mem_of_get? found).1)
      · exact h v hv

/-- The clients that block compositing stay the same. -/
theorem Evolves.any_blocks {s s' : WindowStack} (distinct : s.Distinct) (h : Evolves s s') :
    s'.windows.any (·.blocks) = s.windows.any (·.blocks) := by
  rw [Bool.eq_iff_iff, List.any_eq_true, List.any_eq_true]
  constructor
  · rintro ⟨w', hw', blocks⟩
    obtain ⟨w, hw, kept⟩ := h.old w' hw'
    exact ⟨w, hw, kept.blocks ▸ blocks⟩
  · rintro ⟨w, hw, blocks⟩
    have real : w.isPlaceholder = false := by
      cases hk : w.kind <;> simp_all [Toplevel.blocks, clientState?, Toplevel.isPlaceholder]
    obtain ⟨w', hw', same⟩ := h.stays w hw real
    obtain ⟨v, hv, kept⟩ := h.old w' hw'
    have hvw : v = w := eq_of_id_eq distinct hv hw (kept.id.symm.trans same)
    subst hvw
    exact ⟨w', hw', by rw [kept.blocks, blocks]⟩

end WindowStack

namespace Compositor

open WindowStack
open Toplevel (Kept Refreshed)

variable {δ σ : Type} [DisplayServer δ] [Renderer σ] {c : Compositor δ σ}

/-- In a round of requests the windows that begin to await a reply are noted. -/
theorem requests_noted {s : WindowStack} (calm : s.Calm) (ids : List WindowId) (d : δ) :
    ∀ w ∈ (s.visit ids requestStep ([], d)).1.windows, w.pendingFetch? ≠ none →
      w.id ∈ (s.visit ids requestStep ([], d)).2.1 := by
  let P : List WindowId → WindowStack → List WindowId × δ → Prop :=
    fun _ s' t => ∀ w ∈ s'.windows, w.pendingFetch? ≠ none → w.id ∈ t.1
  have start : P ids s ([], d) := fun w hw h => (h (calm w hw)).elim
  refine visit_induction start (fun _ _ _ _ _ h => h) ?_
  intro id rest s' t w found h v hv awaited
  have old (v : Toplevel) (hv : v ∈ s'.windows) (h' : v.pendingFetch? ≠ none) : v.id ∈ t.1 :=
    h v hv h'
  have hw := mem_of_get? found
  rcases (mem_replace found).mp hv with rfl | ⟨hv, _⟩
  · revert awaited
    rw [requestStep]
    rcases Toplevel.requestDamage_cases w t.2 with
      ⟨_, e⟩ | ⟨_, none, ⟨_, e⟩ | ⟨_, _, _, _, _, e⟩ | ⟨_, _, _, _, _, e⟩⟩
    · rw [e]
      exact old w hw.1
    · simp [e, none]
    · simp [e, none]
    · simp [e]
  · rw [requestStep]
    rcases Toplevel.requestDamage_cases w t.2 with
      ⟨_, e⟩ | ⟨_, _, ⟨_, e⟩ | ⟨_, _, _, _, _, e⟩ | ⟨_, _, _, _, _, e⟩⟩
    all_goals simp [e, old v hv awaited]

/-- A round that collects the replies of all who await one leaves none who does. -/
theorem collected_calm {s : WindowStack} {ids : List WindowId}
    (noted : ∀ w ∈ s.windows, w.pendingFetch? ≠ none → w.id ∈ ids) (d : δ) :
    (s.visit ids collectStep d).1.Calm := by
  have listed (w : Toplevel) (hw : w ∈ s.windows) : w.pendingFetch? = none ∨ w.id ∈ ids := by
    by_cases free : w.pendingFetch? = none
    · exact Or.inl free
    · exact Or.inr (noted w hw free)
  refine visit_all (I := fun _ _ => True) trivial listed ?_
  intro id s d w _ _
  refine ⟨trivial, ?_⟩
  rw [collectStep]
  rcases w.collectDamage_cases d with ⟨free, e⟩ | ⟨_, _, e⟩
  · rw [e]; exact free
  · rw [e]

/-- A round of visits that keep the windows. -/
theorem round_kept {τ : Type} {s : WindowStack} (distinct : s.Distinct)
    {f : Toplevel → τ → Toplevel × τ} (kept : ∀ w t, Kept w (f w t).1) (ids : List WindowId)
    (t : τ) : Becomes Kept s (s.visit ids f t).1 :=
  Becomes.round Kept.refl (fun _ _ _ => Kept.trans) (fun _ _ h => h.id) kept distinct ids t

omit [Renderer σ] in
theorem fetchDamage_refreshed (distinct : c.windows.Distinct) :
    Becomes Refreshed c.windows c.fetchDamage.windows := by
  have keeps (v w : Toplevel) (h : Refreshed v w) : w.id = v.id := h.looks.id
  have chain (u v w : Toplevel) (first : Refreshed u v) (second : Refreshed v w) :=
    first.trans second
  have asked : Becomes Refreshed c.windows
      (c.windows.visit c.windows.ids requestStep ([], c.display)).1 :=
    Becomes.round Refreshed.refl chain keeps requestStep_refreshed distinct _ _
  refine asked.trans chain ?_
  exact Becomes.round Refreshed.refl chain keeps collectStep_refreshed
    (asked.distinct keeps distinct) _ _

omit [DisplayServer δ] in
theorem paint_refreshed (c : Compositor δ σ) : Becomes Refreshed c.windows c.paint.windows :=
  ⟨painted, by simp [paint], fun w _ => painted_refreshed w⟩

theorem performCompositing_refreshed (distinct : c.windows.Distinct) :
    Becomes Refreshed c.windows c.performCompositing.windows := by
  rw [performCompositing]
  split
  · dsimp only
    split
    · exact fetchDamage_refreshed distinct
    · exact (fetchDamage_refreshed distinct).trans (fun _ _ _ first second => first.trans second)
        (paint_refreshed c.fetchDamage)
  · exact Becomes.refl Refreshed.refl c.windows

omit [Renderer σ] in
/-- If no window is damaged, there is nothing to fetch. -/
theorem fetchDamage_of_clean (distinct : c.windows.Distinct)
    (clean : ∀ w ∈ c.windows.windows, w.isDamaged = false) : c.fetchDamage = c := by
  let P : List WindowId → WindowStack → List WindowId × δ → Prop :=
    fun _ s t => s = c.windows ∧ t = ([], c.display)
  have idle : P [] (c.windows.visit c.windows.ids requestStep ([], c.display)).1
      (c.windows.visit c.windows.ids requestStep ([], c.display)).2 := by
    refine visit_induction ⟨rfl, rfl⟩ (fun _ _ _ _ _ h => h) ?_
    rintro id rest s t w found ⟨rfl, still⟩
    have skipped : requestStep w t = (w, t) := by
      rw [requestStep, Toplevel.requestDamage, if_pos (by simp [clean w (mem_of_get? found).1])]
    rw [skipped]
    exact ⟨replace_self distinct found, still⟩
  simp only [fetchDamage, idle.1, idle.2]
  rfl

omit [Renderer σ] in
theorem fetchDamage_evolves (distinct : c.windows.Distinct) :
    c.windows.Evolves c.fetchDamage.windows := by
  have kept := (fetchDamage_refreshed distinct).imp fun _ _ same => same.kept
  refine Evolves.of_becomes distinct kept ?_
  intro calm
  exact collected_calm (requests_noted calm c.windows.ids c.display) _

omit [DisplayServer δ] in
theorem paint_evolves (distinct : c.windows.Distinct) : c.windows.Evolves c.paint.windows := by
  refine Evolves.of_becomes distinct (c.paint_refreshed.imp fun _ _ same => same.kept) ?_
  intro calm w hw
  obtain ⟨v, hv, rfl⟩ : ∃ v ∈ c.windows.windows, painted v = w := by simpa [paint] using hw
  rw [painted]
  split <;> exact calm v hv

theorem performCompositing_evolves (distinct : c.windows.Distinct) :
    c.windows.Evolves c.performCompositing.windows := by
  have fetched := fetchDamage_evolves distinct
  rw [performCompositing]
  split
  · dsimp only
    split
    · exact fetched
    · exact fetched.trans distinct (paint_evolves fetched.distinct)
  · exact Evolves.refl distinct

theorem switchWindows_evolves (distinct : c.windows.Distinct) :
    c.windows.Evolves c.switchWindows.2.windows := by
  refine Evolves.visit distinct _ ?_ ?_
  · intro w hw listed v p kept
    obtain ⟨u, candidate, same⟩ := List.mem_map.mp listed
    obtain ⟨hu, real⟩ := List.mem_filter.mp candidate
    have huw : u = w := eq_of_id_eq distinct hu hw same
    subst huw
    refine bypassStep_kept _ _ ?_ p
    rw [kept.isPlaceholder]
    simpa using real
  · intro w p none
    rw [bypassStep]
    rcases p.bypass.update_cases w _ c.timers.now p.display p.renderer with
      ⟨_, h⟩ | ⟨_, _, h⟩ | ⟨_, _, _, h⟩ | ⟨_, _, _, h⟩
    · rw [h]; exact none
    · rw [h]; exact none
    · rw [h]; exact none
    · have same := Toplevel.addDamageFull_same { w with unredirected := false }
      rw [h]
      exact same.awaited.trans none

theorem bypassPass_evolves (distinct : c.windows.Distinct) :
    c.windows.Evolves c.bypassPass.windows := by
  have switched := switchWindows_evolves distinct
  rw [bypassPass_eq]
  split
  · split
    · simpa using switched
    · exact switched
  · exact Evolves.refl distinct

theorem acquire_evolves (distinct : c.windows.Distinct) :
    c.windows.Evolves c.acquire.2.windows := by
  obtain ⟨d, r, scene, selection, s, shape, _, kept | dropped, _⟩ := c.acquire_shape
  · rw [shape, kept]
    exact Evolves.refl distinct
  · rw [shape, dropped]
    exact Evolves.discardPlaceholders distinct

theorem trackStep_calm (w : Toplevel) (t : δ × σ) (free : w.pendingFetch? = none) :
    (trackStep w t).1.pendingFetch? = none :=
  trackStep_induction (P := fun u _ _ => u.pendingFetch? = none) w t free (fun _ _ _ => free)
    fun _ _ _ _ => free

theorem untrackStep_calm (w : Toplevel) (t : δ × σ) (free : w.pendingFetch? = none) :
    (untrackStep w t).1.pendingFetch? = none :=
  untrackStep_induction (P := fun u _ _ => u.pendingFetch? = none) w t (fun _ => free)
    fun _ _ _ => rfl

theorem enable_evolves (distinct : c.windows.Distinct) :
    c.windows.Evolves (c.enable id).windows := by
  have tracked (ids : List WindowId) (t : δ × σ) :=
    Evolves.of_becomes distinct (round_kept distinct trackStep_kept ids t)
  simp only [enable, id_eq, emit_frame, checkBypass_frame, visitWindows, addRepaintFull_frame,
    scheduleRepaint_frame]
  apply tracked _ _
  intro calm
  exact (Evolves.visit distinct _ (fun _ _ _ v t h => trackStep_kept v t) trackStep_calm).calm calm

theorem activate_evolves (distinct : c.windows.Distinct) :
    c.windows.Evolves (c.activate id).windows := by
  rcases c.activate_cases id with ⟨fault, h⟩ | ⟨frame, h⟩
  · rw [h]
    exact Evolves.refl distinct
  · have enabled := enable_evolves (c := { c with frame := frame }) distinct
    rw [h]
    exact enabled.trans distinct (performCompositing_evolves enabled.distinct)

theorem setup_evolves (distinct : c.windows.Distinct) :
    c.windows.Evolves c.setup.windows := by
  have acquired := acquire_evolves (c := { c with phase := .starting }) distinct
  rcases c.setup_cases with ⟨_, h⟩ | ⟨_, h⟩ | ⟨_, h⟩ | ⟨_, _, _, h⟩
  · rw [h]
    exact Evolves.refl distinct
  · rw [h]
    exact Evolves.refl distinct
  · rw [h]
    simpa using acquired
  · rw [h]
    exact acquired.trans distinct (activate_evolves acquired.distinct)

theorem finish_evolves (distinct : c.windows.Distinct) :
    c.windows.Evolves c.finish.windows := by
  rw [finish, finishBy]
  split
  · simp only [releaseSelection_frame, emit_frame, visitWindows, id_eq]
    have let_go (t : δ × σ) : c.windows.Evolves (c.windows.visit c.windows.ids untrackStep t).1 :=
      Evolves.visit distinct t (fun _ _ _ v t _ => untrackStep_kept v t) untrackStep_calm
    exact (let_go _).trans distinct (Evolves.discardPlaceholders (let_go _).distinct)
  · exact Evolves.refl distinct

omit [DisplayServer δ] in
theorem discardPlaceholder_evolves (id : WindowId) (distinct : c.windows.Distinct) :
    c.windows.Evolves (c.discardPlaceholder id).2.windows := by
  rcases c.discardPlaceholder_cases id with h | ⟨w, r, found, placeholder, _, h⟩
  · rw [h]
    exact Evolves.refl distinct
  · rw [h, (addRepaint_frame _ _).2.2.2.1]
    apply Evolves.filter distinct
    intro v hv gone
    have same : v.id = id := by simpa using gone
    exact eq_of_get? distinct found hv same ▸ placeholder

/-- A window that was looked up changes in place. -/
theorem replace_evolves {s : WindowStack} (distinct : s.Distinct) {id : WindowId}
    {w u : Toplevel} (found : s.get? id = some w) (kept : Kept w u)
    (awaited : u.pendingFetch? = w.pendingFetch?) : s.Evolves (s.modify id fun _ => u) := by
  refine Evolves.modify distinct id ?_ ?_
  · intro v hv same
    exact eq_of_get? distinct found hv same ▸ kept
  · intro v hv same free
    rw [awaited, ← eq_of_get? distinct found hv same, free]

omit [DisplayServer δ] in
theorem setGeometry_evolves (id : WindowId) (geometry : Rect) (distinct : c.windows.Distinct) :
    c.windows.Evolves (c.setGeometry id geometry).windows := by
  rcases c.setGeometry_cases id geometry with h | ⟨old, w, r, found, same, _, h⟩
  · rw [h]
    exact Evolves.refl distinct
  · rw [h, (checkBypass_frame _ _).2.2.2.1, (addRepaint_frame _ _).2.2.2.1]
    exact replace_evolves distinct found same.kept same.awaited

theorem damaged_evolves (id : WindowId) (distinct : c.windows.Distinct) :
    c.windows.Evolves (c.handleDisplayEvent (.damaged id)).windows := by
  rcases c.damaged_cases id with ⟨_, h⟩ | ⟨w, found, _, h⟩
  · rw [h]
    exact Evolves.refl distinct
  · rw [h, (scheduleRepaint_frame _).2.2.2.1]
    exact replace_evolves distinct found (Kept.of_eq rfl rfl rfl) rfl

/-- No step but the coming and going of a window and news of a client's state does more to the
windows than to let them evolve. -/
theorem evolves_preserved {s : WindowStack} (distinct : s.Distinct) :
    Preserved fun c : Compositor δ σ => s.Evolves c.windows where
  still := fun h same _ => same.windows ▸ h
  frame := fun h same => by
    rw [← same.windows] at h
    exact h.trans distinct (performCompositing_evolves h.distinct)
  addRepaint := fun g h => by simpa using h
  addRepaintFull := fun h => by simpa using h
  sweepSupport := fun busy h => h
  bypassPass := fun h => h.trans distinct (bypassPass_evolves h.distinct)
  setup := fun h => h.trans distinct (setup_evolves h.distinct)
  finish := fun h => h.trans distinct (finish_evolves h.distinct)
  discardPlaceholder := fun id h => h.trans distinct (discardPlaceholder_evolves id h.distinct)
  setGeometry := fun id geometry h =>
    h.trans distinct (setGeometry_evolves id geometry h.distinct)
  restack := fun order h => by
    simpa using h.trans distinct (Evolves.restack h.distinct order)
  reshape := fun id _ same _ h =>
    h.trans distinct (Evolves.modify h.distinct id (fun w _ _ => (same w).1.kept)
      fun w _ _ free => (same w).1.awaited.trans free)
  retouch := fun id _ same _ h => by
    simpa using h.trans distinct (Evolves.modify h.distinct id (fun w _ _ => (same w).kept)
      fun w _ _ free => (same w).awaited.trans free)
  damaged := fun id h => h.trans distinct (damaged_evolves id h.distinct)
  dispatch := fun {c} h => by
    have start : s.Evolves ({ c with display := (DisplayServer.takeEvents c.display).2 } :
      Compositor δ σ).windows := h
    refine dispatch_induction (Q := fun _ c => s.Evolves c.windows) start ?_
    intro e rest c h
    cases e with
    | damaged id => exact h.trans distinct (damaged_evolves id h.distinct)
    | selectionCleared =>
      rcases c.selectionCleared_cases with e | e
      · rw [e]; exact h
      · have finished := finish_evolves (c := { c with selection? := none }) h.distinct
        rw [e]; exact h.trans distinct finished
  setOverlayVisible := fun {c} visible h => by
    rcases c.setOverlayVisible_cases visible with ⟨_, e⟩ | ⟨_, _, e⟩ | ⟨_, _, e⟩
    · rw [e]; exact h
    · rw [e]; simpa using h
    · rw [e]; exact h

end Compositor

end Compositing
