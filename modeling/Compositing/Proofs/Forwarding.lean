import Compositing.Proofs.Audit
import Compositing.Proofs.Clock
import Compositing.Proofs.Hereditary
import Compositing.Proofs.Watching

/-!
# Opacities that are forwarded

While compositing goes on, the renderer sees to the opacities of the windows. When it stops, the
server is told the opacity of every translucent client, which stays translucent that way. An opaque
client is passed over. So what the server holds for an id is what was last forwarded for it, by
whatever stop that was: nothing is taken back when a client turns opaque or goes. Right after a
stop the server is right about all clients exactly if nothing was ever forwarded before for one
that is opaque.
-/

namespace Compositing

/-! Notes on opacities, of which the last one counts. -/

def latest? (notes : List (WindowId × Opacity)) (id : WindowId) : Option Opacity :=
  notes.reverse.lookup id

@[simp] theorem latest?_nil (id : WindowId) : latest? [] id = none := rfl

theorem latest?_append (before after : List (WindowId × Opacity)) (id : WindowId) :
    latest? (before ++ after) id = (latest? after id).or (latest? before id) := by
  simp [latest?, List.lookup_append]

theorem latest?_eq_none_iff {notes : List (WindowId × Opacity)} {id : WindowId} :
    latest? notes id = none ↔ ∀ o, (id, o) ∉ notes := by
  rw [latest?, List.lookup_eq_none_iff]
  constructor
  · intro other o noted
    simpa using other (id, o) (List.mem_reverse.mpr noted)
  · rintro none ⟨i, o⟩ noted
    have noted := List.mem_reverse.mp noted
    by_contra same
    obtain rfl : id = i := by simpa using same
    exact none o noted

theorem mem_of_latest? {notes : List (WindowId × Opacity)} {id : WindowId} {o : Opacity}
    (h : latest? notes id = some o) : (id, o) ∈ notes := by
  obtain ⟨before, after, split, _⟩ := List.lookup_eq_some_iff.mp h
  rw [← List.mem_reverse, split]
  simp

theorem latest?_of_mem {notes : List (WindowId × Opacity)} (once : (notes.map (·.1)).Nodup)
    {id : WindowId} {o : Opacity} (noted : (id, o) ∈ notes) : latest? notes id = some o := by
  cases h : latest? notes id with
  | none => exact (latest?_eq_none_iff.mp h o noted).elim
  | some o' =>
    have same := List.inj_on_of_nodup_map once (mem_of_latest? h) noted rfl
    rw [(Prod.mk.inj same).2]

namespace HeadlessDisplay

theorem lasting_opacities : DisplayServer.Lasting fun d : HeadlessDisplay => d.opacities :=
  lasting.map (·.2.2.2)

theorem steady_opacities : DisplayServer.Steady fun d : HeadlessDisplay => d.opacities :=
  steady.map (·.2.2)

theorem unswitched_opacities : DisplayServer.Unswitched fun d : HeadlessDisplay => d.opacities :=
  unswitched.map (·.2.2)

theorem lookup_filter_ne {w id : WindowId} (other : id ≠ w) (l : List (WindowId × Opacity)) :
    (l.filter (·.1 != w)).lookup id = l.lookup id := by
  induction l with
  | nil => rfl
  | cons e rest ih =>
    obtain ⟨i, o⟩ := e
    by_cases here : i = w
    · have passed : (id == w) = false := by simpa using other
      simp [here, List.lookup_cons, passed, ih]
    · simp [here, List.lookup_cons, ih]

theorem opacityOf?_setOpacity (d : HeadlessDisplay) (w id : WindowId) (o : Opacity) :
    (DisplayServer.setOpacity w o d).opacityOf? id =
      if id = w then some o else d.opacityOf? id := by
  dsimp only [DisplayServer.setOpacity, setOpacity, opacityOf?]
  rw [List.lookup_append]
  split
  · rename_i here
    have gone : (d.opacities.filter (·.1 != w)).lookup id = none := by
      rw [List.lookup_eq_none_iff]
      intro e kept
      have other : e.1 ≠ w := by simpa using (List.mem_filter.mp kept).2
      simpa [here] using Ne.symm other
    rw [gone]
    simp [here]
  · rename_i other
    rw [lookup_filter_ne other]
    have passed : (id == w) = false := by simpa using other
    simp [List.lookup_cons, passed]

end HeadlessDisplay

/-- No change that others make writes an opacity. -/
theorem DisplayChange.apply_opacities (change : DisplayChange) (d : HeadlessDisplay) :
    (change.apply d).opacities = d.opacities := by
  cases change with
  | reportDamage w rects =>
    dsimp only [apply, HeadlessDisplay.reportDamage]
    split <;> rfl
  | stealSelection =>
    dsimp only [apply, HeadlessDisplay.stealSelection]
    split <;> rfl
  | setRootProperty a =>
    dsimp only [apply, HeadlessDisplay.setRootProperty]
    split <;> rfl
  | refuseSelection refuses => rfl
  | setRefreshRate rate? => rfl

namespace Toplevel

theorem Looks.isClient {w w' : Toplevel} (looks : Looks w w') : w'.isClient = w.isClient := by
  simp [Toplevel.isClient, clientState?, looks.kind]

theorem isPlaceholder_of_isClient {w : Toplevel} (client : w.isClient = true) :
    w.isPlaceholder = false := by
  cases kind : w.kind <;> simp_all [Toplevel.isClient, clientState?, isPlaceholder]

end Toplevel

namespace WindowStack

open Toplevel (Looks)

def clients (s : WindowStack) : List (WindowId × Opacity) :=
  (s.windows.filter (·.isClient)).map fun w => (w.id, w.opacity)

def translucent (s : WindowStack) : List (WindowId × Opacity) :=
  s.clients.filter fun e => decide (e.2 < 1)

variable {s s' : WindowStack}

theorem mem_clients {id : WindowId} {o : Opacity} :
    (id, o) ∈ s.clients ↔ ∃ w ∈ s.windows, w.isClient = true ∧ w.id = id ∧ w.opacity = o := by
  simp [clients, and_assoc]

theorem mem_translucent {e : WindowId × Opacity} :
    e ∈ s.translucent ↔ e ∈ s.clients ∧ e.2 < 1 := by
  simp [translucent]

theorem Distinct.clients (distinct : s.Distinct) : (s.clients.map (·.1)).Nodup := by
  have kept : ((s.windows.filter (·.isClient)).map (·.id)).Nodup := distinct.filter _
  simpa [WindowStack.clients, Function.comp_def] using kept

/-- A translucent client is told of once, and an opaque one not at all. -/
theorem latest?_translucent (distinct : s.Distinct) {id : WindowId} {o : Opacity}
    (client : (id, o) ∈ s.clients) :
    latest? s.translucent id = if o < 1 then some o else none := by
  split
  · rename_i through
    have once : (s.translucent.map (·.1)).Nodup :=
      distinct.clients.sublist (List.filter_sublist.map _)
    exact latest?_of_mem once (mem_translucent.mpr ⟨client, through⟩)
  · rename_i full
    refine latest?_eq_none_iff.mpr fun o' told => ?_
    obtain ⟨client', through⟩ := mem_translucent.mp told
    have same := List.inj_on_of_nodup_map distinct.clients client' client rfl
    exact full ((Prod.mk.inj same).2 ▸ through)

theorem clients_of_becomes (looks : Becomes Looks s s') : s'.clients = s.clients := by
  obtain ⟨g, shape, same⟩ := looks
  have among : s.windows.filter ((·.isClient) ∘ g) = s.windows.filter (·.isClient) :=
    List.filter_congr fun w hw => (same w hw).isClient
  rw [clients, shape, List.filter_map, List.map_map, among]
  refine List.map_congr_left fun w hw => ?_
  have here := (List.mem_filter.mp hw).1
  exact Prod.ext (same w here).id (same w here).opacity

theorem clients_discardPlaceholders (s : WindowStack) :
    s.discardPlaceholders.clients = s.clients := by
  rw [clients, discardPlaceholders, List.filter_filter]
  congr 1
  refine List.filter_congr fun w _ => ?_
  cases client : w.isClient with
  | false => rfl
  | true => simp [Toplevel.isPlaceholder_of_isClient client]

end WindowStack

namespace Compositor

open WindowStack
open Toplevel (Looks)

variable {ω σ : Type}

theorem translucent_cons (w : Toplevel) (ws : List Toplevel) :
    translucent ⟨w :: ws⟩ = translucent ⟨[w]⟩ ++ translucent ⟨ws⟩ := by
  rw [translucent, translucent, translucent, ← List.filter_append]
  congr 1
  rw [clients, clients, clients, ← List.map_append, ← List.filter_append]
  rfl

theorem opacityOf?_forwardOpacity (d : HeadlessDisplay) (w : Toplevel) (id : WindowId) :
    (forwardOpacity d w).opacityOf? id = (latest? (translucent ⟨[w]⟩) id).or (d.opacityOf? id) := by
  rw [forwardOpacity]
  cases client : w.isClient with
  | false => simp [translucent, clients, client]
  | true =>
    by_cases through : w.opacity < 1
    · rw [if_pos (by simpa using through), HeadlessDisplay.opacityOf?_setOpacity]
      by_cases here : id = w.id
      · simp [translucent, clients, client, through, here, latest?]
      · have passed : (id == w.id) = false := by simpa using here
        simp [translucent, clients, client, through, here, latest?, List.lookup_cons, passed]
    · simp [translucent, clients, client, through]

/-- What stopping tells the server: for a translucent client its opacity, and nothing else. -/
theorem opacityOf?_forwarded (ws : List Toplevel) (d : HeadlessDisplay) (id : WindowId) :
    (ws.foldl forwardOpacity d).opacityOf? id =
      (latest? (translucent ⟨ws⟩) id).or (d.opacityOf? id) := by
  induction ws generalizing d with
  | nil => rfl
  | cons w rest ih =>
    rw [List.foldl_cons, ih, opacityOf?_forwardOpacity, translucent_cons w rest, latest?_append,
      Option.or_assoc]

/-! Whether compositing stops on the way, and what the server holds then. -/

variable [Renderer σ] {c c' c'' : Compositor HeadlessDisplay σ}

/-- Compositing goes on or stays off, and no opacity is forwarded. -/
structure Still (c c' : Compositor HeadlessDisplay σ) : Prop where
  told : toggles c'.events = toggles c.events
  opacities : c'.display.opacities = c.display.opacities

/-- Compositing starts and stops, and the clients stay as they are. If it stops, the opacities of
the translucent ones are forwarded. -/
structure Toggling (c c' : Compositor HeadlessDisplay σ) : Prop where
  distinct : c'.windows.Distinct
  clients : c'.windows.clients = c.windows.clients
  told : ∃ more, toggles c'.events = toggles c.events ++ more ∧
    ∀ id, c'.display.opacityOf? id =
      (latest? (if more.contains false then c.windows.translucent else []) id).or
        (c.display.opacityOf? id)

omit [Renderer σ] in
theorem Still.trans (first : Still c c') (second : Still c' c'') : Still c c'' :=
  ⟨second.told.trans first.told, second.opacities.trans first.opacities⟩

theorem Aside.still (aside : Aside c c') : Still c c' :=
  ⟨aside.told, aside.served HeadlessDisplay.lasting_opacities⟩

omit [Renderer σ] in
theorem Still.toggling (still : Still c c') (distinct : c'.windows.Distinct)
    (clients : c'.windows.clients = c.windows.clients) : Toggling c c' := by
  refine ⟨distinct, clients, [], by simp [still.told], fun id => ?_⟩
  rw [HeadlessDisplay.opacityOf?, still.opacities]
  rfl

omit [Renderer σ] in
theorem Toggling.refl (distinct : c.windows.Distinct) : Toggling c c :=
  Still.toggling ⟨rfl, rfl⟩ distinct rfl

omit [Renderer σ] in
theorem Toggling.trans (first : Toggling c c') (second : Toggling c' c'') : Toggling c c'' := by
  obtain ⟨more, told, held⟩ := first.told
  obtain ⟨more', told', held'⟩ := second.told
  have same : c'.windows.translucent = c.windows.translucent := by
    rw [translucent, first.clients, translucent]
  refine ⟨second.distinct, second.clients.trans first.clients, more ++ more', ?_, fun id => ?_⟩
  · rw [told', told, List.append_assoc]
  · -- the clients are the same at both stops, so the later one writes nothing new
    rw [held', held, same]
    cases before : more.contains false <;> cases after : more'.contains false <;>
      simp_all [← Option.or_assoc]

/-! Starting and stopping. -/

omit [Renderer σ] in
theorem round_looks {τ : Type} {s : WindowStack} (distinct : s.Distinct)
    {f : Toplevel → τ → Toplevel × τ} (looks : ∀ w t, Looks w (f w t).1) (ids : List WindowId)
    (t : τ) : Becomes Looks s (s.visit ids f t).1 :=
  Becomes.round Looks.refl (fun _ _ _ => Looks.trans) (fun _ _ h => h.id) looks distinct ids t

theorem trackStep_looks (w : Toplevel) (t : HeadlessDisplay × σ) : Looks w (trackStep w t).1 :=
  trackStep_induction (P := fun u _ _ => Looks w u) w t (Looks.refl w) (fun _ _ _ => Looks.refl w)
    fun _ _ _ _ => ⟨rfl, rfl, rfl, rfl, rfl, rfl, rfl⟩

theorem untrackStep_looks (w : Toplevel) (t : HeadlessDisplay × σ) : Looks w (untrackStep w t).1 :=
  untrackStep_induction (P := fun u _ _ => Looks w u) w t (fun _ => Looks.refl w)
    fun _ _ _ => ⟨rfl, rfl, rfl, rfl, rfl, rfl, rfl⟩

theorem activate_clients (distinct : c.windows.Distinct) :
    (c.activate id).windows.clients = c.windows.clients := by
  rcases c.activate_cases id with ⟨fault, e⟩ | ⟨frame, e⟩
  · rw [e]
  · have tracked : Becomes Looks c.windows
        (({ c with frame := frame } : Compositor HeadlessDisplay σ).enable id).windows := by
      simp only [enable, id_eq, emit_frame, checkBypass_frame, visitWindows,
        addRepaintFull_frame, scheduleRepaint_frame]
      exact round_looks distinct trackStep_looks _ _
    have painted := performCompositing_refreshed
      (tracked.distinct (fun _ _ same => same.id) distinct)
    rw [e, clients_of_becomes (painted.imp fun _ _ same => same.looks), clients_of_becomes tracked]

theorem activate_told (scene : c.hasScene = true) :
    toggles (c.activate id).events = toggles c.events ∨
      toggles (c.activate id).events = toggles c.events ++ [true] := by
  rcases c.activate_cases id with ⟨fault, e⟩ | ⟨frame, e⟩
  · exact Or.inl (by rw [e])
  · obtain ⟨b, tracked, enabled⟩ :=
      ({ c with frame := frame } : Compositor HeadlessDisplay σ).enable_aside scene
    have asked : toggles (b.checkBypass true).events = toggles c.events :=
      (Aside.checkBypass b true).told.trans tracked.told
    right
    rw [e, enabled, (Aside.performCompositing _).told, emit, toggles_append, asked]
    rfl

theorem setup_toggling (distinct : c.windows.Distinct) : Toggling c c.setup := by
  obtain ⟨d, r, scene, selection, s, shape, _, stack, started⟩ :=
    ({ c with phase := .starting } : Compositor HeadlessDisplay σ).acquire_shape
  have kept : s.clients = c.windows.clients := by
    rcases stack with rfl | rfl
    · rfl
    · exact clients_discardPlaceholders c.windows
  have reached : c.setup.windows.clients = c.windows.clients ∧
      (toggles c.setup.events = toggles c.events ∨
        toggles c.setup.events = toggles c.events ++ [true]) := by
    rcases c.setup_cases with ⟨_, e⟩ | ⟨_, e⟩ | ⟨_, e⟩ | ⟨_, _, acquired, e⟩
    · rw [e]
      exact ⟨rfl, Or.inl rfl⟩
    · rw [e]
      exact ⟨rfl, Or.inl rfl⟩
    · rw [e, shape, releaseSelection_eq]
      exact ⟨kept, Or.inl rfl⟩
    · have distinct' := (acquire_evolves (c := { c with phase := .starting }) distinct).distinct
      rw [e, activate_clients distinct']
      rw [shape] at distinct' ⊢
      exact ⟨kept, activate_told (started acquired)⟩
  have held (id : WindowId) : c.setup.display.opacityOf? id = c.display.opacityOf? id := by
    rw [HeadlessDisplay.opacityOf?, setup_steady HeadlessDisplay.steady_opacities]
    rfl
  obtain ⟨clients, same | on⟩ := reached
  · exact ⟨(setup_evolves distinct).distinct, clients, [], by simp [same], held⟩
  · exact ⟨(setup_evolves distinct).distinct, clients, [true], on, held⟩

theorem finish_toggling (distinct : c.windows.Distinct) : Toggling c c.finish := by
  by_cases scene : c.hasScene = true
  · let stopped : Compositor HeadlessDisplay σ := ({ c with
      phase := .finishing
      renderer := c.windows.windows.foldl closeWindow c.renderer } :
        Compositor HeadlessDisplay σ).visitWindows untrackStep c.windows.ids
    have untouched : stopped.display.opacities = c.display.opacities :=
      visit_view (fun t : HeadlessDisplay × σ => t.1.opacities)
        (untrackStep_lasting HeadlessDisplay.lasting_opacities) c.windows.ids c.windows _
    have same : stopped.windows.clients = c.windows.clients :=
      clients_of_becomes (round_looks distinct untrackStep_looks c.windows.ids _)
    have windows : c.finish.windows = stopped.windows.discardPlaceholders := by
      rw [finish, finishBy, if_pos scene]
      simp [stopped]
    have opacities : c.finish.display.opacities =
        (stopped.windows.windows.foldl forwardOpacity
          (DisplayServer.unredirectSubwindows stopped.display)).opacities := by
      rw [finish, finishBy, if_pos scene, releaseSelection_eq]
      generalize (emit _ _).selection? = selection
      cases selection with
      | none => rfl
      | some name => exact HeadlessDisplay.steady_opacities.releaseSelection name _
    refine ⟨(finish_evolves distinct).distinct, ?_, [false], ?_, fun id => ?_⟩
    · rw [windows, clients_discardPlaceholders, same]
    · rw [finish, finishBy, if_pos scene, releaseSelection_eq]
      exact toggles_append _ _
    · have before : (DisplayServer.unredirectSubwindows stopped.display).opacityOf? id =
          c.display.opacityOf? id := congrArg (List.lookup id) untouched
      rw [HeadlessDisplay.opacityOf?, opacities, ← HeadlessDisplay.opacityOf?,
        opacityOf?_forwarded, before, translucent, same]
      rfl
  · rw [c.finish_of_off (by simpa using scene)]
    exact Toggling.refl distinct

/-! The steps. -/

theorem Shift.toggling (shift : Shift c c') (distinct : c.windows.Distinct) : Toggling c c' := by
  cases shift with
  | start s o b _ _ => exact { setup_toggling (c := c.retune s o b) distinct with }
  | stop s o b _ => exact { finish_toggling (c := c.retune s o b) distinct with }
  | free reason _ => exact Still.toggling ⟨rfl, rfl⟩ distinct rfl

theorem Shifts.toggling (shifts : Shifts c c') (distinct : c.windows.Distinct) : Toggling c c' :=
  shifts.preserve (P := Toggling c) (fun shift h => h.trans (shift.toggling h.distinct))
    (Toggling.refl distinct)

/-- What follows on starts and stops and leaves the windows alone. -/
theorem Toggling.aside (h : Toggling c c') (aside : Aside c' c'')
    (windows : c''.windows = c'.windows) : Toggling c c'' :=
  h.trans (aside.still.toggling (windows ▸ h.distinct) (by rw [windows]))

theorem Toggling.noticed {b : Compositor HeadlessDisplay σ} (h : Toggling c b)
    (noticed : c' = b ∨ ∃ message, c' = b.emit (.suspendedNotice message)) : Toggling c c' := by
  rcases noticed with rfl | ⟨message, rfl⟩
  · exact h
  · exact h.aside (Aside.notice _ _) rfl

theorem restart_toggling (distinct : c.windows.Distinct) : Toggling c c.restart := by
  rw [restart]
  split
  · have stopped : Toggling c { c.finish with phase := .starting } :=
      { finish_toggling distinct with }
    exact stopped.aside (Aside.defer _ _) rfl
  · exact Toggling.refl distinct

theorem shutdown_toggling (distinct : c.windows.Distinct) : Toggling c c.shutdown := by
  have swept : Aside c.finish c.shutdown :=
    (Aside.stop (by simp) (by simp)).trans (Aside.sweepSupport _ false)
  exact (finish_toggling distinct).aside swept rfl

theorem reconfigure_toggling (o : CompositingOptions) (distinct : c.windows.Distinct) :
    Toggling c (c.reconfigure o) := by
  have started (b : BypassState) : Toggling c ({ c with options := o, bypass := b } :
      Compositor HeadlessDisplay σ).setup.addRepaintFull :=
    Toggling.aside
      { setup_toggling (c := { c with options := o, bypass := b }) distinct with }
      (Aside.addRepaintFull _) (by simp)
  rw [reconfigure]
  dsimp only
  split
  · split
    · exact (started _).aside (Aside.checkBypass _ true) (by simp)
    · exact started _
  · exact { finish_toggling (c := { c with options := o, bypass := _ }) distinct with }

theorem damaged_toggling (id : WindowId) (distinct : c.windows.Distinct) :
    Toggling c (c.handleDisplayEvent (.damaged id)) := by
  have kept : (c.handleDisplayEvent (.damaged id)).windows.clients = c.windows.clients := by
    rcases c.damaged_cases id with ⟨_, e⟩ | ⟨w, found, _, e⟩
    · rw [e]
    · have marked : Becomes Looks c.windows (c.windows.modify id fun _ => w.marked) := by
        refine Becomes.modify Looks.refl _ id fun v hv here => ?_
        rw [eq_of_get? distinct found hv here]
        exact ⟨rfl, rfl, rfl, rfl, rfl, rfl, rfl⟩
      rw [e, (scheduleRepaint_frame _).2.2.2.1]
      exact clients_of_becomes marked
  exact (Aside.damaged c id).still.toggling (damaged_evolves id distinct).distinct kept

theorem handleDisplayEvent_toggling (e : DisplayEvent) (distinct : c.windows.Distinct) :
    Toggling c (c.handleDisplayEvent e) := by
  cases e with
  | damaged id => exact damaged_toggling id distinct
  | selectionCleared =>
    rcases c.selectionCleared_cases with e | e
    · rw [e]
      exact Toggling.refl distinct
    · rw [e]
      exact { finish_toggling (c := { c with selection? := none }) distinct with }

theorem dispatch_toggling (distinct : c.windows.Distinct) :
    Toggling c c.dispatchDisplayEvents.2 := by
  refine dispatch_induction (Q := fun _ c' => Toggling c c')
    (Still.toggling ⟨rfl, rfl⟩ distinct rfl) fun e _ c' h => ?_
  exact h.trans (handleDisplayEvent_toggling e h.distinct)

theorem handleTimer_toggling (id : TimerId) (distinct : c.windows.Distinct) :
    Still c (c.handleTimer id) ∨ Toggling c (c.handleTimer id) := by
  cases id with
  | repaint => exact Or.inl (Aside.performCompositing c).still
  | bypassCheck =>
    exact Or.inl ⟨(Quiet.bypassPass c).told,
      bypassPass_unswitched HeadlessDisplay.unswitched_opacities c⟩
  | bypassRetry => exact Or.inl (Aside.checkBypass c false).still
  | supportSweep => exact Or.inl (Aside.sweepSupport c c.isBusy).still
  | restart => exact Or.inr (restart_toggling distinct)
  | deferred => exact Or.inr { (runDeferred_shifts c).toggling distinct with }

/-- A step leaves the server with the opacities that it has, or compositing starts and stops in
it while the clients stay as they are. -/
theorem step_toggling {W : World ω HeadlessDisplay σ}
    (alone : ∀ o d, (W.display o d).opacities = d.opacities) {k : Step ω} (kept : k ≠ .takeEvents)
    (distinct : c.windows.Distinct) : Still c (c.step W k) ∨ Toggling c (c.step W k) := by
  by_cases aside : k.IsAside
  · exact Or.inl (step_aside W c aside).still
  · cases k with
    | takeEvents => exact (kept rfl).elim
    | outside o => exact Or.inl ⟨rfl, alone o c.display⟩
    | setup => exact Or.inr (setup_toggling distinct)
    | finish => exact Or.inr (finish_toggling distinct)
    | suspend reason => exact Or.inr ((suspend_shifts c reason).toggling distinct)
    | resume reason => exact Or.inr ((resume_shifts c reason).toggling distinct)
    | toggle => exact Or.inr ((toggle_shifts c).toggling distinct)
    | toggleRemote =>
      obtain ⟨b, shifts, noticed⟩ := toggleRemote_shifts c
      exact Or.inr ((shifts.toggling distinct).noticed noticed)
    | setCompositing active => exact Or.inr ((setCompositing_shifts c active).toggling distinct)
    | reconfigure o => exact Or.inr (reconfigure_toggling o distinct)
    | startOver o => exact Or.inr ((startOver_shifts c o).toggling distinct)
    | restart => exact Or.inr (restart_toggling distinct)
    | shutdown => exact Or.inr (shutdown_toggling distinct)
    | addWindow w =>
      left
      have entered : Still c (c.entered w) :=
        ⟨rfl, entering_lasting c HeadlessDisplay.lasting_opacities w⟩
      have asked := entered.trans
        ((Aside.checkBypass (c.entered w) true).trans (Aside.scheduleRepaint _)).still
      rcases c.addWindow_cases w with ⟨_, e⟩ | ⟨_, e⟩
      · rw [step, e]
        exact ⟨rfl, rfl⟩
      · rw [step, e]
        split
        · exact asked.trans (Aside.blockFor _ _).still
        · exact asked
    | removeWindow id keepPlaceholder =>
      left
      rcases c.removeWindow_cases id keepPlaceholder with ⟨_, e⟩ | ⟨w, _, _, e⟩
      · rw [step, e]
        exact ⟨rfl, rfl⟩
      · have left : Still c (c.left w keepPlaceholder) :=
          ⟨rfl, leaving_lasting c HeadlessDisplay.lasting_opacities w _⟩
        have asked := left.trans
          ((Aside.addRepaint _ (Region.ofRect w.geometry)).trans (Aside.checkBypass _ true)).still
        rw [step, e]
        split
        · exact asked.trans (Aside.unblock _).still
        · exact asked
    | setGeometry id geometry =>
      left
      rcases c.setGeometry_cases id geometry with e | ⟨old, w, r, _, _, _, e⟩
      · rw [step, e]
        exact ⟨rfl, rfl⟩
      · have asked := ((Aside.addRepaint ({ c with
          windows := c.windows.modify id fun _ => w, renderer := r } :
            Compositor HeadlessDisplay σ) (Region.ofRects [old.geometry, geometry])).trans
              (Aside.checkBypass _ true)).still
        rw [step, e]
        exact ⟨asked.told, asked.opacities⟩
    | handleDisplayEvent e => exact Or.inr (handleDisplayEvent_toggling e distinct)
    | dispatchDisplayEvents => exact Or.inr (dispatch_toggling distinct)
    | handleTimer id => exact handleTimer_toggling id distinct
    | fireTimer target =>
      rw [step, fireTimer]
      split
      · exact Or.inl ⟨rfl, rfl⟩
      · rename_i id t _
        rcases handleTimer_toggling (c := { c with timers := t }) id distinct with still | toggling
        · exact Or.inl ⟨still.told, still.opacities⟩
        · exact Or.inr { toggling with }
    | setBypassFullscreen on =>
      left
      rw [step, setBypassFullscreen]
      split
      · exact ⟨rfl, rfl⟩
      · have asked := (Aside.checkBypass ({ c with
          options := { c.options with bypassFullscreen := on }
          bypass := c.bypass.noteOptionChanged } : Compositor HeadlessDisplay σ) true).still
        exact ⟨asked.told, asked.opacities⟩
    | handleRequest r =>
      obtain ⟨b, shifts, noticed⟩ := handleRequest_shifts c r
      exact Or.inr ((shifts.toggling distinct).noticed noticed)
    | _ => exact (aside trivial).elim

/-! What is forwarded in a run. -/

/-- Compositing stops in a step, once or more, and the events tell of it. -/
def stops (W : World ω HeadlessDisplay σ) (c : Compositor HeadlessDisplay σ) (k : Step ω) : Bool :=
  ((toggles (c.step W k).events).drop (toggles c.events).length).contains false

def forwards (W : World ω HeadlessDisplay σ) (c : Compositor HeadlessDisplay σ) (k : Step ω) :
    List (WindowId × Opacity) :=
  if c.stops W k then c.windows.translucent else []

def forwarded (W : World ω HeadlessDisplay σ) (c : Compositor HeadlessDisplay σ)
    (steps : List (Step ω)) : List (WindowId × Opacity) :=
  noted (forwards W) W c steps

/-- The server holds for every client the opacity that it has. What was never written counts as
opaque. -/
def Faithful (c : Compositor HeadlessDisplay σ) : Prop :=
  ∀ w ∈ c.windows.windows, w.isClient = true →
    (c.display.opacityOf? w.id).getD 1 = w.opacity

variable {W : World ω HeadlessDisplay σ}

theorem Still.stops {k : Step ω} (still : Still c (c.step W k)) : c.stops W k = false := by
  simp [Compositor.stops, still.told]

theorem Toggling.opacityOf? {k : Step ω} (h : Toggling c (c.step W k)) (id : WindowId) :
    (c.step W k).display.opacityOf? id =
      (latest? (c.forwards W k) id).or (c.display.opacityOf? id) := by
  obtain ⟨more, told, held⟩ := h.told
  have stops : c.stops W k = more.contains false := by
    rw [Compositor.stops, told, List.drop_left]
  rw [held, forwards, stops]

/-- When a scene is finished, compositing stops. -/
theorem stops_finish (c : Compositor HeadlessDisplay σ) :
    c.stops W .finish = c.hasScene := by
  cases scene : c.hasScene with
  | true =>
    obtain ⟨d, r, s, e, _⟩ := c.finish_scene scene
    simp [stops, step, e, toggles]
  | false => simp [stops, step, c.finish_of_off scene]

/-- A step forwards what it does, and the server keeps the rest. -/
theorem step_opacityOf? (alone : ∀ o d, (W.display o d).opacities = d.opacities)
    (distinct : c.windows.Distinct) (k : Step ω) (id : WindowId) :
    (c.step W k).display.opacityOf? id =
      (latest? (c.forwards W k) id).or (c.display.opacityOf? id) := by
  by_cases taken : k = .takeEvents
  · have silent : c.stops W .takeEvents = false := by simp [stops, step, takeEvents, toggles]
    rw [taken, forwards, silent]
    rfl
  · rcases step_toggling alone taken distinct with still | toggling
    · rw [forwards, still.stops, HeadlessDisplay.opacityOf?, still.opacities]
      rfl
    · exact toggling.opacityOf? id

/-- The server holds what was last forwarded. -/
theorem run_opacityOf? (alone : ∀ o d, (W.display o d).opacities = d.opacities)
    (extensions : List Extension) (layout : Layout) (r : σ) (options : CompositingOptions)
    (steps : List (Step ω)) (id : WindowId) :
    ((Compositor.new (.new extensions layout) r options).run W steps).display.opacityOf? id =
      latest? ((Compositor.new (.new extensions layout) r options).forwarded W steps) id := by
  let P : List (WindowId × Opacity) → Compositor HeadlessDisplay σ → Prop := fun log c =>
    c.windows.Distinct ∧ ∀ id, c.display.opacityOf? id = latest? log id
  have start : P [] (Compositor.new (.new extensions layout) r options) :=
    ⟨List.nodup_nil, fun _ => rfl⟩
  have keeps (log : List (WindowId × Opacity)) (c : Compositor HeadlessDisplay σ) (k : Step ω)
      (_ : True) (h : P log c) : P (log ++ c.forwards W k) (c.step W k) := by
    refine ⟨step_distinct W k h.1, fun id => ?_⟩
    rw [step_opacityOf? alone h.1 k id, latest?_append, h.2]
  exact (run_noted W keeps start fun _ _ => trivial).2 id

/-- Only what is less than opaque is forwarded. -/
theorem lt_of_mem_forwarded {e : WindowId × Opacity} {steps : List (Step ω)}
    (member : e ∈ c.forwarded W steps) : e.2 < 1 := by
  induction steps generalizing c with
  | nil => simp [forwarded, noted] at member
  | cons k rest ih =>
    rcases List.mem_append.mp member with now | later
    · rw [forwards] at now
      split at now
      · exact (mem_translucent.mp now).2
      · simp at now
    · exact ih later

/-- Being at most opaque is kept. -/
theorem hereditary_bounded : Toplevel.Hereditary fun w => w.opacity ≤ 1 where
  same := fun same h => same.bounded h
  tracked := fun _ h => h
  released := fun h => h
  marked := fun _ h => h
  requested := fun _ h => h
  collected := fun _ h => h
  recast := fun _ _ _ h => h

omit [Renderer σ] in
theorem faithful_iff_clients :
    c.Faithful ↔ ∀ id o, (id, o) ∈ c.windows.clients → (c.display.opacityOf? id).getD 1 = o := by
  constructor
  · intro faithful id o client
    obtain ⟨w, hw, isClient, rfl, rfl⟩ := mem_clients.mp client
    exact faithful w hw isClient
  · intro right w hw isClient
    exact right w.id w.opacity (mem_clients.mpr ⟨w, hw, isClient, rfl, rfl⟩)

/-- Right after a stop the server is right about all clients exactly if it held nothing for those
that are opaque. -/
theorem stop_faithful_iff (alone : ∀ o d, (W.display o d).opacities = d.opacities)
    (distinct : c.windows.Distinct) (bounded : c.windows.Each fun w => w.opacity ≤ 1)
    {log : List (WindowId × Opacity)} (through : ∀ e ∈ log, e.2 < 1)
    (held : ∀ id, c.display.opacityOf? id = latest? log id) {k : Step ω}
    (stops : c.stops W k = true) :
    (c.step W k).Faithful ↔ ∀ w ∈ c.windows.windows, w.isClient = true → w.opacity = 1 →
      ∀ o, (w.id, o) ∉ log := by
  have same : (c.step W k).windows.clients = c.windows.clients := by
    have taken : k ≠ .takeEvents := by
      rintro rfl
      simp [Compositor.stops, step, takeEvents, toggles] at stops
    rcases step_toggling alone taken distinct with still | toggling
    · simp [still.stops] at stops
    · exact toggling.clients
  have now {id : WindowId} {o : Opacity} (client : (id, o) ∈ c.windows.clients) :
      (c.step W k).display.opacityOf? id = if o < 1 then some o else latest? log id := by
    rw [step_opacityOf? alone distinct, forwards, if_pos stops, latest?_translucent distinct client,
      held]
    split <;> rfl
  rw [faithful_iff_clients, same]
  constructor
  · intro right w hw isClient full o noted
    have client : (w.id, w.opacity) ∈ c.windows.clients := mem_clients.mpr ⟨w, hw, isClient, rfl, rfl⟩
    have asked := right w.id w.opacity client
    rw [now client, full, if_neg (by decide)] at asked
    cases last : latest? log w.id with
    | none => exact latest?_eq_none_iff.mp last o noted
    | some o' =>
      have less : o' < 1 := through (w.id, o') (mem_of_latest? last)
      rw [last] at asked
      exact absurd asked (Rat.ne_of_lt less)
  · intro new id o client
    rw [now client]
    split
    · rfl
    · rename_i most
      obtain ⟨w, hw, isClient, rfl, rfl⟩ := mem_clients.mp client
      have full : w.opacity = 1 := Rat.le_antisymm (bounded w hw) (Rat.not_lt.mp most)
      rw [latest?_eq_none_iff.mpr (new w hw isClient full), full]
      rfl

/-- What a server in memory holds as the opacity of an id is what was last forwarded for it. A
scene that is finished stops compositing, and right after a stop, by whatever step, the server is
right about all clients if and only if no opacity was ever forwarded before for one that is opaque
by then. Opacities are numbers here: what is no number is neither translucent nor opaque. -/
theorem faithful_iff_never_forwarded {W : World ω HeadlessDisplay σ}
    (alone : ∀ o d, (W.display o d).opacities = d.opacities)
    {start : Compositor HeadlessDisplay σ} {extensions : List Extension} {layout : Layout} {r : σ}
    {options : CompositingOptions} (new : start = Compositor.new (.new extensions layout) r options)
    {steps : List (Step ω)} (bounded : ∀ k ∈ steps, k.Adds fun w => w.opacity ≤ 1) :
    (∀ id, (start.run W steps).display.opacityOf? id = latest? (start.forwarded W steps) id) ∧
      (start.run W steps).stops W .finish = (start.run W steps).hasScene ∧
      ∀ k, (start.run W steps).stops W k = true →
        ((start.run W (steps ++ [k])).Faithful ↔
          ∀ w ∈ (start.run W steps).windows.windows, w.isClient = true → w.opacity = 1 →
            ∀ o, (w.id, o) ∉ start.forwarded W steps) := by
  subst new
  have held := run_opacityOf? alone extensions layout r options steps
  refine ⟨held, stops_finish _, fun k stops => ?_⟩
  rw [run_snoc]
  exact stop_faithful_iff alone (run_distinct W _ r options steps)
    (run_each hereditary_bounded W _ r options bounded) (fun e => lt_of_mem_forwarded) held stops

def atRest : Compositor HeadlessDisplay HeadlessRenderer :=
  Compositor.new (.new Extension.all (.single 1920 1080)) (.new ⟨1⟩ fun _ => 0)
    CompositingOptions.standard

def half : Opacity := ⟨1, 2, by decide, by decide⟩

def veiled : Toplevel :=
  { Toplevel.client ⟨1⟩ (.ofCoords 0 0 100 100) ⟨false, false, false⟩ with opacity := half }

/-- A client that is forwarded fades more and more, beside an opaque one. -/
def fading : List (Step DisplayChange) :=
  [.setup, .addWindow veiled, .addWindow (.client ⟨2⟩ (.ofCoords 0 0 9 9) ⟨false, false, false⟩),
    .finish, .setWindowOpacity ⟨1⟩ 0, .outside .stealSelection, .setup]

/-- The second stop overwrites what the first one forwarded. -/
theorem fading_faithful :
    (atRest.run (DisplayChange.world id fun _ r => r) (fading ++ [.finish])).Faithful := by
  have bounded : ∀ k ∈ fading, k.Adds fun w => w.opacity ≤ 1 := by
    have faded : veiled.opacity ≤ 1 := by decide
    simp [fading, faded, Toplevel.client, Toplevel.new]
  have stops : (atRest.run (DisplayChange.world id fun _ r => r) fading).stops
      (DisplayChange.world id fun _ r => r) .finish = true := by decide +kernel
  refine ((faithful_iff_never_forwarded DisplayChange.apply_opacities
    (show atRest = Compositor.new _ _ _ from rfl) bounded).2.2 .finish stops).mpr ?_
  have once : atRest.forwarded (DisplayChange.world id fun _ r => r) fading = [(⟨1⟩, half)] := by
    decide +kernel
  have second : ∀ w ∈ (atRest.run (DisplayChange.world id fun _ r => r) fading).windows.windows,
      w.opacity = 1 → w.id = ⟨2⟩ := by decide +kernel
  intro w hw _ full o noted
  rw [once, second w hw full] at noted
  simp at noted

def clearing : List (Step DisplayChange) :=
  [.setup, .addWindow veiled, .finish, .setWindowOpacity ⟨1⟩ 1, .setup]

/-- The second stop passes it over, and it stays translucent on the server. -/
theorem clearing_veiled :
    (∀ k ∈ clearing, k.Adds fun w => w.opacity ≤ 1) ∧
      (atRest.run (DisplayChange.world id fun _ r => r) clearing).hasScene = true ∧
      ∃ w ∈ (atRest.run (DisplayChange.world id fun _ r => r)
          (clearing ++ [.finish])).windows.windows,
        w.isClient = true ∧ w.opacity = 1 ∧
          (atRest.run (DisplayChange.world id fun _ r => r)
            (clearing ++ [.finish])).display.opacityOf? w.id = some half := by
  have faded : veiled.opacity ≤ 1 := by decide
  exact ⟨by simp [clearing, faded], rfl, _, List.mem_singleton_self _, rfl, rfl, rfl⟩

end Compositor

end Compositing
