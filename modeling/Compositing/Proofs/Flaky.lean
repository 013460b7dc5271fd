import Compositing.Proofs.Forgetting
import Compositing.Proofs.Serving
import Compositing.Proofs.Tidiness

/-!
# A server of which requests fail

A flaky server is a server in front of which some requests for damage fail, as a schedule says,
without reaching it; all else is passed on. A request that fails takes the mark off its window and
does nothing else. So a frame on a flaky server is a frame on the server behind it once the marks
are taken off whose requests fail, and every other call is the same call on the server behind it.
-/

namespace Compositing

/-- A server in front of which requests for damage fail by their numbers. -/
structure Flaky (δ : Type) where
  server : δ
  fails : Nat → Bool
  /-- How many requests were made. -/
  asked : Nat

namespace Flaky

variable {δ : Type}

def lift (f : δ → δ) (d : Flaky δ) : Flaky δ := { d with server := f d.server }

def answer {α : Type} (f : δ → α × δ) (d : Flaky δ) : α × Flaky δ :=
  ((f d.server).1, { d with server := (f d.server).2 })

def requestDamage [DisplayServer δ] (h : DamageHandle) (d : Flaky δ) :
    Except DisplayError DamageFetch × Flaky δ :=
  if d.fails d.asked then (.error (.unknownDamage h), { d with asked := d.asked + 1 })
  else answer (DisplayServer.requestDamage h) { d with asked := d.asked + 1 }

end Flaky

instance {δ : Type} [DisplayServer δ] : DisplayServer (Flaky δ) where
  hasExtension d := DisplayServer.hasExtension d.server
  screenNumber d := DisplayServer.screenNumber d.server
  layout d := DisplayServer.layout d.server
  refreshRate? d := DisplayServer.refreshRate? d.server
  claimSelection s := Flaky.answer (DisplayServer.claimSelection s)
  releaseSelection s := Flaky.lift (DisplayServer.releaseSelection s)
  redirectSubwindows := Flaky.answer DisplayServer.redirectSubwindows
  unredirectSubwindows := Flaky.lift DisplayServer.unredirectSubwindows
  redirectWindow w := Flaky.lift (DisplayServer.redirectWindow w)
  unredirectWindow w := Flaky.lift (DisplayServer.unredirectWindow w)
  createDamage w := Flaky.answer (DisplayServer.createDamage w)
  destroyDamage h := Flaky.lift (DisplayServer.destroyDamage h)
  requestDamage := Flaky.requestDamage
  damageReply t := Flaky.answer (DisplayServer.damageReply t)
  discardReply t := Flaky.lift (DisplayServer.discardReply t)
  flush := Flaky.lift DisplayServer.flush
  deleteRootProperty a := Flaky.lift (DisplayServer.deleteRootProperty a)
  setOpacity w o := Flaky.lift (DisplayServer.setOpacity w o)
  takeEvents := Flaky.answer DisplayServer.takeEvents

/-- A flaky server whose schedule nobody looks at. -/
def Steady (δ : Type) : Type := Flaky δ

namespace Steady

variable {δ : Type} [DisplayServer δ]

def server (d : Steady δ) : δ := Flaky.server d

instance : DisplayServer (Steady δ) :=
  { (inferInstance : DisplayServer (Flaky δ)) with
    requestDamage := fun h => Flaky.answer (DisplayServer.requestDamage h) }

theorem forgets : DisplayServer.Forgets (Steady.server : Steady δ → δ) := by
  constructor
  all_goals intros; rfl

end Steady

def World.flaky {ω δ σ : Type} (W : World ω δ σ) : World ω (Flaky δ) σ :=
  ⟨fun o => Flaky.lift (W.display o), W.renderer⟩

/-! Which marks are taken off. -/

namespace Toplevel

/-- The window has lost its mark, or nothing has happened to it. -/
def Unmarked (w w' : Toplevel) : Prop := w' = w ∨ w' = { w with isDamaged := false }

theorem Unmarked.keeps {w w' : Toplevel} (h : w.Unmarked w') :
    w'.id = w.id ∧ w'.isPlaceholder = w.isPlaceholder ∧ w'.damage? = w.damage? ∧
      w'.pendingFetch? = w.pendingFetch? := by
  rcases h with rfl | rfl
  · exact ⟨rfl, rfl, rfl, rfl⟩
  · exact ⟨rfl, rfl, rfl, rfl⟩

abbrev AllUnmarked : List Toplevel → List Toplevel → Prop := List.Forall₂ Unmarked

namespace AllUnmarked

variable {windows windows' : List Toplevel}

theorem ids (h : AllUnmarked windows windows') : windows'.map (·.id) = windows.map (·.id) := by
  induction h with
  | nil => rfl
  | cons one _ ih =>
    rw [List.map_cons, List.map_cons, ih, one.keeps.1]

theorem distinct {s s' : WindowStack} (h : AllUnmarked s.windows s'.windows)
    (distinct : s.Distinct) : s'.Distinct := by
  have ids : s'.ids = s.ids := h.ids
  rw [WindowStack.Distinct, ids]
  exact distinct

theorem old (h : AllUnmarked windows windows') {w' : Toplevel} (hw' : w' ∈ windows') :
    ∃ w ∈ windows, Unmarked w w' := by
  induction h with
  | nil => exact (List.not_mem_nil hw').elim
  | cons one _ ih =>
    rcases List.mem_cons.mp hw' with rfl | later
    · exact ⟨_, List.mem_cons_self, one⟩
    · obtain ⟨w, hw, unmarked⟩ := ih later
      exact ⟨w, List.mem_cons_of_mem _ hw, unmarked⟩

theorem stays (h : AllUnmarked windows windows') {w : Toplevel} (hw : w ∈ windows) :
    ∃ w' ∈ windows', Unmarked w w' := by
  induction h with
  | nil => exact (List.not_mem_nil hw).elim
  | cons one _ ih =>
    rcases List.mem_cons.mp hw with rfl | later
    · exact ⟨_, List.mem_cons_self, one⟩
    · obtain ⟨w', hw', unmarked⟩ := ih later
      exact ⟨w', List.mem_cons_of_mem _ hw', unmarked⟩

/-- What is fetched is added to a window whether it has lost its mark or not. -/
theorem folded (h : AllUnmarked windows windows') (regions : List Region) :
    List.zipWith Toplevel.folded windows' regions =
      List.zipWith Toplevel.folded windows regions := by
  induction h generalizing regions with
  | nil => rfl
  | cons one _ ih =>
    cases regions with
    | nil => rfl
    | cons g rest =>
      rw [List.zipWith_cons_cons, List.zipWith_cons_cons, ih rest]
      rcases one with rfl | rfl
      · rfl
      · rfl

end AllUnmarked

end Toplevel

/-- The windows once the marks are taken off whose requests fail, where the next request has the
given number. -/
def muted (fails : Nat → Bool) : Nat → List Toplevel → List Toplevel
  | _, [] => []
  | n, w :: rest =>
    match w.dirty? with
    | none => w :: muted fails n rest
    | some _ => (if fails n then { w with isDamaged := false } else w) :: muted fails (n + 1) rest

def denied (fails : Nat → Bool) : Nat → List Toplevel → List DamageHandle
  | _, [] => []
  | n, w :: rest =>
    match w.dirty? with
    | none => denied fails n rest
    | some handle =>
      if fails n then handle :: denied fails (n + 1) rest else denied fails (n + 1) rest

def Toplevel.mutedBy (handles : List DamageHandle) (w : Toplevel) : Toplevel :=
  if w.dirty?.any (handles.contains ·) then { w with isDamaged := false } else w

namespace Toplevel

variable {handles : List DamageHandle} {w : Toplevel}

/-- What a window is asked for is what it was asked for before, unless that is listed. -/
theorem dirty?_mutedBy {handle : DamageHandle} :
    (w.mutedBy handles).dirty? = some handle ↔ w.dirty? = some handle ∧ handle ∉ handles := by
  cases asked : w.dirty? with
  | none => simp [mutedBy, asked]
  | some own =>
    by_cases listed : own ∈ handles
    · have off : w.mutedBy handles = { w with isDamaged := false } := by
        simp [mutedBy, asked, listed]
      have unasked : (w.mutedBy handles).dirty? = none := by
        rw [off]
        rfl
      rw [unasked]
      refine ⟨by simp, ?_⟩
      rintro ⟨⟨⟩, free⟩
      exact (free listed).elim
    · have same : w.mutedBy handles = w := by simp [mutedBy, asked, listed]
      rw [same, asked]
      refine ⟨fun own => ⟨own, ?_⟩, And.left⟩
      rintro listed'
      exact listed (Option.some.inj own ▸ listed')

theorem folded_mutedBy (g : Region) : (w.mutedBy handles).folded g = w.folded g := by
  rw [mutedBy]
  split
  · rfl
  · rfl

end Toplevel

theorem denied_subset (fails : Nat → Bool) (n : Nat) (windows : List Toplevel) :
    denied fails n windows ⊆ windows.filterMap (·.dirty?) := by
  induction windows generalizing n with
  | nil => exact List.Subset.refl _
  | cons w rest ih =>
    rw [denied]
    cases due : w.dirty? with
    | none =>
      rw [List.filterMap_cons_none due]
      exact ih n
    | some handle =>
      rw [List.filterMap_cons_some due]
      dsimp only
      split
      · exact List.cons_subset_cons handle (ih (n + 1))
      · exact List.subset_cons_of_subset handle (ih (n + 1))

/-- Where no two windows are asked about one object, the windows that lose their marks are told
by the objects. -/
theorem muted_eq {windows : List Toplevel} (apart : (windows.filterMap (·.dirty?)).Nodup)
    (fails : Nat → Bool) (n : Nat) :
    muted fails n windows = windows.map (Toplevel.mutedBy (denied fails n windows)) := by
  induction windows generalizing n with
  | nil => rfl
  | cons w rest ih =>
    rw [muted, denied, List.map_cons]
    cases due : w.dirty? with
    | none =>
      rw [List.filterMap_cons_none due] at apart
      have same : w.mutedBy (denied fails n rest) = w := by simp [Toplevel.mutedBy, due]
      dsimp only
      rw [same, ih apart n]
    | some handle =>
      rw [List.filterMap_cons_some due] at apart
      obtain ⟨once, apart⟩ := List.nodup_cons.mp apart
      have free : handle ∉ denied fails (n + 1) rest :=
        fun listed => once (denied_subset fails (n + 1) rest listed)
      dsimp only
      rw [ih apart (n + 1)]
      cases fails n with
      | true =>
        have other : ∀ v ∈ rest, v.mutedBy (denied fails (n + 1) rest) =
            v.mutedBy (handle :: denied fails (n + 1) rest) := by
          intro v hv
          cases dirty : v.dirty? with
          | none => simp [Toplevel.mutedBy, dirty]
          | some h =>
            have apart : h ≠ handle := by
              rintro rfl
              exact once (List.mem_filterMap.mpr ⟨v, hv, dirty⟩)
            simp [Toplevel.mutedBy, dirty, apart]
        rw [if_pos rfl, if_pos rfl, List.map_congr_left other]
        simp [Toplevel.mutedBy, due]
      | false =>
        rw [if_neg Bool.false_ne_true, if_neg Bool.false_ne_true]
        simp [Toplevel.mutedBy, due, free]

section Fetching

variable {δ : Type} [DisplayServer δ]

theorem muted_unmarked (fails : Nat → Bool) (n : Nat) (windows : List Toplevel) :
    Toplevel.AllUnmarked windows (muted fails n windows) := by
  induction windows generalizing n with
  | nil => exact List.Forall₂.nil
  | cons w rest ih =>
    rw [muted]
    cases w.dirty? with
    | none => exact List.Forall₂.cons (Or.inl rfl) (ih n)
    | some handle =>
      refine List.Forall₂.cons ?_ (ih (n + 1))
      split
      · exact Or.inr rfl
      · exact Or.inl rfl

/-- Without marks nothing is asked for. -/
theorem muted_of_clean {windows : List Toplevel} (clean : ∀ w ∈ windows, w.isDamaged = false)
    (fails : Nat → Bool) (n : Nat) : muted fails n windows = windows := by
  induction windows with
  | nil => rfl
  | cons w rest ih =>
    have nothing : w.dirty? = none := by
      rw [Toplevel.dirty?, clean w List.mem_cons_self]
      rfl
    rw [muted, nothing]
    dsimp only
    rw [ih fun v hv => clean v (List.mem_cons_of_mem w hv)]

/-- The server behind is asked for what the marks that are left ask for. -/
theorem askAll_muted (windows : List Toplevel) (d : Flaky δ) :
    askAll (muted d.fails d.asked windows) d.server =
      ((askAll windows d).1, (askAll windows d).2.server) := by
  induction windows generalizing d with
  | nil => rfl
  | cons w rest ih =>
    rw [muted, askAll]
    cases due : w.dirty? with
    | none =>
      rw [askAll, due]
      dsimp only
      rw [ih d]
    | some handle =>
      have request : DisplayServer.requestDamage handle d = Flaky.requestDamage handle d := rfl
      dsimp only
      rw [request, Flaky.requestDamage]
      cases failing : d.fails d.asked with
      | true =>
        have nothing : ({ w with isDamaged := false } : Toplevel).dirty? = none := rfl
        have others := ih { d with asked := d.asked + 1 }
        dsimp only at others
        rw [if_pos rfl, if_pos rfl, askAll, nothing]
        dsimp only
        rw [others]
        rfl
      | false =>
        have others := ih (Flaky.answer (DisplayServer.requestDamage handle)
          { d with asked := d.asked + 1 }).2
        dsimp only [Flaky.answer] at others ⊢
        rw [if_neg Bool.false_ne_true, if_neg Bool.false_ne_true, askAll, due]
        dsimp only
        rw [others]

theorem collectAll_behind (tickets : List (Option DamageFetch)) (d : Flaky δ) :
    collectAll tickets d.server =
      ((collectAll tickets d).1, (collectAll tickets d).2.server) := by
  induction tickets generalizing d with
  | nil => rfl
  | cons ticket? rest ih =>
    cases ticket? with
    | none =>
      rw [collectAll, collectAll, ih d]
    | some ticket =>
      have others := ih (DisplayServer.damageReply ticket d).2
      have passed : (DisplayServer.damageReply ticket d).2.server =
          (DisplayServer.damageReply ticket d.server).2 := rfl
      rw [passed] at others
      rw [collectAll, collectAll, others]
      rfl

theorem harvest_muted (windows : List Toplevel) (d : Flaky δ) :
    harvest (muted d.fails d.asked windows) d.server =
      ((harvest windows d).1, (harvest windows d).2.server) := by
  have sent : sendOff (askAll windows d).1 (askAll windows d).2.server =
      (sendOff (askAll windows d).1 (askAll windows d).2).server := by
    rw [sendOff, sendOff, apply_ite Flaky.server]
    rfl
  rw [harvest, harvest, askAll_muted, sent, collectAll_behind]

end Fetching

namespace Compositor

variable {ω δ σ : Type}

def behind (c : Compositor (Flaky δ) σ) : Compositor δ σ := c.forget Flaky.server id

variable [DisplayServer δ]

def muted (c : Compositor (Flaky δ) σ) : Compositor δ σ :=
  { c.behind with
    windows := ⟨Compositing.muted c.display.fails c.display.asked c.windows.windows⟩ }

variable {c c' : Compositor (Flaky δ) σ}

/-! Frames. -/

omit [DisplayServer δ] in
theorem muted_distinct (distinct : c.windows.Distinct) : c.muted.windows.Distinct :=
  Toplevel.AllUnmarked.distinct (muted_unmarked _ _ c.windows.windows) distinct

omit [DisplayServer δ] in
theorem muted_calm (calm : c.windows.Calm) : c.muted.windows.Calm := by
  intro w' hw'
  obtain ⟨w, hw, same⟩ := (muted_unmarked _ _ c.windows.windows).old hw'
  exact same.keeps.2.2.2.trans (calm w hw)

/-- A frame is one on the server behind, once the marks are taken off whose requests fail. -/
theorem fetchDamage_behind (distinct : c.windows.Distinct) (calm : c.windows.Calm) :
    c.fetchDamage.behind = c.muted.fetchDamage := by
  have harvested : harvest c.muted.windows.windows c.muted.display =
      ((harvest c.windows.windows c.display).1, (harvest c.windows.windows c.display).2.server) :=
    harvest_muted c.windows.windows c.display
  have unmarked := muted_unmarked c.display.fails c.display.asked c.windows.windows
  have folded := unmarked.folded (harvest c.windows.windows c.display).1
  rw [fetchDamage_eq (muted_distinct distinct) (muted_calm calm), fetchDamage_eq distinct calm,
    harvested]
  dsimp only [muted]
  rw [folded]
  rfl

variable [Renderer σ]

theorem performCompositing_behind (distinct : c.windows.Distinct) (calm : c.windows.Calm)
    (visible : c.overlayVisible = true) :
    c.performCompositing.behind = c.muted.performCompositing := by
  have fetched := fetchDamage_behind distinct calm
  have idle : c.fetchDamage.goIdle.behind = c.fetchDamage.behind.goIdle := rfl
  have painted : c.fetchDamage.paint.behind = c.fetchDamage.behind.paint :=
    (paint_forget c.fetchDamage Renderer.Forgets.id).symm
  have pending : c.fetchDamage.behind.windowRepaintsPending =
    c.fetchDamage.windowRepaintsPending := rfl
  have repaints : c.fetchDamage.behind.repaints = c.fetchDamage.repaints := rfl
  have visible' : c.muted.overlayVisible = true := visible
  rw [performCompositing, performCompositing, if_pos visible, if_pos visible', ← fetched]
  dsimp only
  rw [pending, repaints]
  split
  · exact idle
  · exact painted

theorem performCompositing_behind_of_hidden (hidden : c.overlayVisible = false) :
    c.performCompositing.behind = c.behind.performCompositing := by
  have hidden' : c.behind.overlayVisible = false := hidden
  rw [c.performCompositing_hidden hidden, c.behind.performCompositing_hidden hidden']

/-- With nothing to ask for, nothing fails. -/
theorem performCompositing_behind_of_clean (distinct : c.windows.Distinct)
    (calm : c.windows.Calm) (clean : ∀ w ∈ c.windows.windows, w.isDamaged = false) :
    c.performCompositing.behind = c.behind.performCompositing := by
  have same : c.muted = c.behind := by
    rw [muted, muted_of_clean clean]
    rfl
  cases visible : c.overlayVisible with
  | true => rw [performCompositing_behind distinct calm visible, same]
  | false => exact performCompositing_behind_of_hidden visible

/-! Starting. -/

/-- No window is damaged when its tracking begins. -/
theorem enable_clean (clean : ∀ w ∈ c.windows.windows, w.isDamaged = false) :
    ∀ w ∈ (c.enable id).windows.windows, w.isDamaged = false := by
  let R : Toplevel → Toplevel → Prop := fun w w' => w'.isDamaged = w.isDamaged
  have turn (w : Toplevel) (t : Flaky δ × σ) : R w (trackStep w t).1 :=
    trackStep_induction (P := fun u _ _ => R w u) w t rfl (fun _ _ _ => rfl) fun _ _ _ _ => rfl
  intro w' hw'
  have visited : w' ∈ (c.windows.visit c.windows.ids trackStep
      (c.display, c.renderer)).1.windows := by
    simpa [enable, visitWindows] using hw'
  obtain ⟨w, hw, same⟩ := WindowStack.visit_old (R := R) (fun _ => rfl)
    (fun _ _ _ first second => second.trans first) turn _ _ _ w' visited
  exact same.trans (clean w hw)

theorem activate_behind (distinct : c.windows.Distinct) (calm : c.windows.Calm)
    (clean : ∀ w ∈ c.windows.windows, w.isDamaged = false) :
    (c.activate id).behind = c.behind.activate id := by
  have enabled (c : Compositor (Flaky δ) σ) : (c.enable id).behind = c.behind.enable id := by
    have same := enable_forget (δ := Steady δ) c Steady.forgets Renderer.Forgets.id id
    exact same.symm
  have rate : c.behind.refreshRate = c.refreshRate := rfl
  have frame : c.behind.frame.configure c.behind.options.frameInterval c.behind.refreshRate
      (Renderer.syncsToBlank c.behind.renderer) c.behind.options.blankTime =
    c.frame.configure c.options.frameInterval c.refreshRate (Renderer.syncsToBlank c.renderer)
      c.options.blankTime := rfl
  simp only [activate, withFrameBudget]
  rw [frame]
  cases c.frame.configure c.options.frameInterval c.refreshRate
    (Renderer.syncsToBlank c.renderer) c.options.blankTime with
  | error fault => rfl
  | ok frame =>
    have evolved := enable_evolves (c := { c with frame := frame }) distinct
    have started := performCompositing_behind_of_clean evolved.distinct (evolved.calm calm)
      (enable_clean (c := { c with frame := frame }) clean)
    rw [enabled] at started
    exact started

/-- Nothing fails when compositing starts, as no window is damaged by then. -/
theorem setup_behind (distinct : c.windows.Distinct) (calm : c.windows.Calm)
    (clean : c.hasScene = false → ∀ w ∈ c.windows.windows, w.isDamaged = false) :
    c.setup.behind = c.behind.setup := by
  have scene : c.behind.hasScene = c.hasScene := rfl
  have held : c.behind.suspended = c.suspended := rfl
  have possible : c.behind.isPossible = c.isPossible := rfl
  have acquired : acquire { c.behind with phase := .starting } =
      ((acquire { c with phase := .starting }).1,
        (acquire { c with phase := .starting }).2.behind) := by
    have same := acquire_forget (δ := Steady δ) { c with phase := .starting } Steady.forgets
      Renderer.Forgets.id
    exact same
  simp only [setup, setupBy]
  rw [acquired, scene, held, possible]
  split
  · rfl
  · rename_i off
    have off : c.hasScene = false := by simpa using off
    split
    · rfl
    · have evolved := acquire_evolves (c := { c with phase := .starting }) distinct
      obtain ⟨d, r, started, selection, s, shape, _, stack, _⟩ :=
        ({ c with phase := .starting } : Compositor (Flaky δ) σ).acquire_shape
      have clean' : ∀ w ∈ ({ c with phase := .starting } :
          Compositor (Flaky δ) σ).acquire.2.windows.windows, w.isDamaged = false := by
        rw [shape]
        intro w hw
        rcases stack with rfl | rfl
        · exact clean off w hw
        · exact clean off w (List.mem_filter.mp hw).1
      have calm' := evolved.calm calm
      have distinct' := evolved.distinct
      rcases got : acquire ({ c with phase := .starting } : Compositor (Flaky δ) σ) with ⟨e | ⟨⟩, a⟩
      all_goals rw [got] at clean' calm' distinct'
      · have released := releaseSelection_forget (δ := Steady δ) { a with hasScene := false }
          Steady.forgets (g := id)
        exact congrArg (fun c => { c with phase := .inactive }) released.symm
      · exact activate_behind distinct' calm' clean'

/-! Calls without requests for damage are passed on as they are. -/

omit [DisplayServer δ] [Renderer σ] in
theorem addRepaint_behind (g : Region) : (c.addRepaint g).behind = c.behind.addRepaint g :=
  (addRepaint_forget c g).symm

omit [DisplayServer δ] [Renderer σ] in
theorem scheduleRepaint_behind : c.scheduleRepaint.behind = c.behind.scheduleRepaint :=
  (scheduleRepaint_forget c).symm

omit [Renderer σ] in
theorem addRepaintFull_behind : c.addRepaintFull.behind = c.behind.addRepaintFull := by
  have same := addRepaintFull_forget (δ := Steady δ) c Steady.forgets (g := id)
  exact same.symm

omit [Renderer σ] in
theorem sweepSupport_behind (busy : Bool) :
    (c.sweepSupport busy).behind = c.behind.sweepSupport busy := by
  have same := sweepSupport_forget (δ := Steady δ) c Steady.forgets (g := id) busy
  exact same.symm

theorem bypassPass_behind : c.bypassPass.behind = c.behind.bypassPass := by
  have same := bypassPass_forget (δ := Steady δ) c Steady.forgets Renderer.Forgets.id
  exact same.symm

theorem finish_behind : c.finish.behind = c.behind.finish := by
  have same := finish_forget (δ := Steady δ) c Steady.forgets Renderer.Forgets.id
  exact same.symm

omit [DisplayServer δ] in
theorem discardPlaceholder_behind (id : WindowId) :
    (c.discardPlaceholder id).2.behind = (c.behind.discardPlaceholder id).2 :=
  (discardPlaceholder_forget c Renderer.Forgets.id id).symm

omit [DisplayServer δ] in
theorem setGeometry_behind (id : WindowId) (geometry : Rect) :
    (c.setGeometry id geometry).behind = c.behind.setGeometry id geometry :=
  (setGeometry_forget c Renderer.Forgets.id id geometry).symm

theorem handleDisplayEvent_behind (e : DisplayEvent) :
    (c.handleDisplayEvent e).behind = c.behind.handleDisplayEvent e := by
  have same := handleDisplayEvent_forget (δ := Steady δ) c Steady.forgets Renderer.Forgets.id e
  exact same.symm

theorem dispatch_behind : c.dispatchDisplayEvents.2.behind = c.behind.dispatchDisplayEvents.2 := by
  have same := dispatchDisplayEvents_forget (δ := Steady δ) c Steady.forgets Renderer.Forgets.id
  exact same.symm

theorem setOverlayVisible_behind (visible : Bool) :
    (c.setOverlayVisible visible).behind = c.behind.setOverlayVisible visible := by
  have same := setOverlayVisible_forget (δ := Steady δ) c Steady.forgets Renderer.Forgets.id visible
  exact same.symm

/-! Whole runs. -/

/-- What every call on the server behind preserves is preserved here, if marks do not matter. -/
theorem Preserved.flaky {P : Compositor δ σ → Prop} (keeps : Preserved P)
    (unmark : ∀ {c : Compositor δ σ} {windows : List Toplevel},
      Toplevel.AllUnmarked c.windows.windows windows → P c → P { c with windows := ⟨windows⟩ })
    (idle : ∀ {c : Compositor δ σ}, P c → c.hasScene = false →
      ∀ w ∈ c.windows.windows, w.damage? = none)
    {s : WindowStack} (distinct : s.Distinct) (calm : s.Calm) :
    Preserved fun c : Compositor (Flaky δ) σ =>
      (s.Evolves c.windows ∧ c.windows.Tidy) ∧ P c.behind := by
  have order := (evolves_preserved (δ := Flaky δ) (σ := σ) distinct).and
    (tidy_preserved (δ := Flaky δ) (σ := σ))
  have passed {c c' : Compositor (Flaky δ) σ} (same : SameWork c c') :
      SameWork c.behind c'.behind :=
    ⟨congrArg Flaky.server same.display, same.renderer, same.scene, same.windows, same.repaints,
      same.fault⟩
  constructor
  case still =>
    exact fun h same armed => ⟨order.still h.1 same armed, keeps.still h.2 (passed same) armed⟩
  case frame =>
    intro c c' h same
    refine ⟨order.frame h.1 same, ?_⟩
    have evolved : s.Evolves c'.windows := same.windows ▸ h.1.1
    cases visible : c'.overlayVisible with
    | true =>
      rw [performCompositing_behind evolved.distinct (evolved.calm calm) visible]
      have unmarked := muted_unmarked c.display.fails c.display.asked c.windows.windows
      refine keeps.frame (unmark unmarked h.2) ?_
      refine ⟨congrArg Flaky.server same.display, same.renderer, same.scene, ?_, same.repaints,
        same.fault⟩
      rw [muted, same.windows, same.display]
    | false =>
      rw [performCompositing_behind_of_hidden visible]
      exact keeps.frame h.2 (passed same)
  case addRepaint =>
    intro c g h
    rw [addRepaint_behind]
    exact ⟨order.addRepaint g h.1, keeps.addRepaint g h.2⟩
  case addRepaintFull =>
    intro c h
    rw [addRepaintFull_behind]
    exact ⟨order.addRepaintFull h.1, keeps.addRepaintFull h.2⟩
  case sweepSupport =>
    intro c busy h
    rw [sweepSupport_behind]
    exact ⟨order.sweepSupport busy h.1, keeps.sweepSupport busy h.2⟩
  case bypassPass =>
    intro c h
    rw [bypassPass_behind]
    exact ⟨order.bypassPass h.1, keeps.bypassPass h.2⟩
  case setup =>
    intro c h
    have clean : c.hasScene = false → ∀ w ∈ c.windows.windows, w.isDamaged = false :=
      fun off w hw => h.1.2 w hw (idle h.2 off w hw)
    rw [setup_behind h.1.1.distinct (h.1.1.calm calm) clean]
    exact ⟨order.setup h.1, keeps.setup h.2⟩
  case finish =>
    intro c h
    rw [finish_behind]
    exact ⟨order.finish h.1, keeps.finish h.2⟩
  case discardPlaceholder =>
    intro c id h
    rw [discardPlaceholder_behind]
    exact ⟨order.discardPlaceholder id h.1, keeps.discardPlaceholder id h.2⟩
  case setGeometry =>
    intro c id geometry h
    rw [setGeometry_behind]
    exact ⟨order.setGeometry id geometry h.1, keeps.setGeometry id geometry h.2⟩
  case restack =>
    intro c list h
    rw [addRepaintFull_behind]
    exact ⟨order.restack list h.1, keeps.restack list h.2⟩
  case reshape =>
    exact fun id _ same intact h =>
      ⟨order.reshape id same intact h.1, keeps.reshape id same intact h.2⟩
  case retouch =>
    intro c id f same intact h
    rw [scheduleRepaint_behind]
    exact ⟨order.retouch id same intact h.1, keeps.retouch id same intact h.2⟩
  case damaged =>
    intro c id h
    rw [handleDisplayEvent_behind]
    exact ⟨order.damaged id h.1, keeps.damaged id h.2⟩
  case dispatch =>
    intro c h
    rw [dispatch_behind]
    exact ⟨order.dispatch h.1, keeps.dispatch h.2⟩
  case setOverlayVisible =>
    intro c visible h
    rw [setOverlayVisible_behind]
    exact ⟨order.setOverlayVisible visible h.1, keeps.setOverlayVisible visible h.2⟩

/-- Windows come and go, and others act, without a request for damage. -/
theorem step_behind (W : World ω δ σ) {k : Step ω} (outer : ¬k.Inner) :
    (c.step W.flaky k).behind = c.behind.step W k := by
  have outside : World.Forgets (W.flaky : World ω (Steady δ) σ) W Steady.server id :=
    ⟨fun _ _ => rfl, fun _ _ => rfl⟩
  have same := step_forget (δ := Steady δ) c Steady.forgets Renderer.Forgets.id outside k
  cases k with
  | addWindow | removeWindow | setClientState | outside => exact same.symm
  | _ => exact (outer trivial).elim

/-- What each step preserves on the server behind holds after a run here, if marks do not matter. -/
theorem run_flaky {P : Compositor δ σ → Prop} (keeps : Preserved P)
    (unmark : ∀ {c : Compositor δ σ} {windows : List Toplevel},
      Toplevel.AllUnmarked c.windows.windows windows → P c → P { c with windows := ⟨windows⟩ })
    (idle : ∀ {c : Compositor δ σ}, P c → c.hasScene = false →
      ∀ w ∈ c.windows.windows, w.damage? = none)
    (W : World ω δ σ)
    (outer : ∀ {c : Compositor δ σ} {k : Step ω}, k.AddsFresh → P c → P (c.step W k))
    (d : Flaky δ) (r : σ) (options : CompositingOptions)
    (start : P (Compositor.new d.server r options)) {steps : List (Step ω)}
    (fresh : ∀ k ∈ steps, k.AddsFresh) :
    P ((Compositor.new d r options).run W.flaky steps).behind := by
  let Q : Compositor (Flaky δ) σ → Prop := fun c =>
    (c.windows.Distinct ∧ c.windows.Calm) ∧ c.windows.Tidy ∧ P c.behind
  have keepsQ (c : Compositor (Flaky δ) σ) (k : Step ω) (adds : k.AddsFresh) (h : Q c) :
      Q (c.step W.flaky k) := by
    obtain ⟨⟨distinct, calm⟩, tidy, holds⟩ := h
    refine ⟨⟨step_distinct W.flaky k distinct, step_calm W.flaky adds distinct calm⟩,
      step_tidy W.flaky k adds tidy, ?_⟩
    by_cases inner : k.Inner
    · exact ((keeps.flaky unmark idle distinct calm).step W.flaky inner
        ⟨⟨WindowStack.Evolves.refl distinct, tidy⟩, holds⟩).2
    · rw [step_behind W inner]
      exact outer adds holds
  have startQ : Q (Compositor.new d r options) :=
    ⟨⟨List.nodup_nil, by simp [WindowStack.Calm, Compositor.new, WindowStack.empty]⟩,
      by simp [WindowStack.Tidy, Compositor.new, WindowStack.empty], start⟩
  exact (run_preserves W.flaky keepsQ startQ fresh).2.2

end Compositor

end Compositing
