import Compositing.Display.Headless
import Compositing.Log.Record
import Compositing.Remote.Session
import Compositing.Renderer.Headless

/-!
# What the service writes into its log

Nobody sends requests to the service and its display has no windows, so the only timers that go off
are those for the next frame and for a pass.
-/

namespace Compositing

abbrev ServiceCompositor := Compositor HeadlessDisplay HeadlessRenderer

abbrev ServiceSession := Session HeadlessDisplay HeadlessRenderer

namespace Service

def origin : String := "novade_compositing"

def record (level : LogLevel) (part message : String) (fields : List (String × LogValue)) :
    LogRecord :=
  ⟨level, origin ++ part, message, fields⟩

def openingRecord (o : LoggingOptions) : LogRecord where
  level := .debug
  origin := "novade_core::logging"
  message := "Logging initialized"
  fields := [
    ("level", .plain (((LogLevel.ofName? o.level).map LogLevel.label).getD o.level)),
    ("format", .plain o.format),
    ("file", .plain ((o.file?.map fun file => "Some(" ++ Text.quoted file ++ ")").getD "None"))]

def scheduleRecords (c : ServiceCompositor) : List LogRecord :=
  if !c.hasScene || c.timers.isArmed .repaint then []
  else [record .trace "::frame" "Repaint scheduled" [("wait_ms", .number c.frame.nextWait)]]

/-- What a frame leaves in the log; nothing if there is nothing to paint. -/
def frameRecords (c : ServiceCompositor) : List LogRecord :=
  let c := c.fetchDamage
  if !c.overlayVisible || c.repaints.isEmpty && !c.windowRepaintsPending then []
  else
    let painted := c.paint
    let extent : List (String × LogValue) := [("windows", .number c.paintList.length),
      ("damage_area", .number c.repaints.area.toNat)]
    [record .trace "::compositor" "Painting frame" extent,
      record .trace "::scene" "Headless paint"
        (("frame", .number painted.renderer.scene.frames) :: extent)] ++
      scheduleRecords { painted with timers := painted.timers.stop .repaint }

def budgetRecord (b : FrameBudget) : LogRecord :=
  let nanos (n : Int64) : LogValue := .number n.toInt.toNat
  record .debug "::frame" "Frame budget configured"
    [("fps_interval_ns", nanos b.interval), ("vblank_interval_ns", nanos b.refreshPeriod),
      ("vblank_time_ns", nanos b.blankTime)]

def activationRecords (c : ServiceCompositor) : List LogRecord :=
  match c.withFrameBudget with
  | .error _ => []
  | .ok c =>
    let c' := c.enable id
    [budgetRecord c.frame] ++ scheduleRecords c ++
      [record .info "::compositor" "Compositing enabled"
        [("backend", .quoted c.options.backend.name),
          ("windows", .number c.windows.windows.length)]] ++
      frameRecords c'

def setupRecords (c : ServiceCompositor) : List LogRecord :=
  let part := "::compositor"
  if c.hasScene then []
  else if !c.suspended.isEmpty then
    [record .debug part "Compositing is suspended, not starting"
      [("reasons", .plain c.suspended.describe)]]
  else if !c.isPossible then
    [record .warn part "Compositing is not possible" [("reason", .plain c.impossibilityReason)]]
  else
    let (outcome, acquired) := c.acquire
    let created := if acquired.hasScene then
        [record .debug "::scene" "Creating headless scene"
          [("backend", .quoted c.options.backend.name),
            ("refresh_rate", .number
              ((DisplayServer.refreshRate? c.display).getD 60).toNat)]]
      else []
    created ++ match outcome with
      | .error e =>
        [record .error part "Compositing setup failed, staying uncomposited"
          [("error", .plain e.message)]]
      | .ok () => activationRecords acquired

def absenceRecords (c : ServiceCompositor) : List LogRecord :=
  if c.isActive || c.impossibilityReason.isEmpty then []
  else [record .warn "" "Running without compositing" [("reason", .plain c.impossibilityReason)]]

def timerRecords (id : TimerId) (c : ServiceCompositor) : List LogRecord :=
  record .trace "::runtime" "Timer fired" [("timer", .plain id.name)] ::
    match id with
    | .repaint => frameRecords c
    | .bypassCheck => if c.bypassApplies && c.switchWindows.1 then scheduleRecords c else []
    | _ => []

def newsRecord : Event → LogRecord
  | .toggled active =>
    record .debug "::runtime" "Compositing toggled" [("active", .truth active)]
  | .suspendedNotice message =>
    record .info "::runtime" "Compositing suspended remotely" [("notice", .plain message)]

def turnRecords (s : ServiceSession) : List LogRecord :=
  (s.firings.1.flatMap fun e => timerRecords e.1 e.2) ++ s.turned.compositor.events.map newsRecord

def finishRecords (c : ServiceCompositor) : List LogRecord :=
  if c.hasScene then [record .info "::compositor" "Compositing disabled" []] else []

end Service

end Compositing
