import Compositing.Log.Setup
import Compositing.Log.Sink
import Compositing.Service.Records

/-! # The compositor as a program of its own -/

namespace Compositing

structure Service where
  sink : LogSink
  session : ServiceSession

namespace Service

def blank (o : CompositingOptions) : ServiceSession :=
  Session.new (Compositor.new (HeadlessDisplay.new Extension.all (Layout.single 1920 1080))
    (HeadlessRenderer.new ⟨1⟩ fun _ => 0) o)

def start (loaded : Except GroundError Settings) (filter? : Option String) :
    Service × List LogRecord :=
  let (o, sink, first) := match loaded with
    | .ok o => (o, LogSink.ofOptions o.logging, openingRecord o.logging)
    | .error e => (.standard, LogSink.minimal filter?,
        record .warn "" "Could not load configuration, using defaults"
          [("error", .plain e.message)])
  let s := blank o.compositing
  let up : ServiceSession := { s with compositor := s.compositor.setup }
  (⟨sink, up⟩,
    [first, record .info "" "Starting NovaDE compositing"
      [("backend", .quoted o.compositing.backend.name),
        ("max_fps", .number o.compositing.maxFps.toNat)]] ++
    setupRecords s.compositor ++ absenceRecords up.compositor ++
    [record .info "::runtime" "Compositing event loop running" []])

def settle (s : Service) (limit : Nat) : Service × List LogRecord :=
  match limit with
  | 0 => (s, [])
  | limit + 1 =>
    let waiting := s.session.skipTime
    let turned := { s with session := waiting.turnOnce }
    if turned.session.compositor.timers.armed.isEmpty then (turned, turnRecords waiting)
    else
      let (settled, later) := turned.settle limit
      (settled, turnRecords waiting ++ later)

def stop (s : Service) : Service × List LogRecord :=
  ({ s with session := s.session.stop },
    record .info "::runtime" "Shutdown requested, leaving event loop" [] ::
      finishRecords s.session.compositor ++
      s.session.compositor.shutdown.events.map newsRecord ++
      [record .info "" "NovaDE compositing stopped" []])

def kept (s : Service) (records : List LogRecord) : List LogRecord := records.filter s.sink.keeps

structure Course where
  exitCode : Nat
  sink : LogSink
  records : List LogRecord

/-- The service from its start to its end, which comes when the loop has nothing left to do. Where
the log file cannot be opened it ends before its first record. -/
def run (loaded : Except GroundError Settings) (files : FileTree) (filter? : Option String) :
    Course :=
  let (started, first) := start loaded filter?
  let (settled, next) := started.settle 500
  let (stopped, last) := settled.stop
  match loaded.toOption.bind (·.logging.fault? files) with
  | some _ => ⟨101, stopped.sink, []⟩
  | none => ⟨0, stopped.sink, stopped.kept (first ++ next ++ last)⟩

end Service

end Compositing
