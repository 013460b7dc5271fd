import Compositing.Geometry.Region
import Compositing.Suspension
import Compositing.Pace.FrameBudget
import Compositing.Display.Capability
import Compositing.Display.Faulty
import Compositing.Renderer.Scripted
import Compositing.Window.Bypass
import Compositing.SupportProperties
import Compositing.Remote.Request
import Compositing.Decimal.Shortest
import Compositing.Text.Lowercase
import Compositing.Text.Quoted
import Compositing.Toml.Overlay
import Compositing.Toml.Cursor
import Compositing.Toml.Document
import Compositing.Files.Path
import Compositing.Files.Tree
import Compositing.Log.Level
import Compositing.Settings.Decoding
import Compositing.Settings.Validation
import Compositing.Toml.Written
import Compositing.Failure
import Compositing.Log.Setup
import Compositing.Settings.Loading
import Compositing.Log.Record
import Compositing.Log.Sink
import Compositing.Remote.Bus
import Compositing.Remote.Session
import Compositing.Service
import Compositing.Main
import Compositing.Proofs.Overlap
import Compositing.Proofs.Blocking
import Compositing.Proofs.Audit
import Compositing.Proofs.WakeUp
import Compositing.Proofs.Lifecycle
import Compositing.Proofs.Overlay
import Compositing.Proofs.Quiescence
import Compositing.Proofs.Damage
import Compositing.Proofs.Area
import Compositing.Proofs.Eligibility
import Compositing.Proofs.FirstPaint
import Compositing.Proofs.Idling
import Compositing.Proofs.LastWord
import Compositing.Proofs.Redirection
import Compositing.Proofs.Selection
import Compositing.Proofs.Spacing
import Compositing.Proofs.Exposure
import Compositing.Proofs.Recall
import Compositing.Proofs.GracePeriod
import Compositing.Proofs.Rollback
import Compositing.Proofs.Acquaintance
import Compositing.Proofs.Renaming
import Compositing.Proofs.OneSwitch
import Compositing.Proofs.Handover
import Compositing.Proofs.Batches
import Compositing.Proofs.Heed
import Compositing.Proofs.Deadlines
import Compositing.Proofs.Starting
import Compositing.Proofs.Precedence
import Compositing.Proofs.Enclosure
import Compositing.Proofs.Stacking
import Compositing.Proofs.Forwarding
