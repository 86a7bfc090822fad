import Deniald.Authentication.Publication
import Deniald.Authentication.Secrets
import Deniald.Client.Budget
import Deniald.Clipboard.Containers
import Deniald.Clipboard.Eviction
import Deniald.Clipboard.Locked
import Deniald.Damage.Clips
import Deniald.Desktop.Configures
import Deniald.Desktop.OverviewLayout
import Deniald.Desktop.Restores
import Deniald.Desktop.Sessions
import Deniald.Flutter.Holders
import Deniald.Flutter.Inbox
import Deniald.Flutter.Producer
import Deniald.Flutter.Recency
import Deniald.Flutter.SceneSync
import Deniald.Flutter.Surrounding
import Deniald.Flutter.Texture
import Deniald.Flutter.Vsync
import Deniald.Flutter.WindowEvents
import Deniald.Frame.Cadence
import Deniald.Frame.Clock
import Deniald.Idle.Restoration
import Deniald.Input.Coalescing
import Deniald.Input.KeyStream
import Deniald.Input.Routing
import Deniald.InputMethod.Releases
import Deniald.InputMethod.Transactions
import Deniald.Launcher.Moves
import Deniald.Layout.Resize
import Deniald.Notification.Lifecycle
import Deniald.Output.Deliveries
import Deniald.Output.Repair
import Deniald.Outputs.Agreement
import Deniald.Outputs.Automatic
import Deniald.Outputs.Dpms
import Deniald.Outputs.Hotplug
import Deniald.Outputs.Requests
import Deniald.Placement.Session
import Deniald.Scene.Accepted
import Deniald.Screencopy.Conservation
import Deniald.Screencopy.Screenshot
import Deniald.Shm.Cache
import Deniald.Shortcut.Tap
import Deniald.TextInput.Protocol
import Deniald.Topology.Migration
import Deniald.Topology.Projection
import Deniald.Touch.Session
import Deniald.Touch.Swipes
import Deniald.Volition.Lookahead
import Deniald.WindowGrab.Resize
import Deniald.Wire.Accepted
import Deniald.Wire.Emission
import Deniald.Wire.Portal
import Deniald.Workspace.Directional
import Deniald.Workspace.Session
