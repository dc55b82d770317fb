import ToothPaste.Lib.Transition
import ToothPaste.Lib.Base64
import ToothPaste.Lib.JsonObject
import ToothPaste.Crates.Sample
import ToothPaste.Input.Motion
import ToothPaste.Storage.Opening
import ToothPaste.Storage.Atomicity
import ToothPaste.Crypto.Sessions
import ToothPaste.Crypto.Binding
import ToothPaste.Crypto.FailedLoads
import ToothPaste.Ble.Authentication
import ToothPaste.Ble.Transmission
import ToothPaste.Ble.Provenance
import ToothPaste.Ble.Pairing
import ToothPaste.Ble.Reconnect
import ToothPaste.Ble.Framing
import ToothPaste.Ble.Mouse
import ToothPaste.Ble.Clipboard
import ToothPaste.Ble.NamedPairing
import ToothPaste.Ble.Drift
import ToothPaste.Service.Notifications
import ToothPaste.Service.Lifetime
import ToothPaste.Service.Commands
import ToothPaste.Service.Typing
import ToothPaste.Service.Reports
import ToothPaste.Service.Toggles
import ToothPaste.Service.Deadline
import ToothPaste.Mcp.Calls
import ToothPaste.Mcp.Connect
import ToothPaste.Mcp.Combos
import ToothPaste.Mcp.Scroll
import ToothPaste.Ipc.Link
import ToothPaste.Tui.Navigation
import ToothPaste.Tui.Enter
import ToothPaste.Tui.SidePanel
import ToothPaste.Tui.BackStack
import ToothPaste.Desktop.Screens
import ToothPaste.Mcp.Server
import ToothPaste.Ble.Peer
import ToothPaste.Storage.Durability
import ToothPaste.Ble.Delivery
import ToothPaste.Service.Listed
import ToothPaste.Input.Debounce
import ToothPaste.Service.Captured
import ToothPaste.Desktop.Chosen
import ToothPaste.Desktop.Program
