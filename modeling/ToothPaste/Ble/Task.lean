import ToothPaste.Ble.Interface
import ToothPaste.Lib.Transition

/-!
# The BLE task

`ble_task` of `main.rs` as a transition system together with what surrounds it: the input channel,
the command channel and the notification stream, which other tasks and the device fill at any
time. The task itself moves from `select!` to `select!`; `connect_to_device` and the start of
`run` are cut at the awaits in between, as the device can answer the greeting at any of them.

A task that panics and a process that exits are `stopped`, and the notification stream is dropped
with them, and what waits in it. Once the loop of `run` is entered it
is never left otherwise, so that the only way back to `idle` is a failure before it.
-/

namespace ToothPaste

/-- Where `ble_task` is. -/
inductive Phase where
  /-- Waiting for a command. -/
  | idle
  /-- In `connect_to_device`, connected, the greeting not sent yet. -/
  | greeting (device : Device)
  /-- In `connect_to_device`, about to publish the device. -/
  | publishing (device : Device)
  /-- In `run` for a device id, about to subscribe. -/
  | subscribing (deviceId : String)
  /-- In `run`, subscribed, about to open the notification stream. -/
  | opening (deviceId : String)
  /-- In the loop of `run`. -/
  | running (deviceId : String)
  | stopped
  deriving DecidableEq

/-- The state of `ble_task` and of the channels it reads. -/
structure BleTask (SK : Type) where
  phase : Phase
  iface : BleInterface SK
  inputs : List InputEvent
  commands : List AppCommand
  notifications : List ValueNotification
  /-- The stream `subscribe_notifications` returns is open. -/
  streamOpen : Bool

/-- The draws and outcomes of one command. -/
structure CommandEnv (SK : Type) where
  scan : ScanEnv
  connect : ConnectEnv
  pair : PairEnv SK
  send : SendEnv

/-- The steps. The first four are taken by other tasks and by the device. -/
inductive BleAction (SK : Type) where
  | putInput (event : InputEvent)
  | putCommand (cmd : AppCommand)
  | notify (n : ValueNotification)
  | endStream
  | recvCommand (env : CommandEnv SK)
  | greet (write : Except String Unit)
  | publish
  | subscribe (result : Except String Unit)
  | openStream (result : Except String Unit)
  | recvInput (envs : ℕ → SendEnv)
  | recvNotification

/-- The capacity of the input channel. -/
def inputCapacity : ℕ := 50

/-- The capacity of the command channel. -/
def commandCapacity : ℕ := 32

namespace BleTask

variable {SK PK : Type} (cr : Crates SK PK) (pb : Prost)

/-- The state the task starts in, with an opened store. -/
def start (storage : StorageService) : BleTask SK where
  phase := .idle
  iface := BleInterface.new storage
  inputs := []
  commands := []
  notifications := []
  streamOpen := false

/-- The task has stopped. The stream of `run` is dropped, with what waits in it. -/
def stop (s : BleTask SK) : BleTask SK :=
  { s with phase := .stopped, notifications := [], streamOpen := false }

/-- The task after a call: in the next phase, unless the call stopped it. -/
def after (s : BleTask SK) (next : Phase) (r : Except Fault Unit × BleInterface SK) : BleTask SK :=
  match r with
  | (.error .panic, iface) => stop { s with iface }
  | (.error .exit, iface) => stop { s with iface }
  | (_, iface) => { s with iface, phase := next }

/-- A command taken by `ble_task` itself. -/
def idleCommand (s : BleTask SK) (cmd : AppCommand) (env : CommandEnv SK) : BleTask SK :=
  match cmd with
  | .scanForDevices =>
    let (result, iface) := s.iface.scan env.scan
    s.after .idle (result.map fun _ => (), iface)
  | .connectToDevice device =>
    match s.iface.connectBle device env.connect with
    | (.ok (), iface) => { s with iface, phase := .greeting device }
    | (.error e, iface) => s.after .idle (.error e, iface)
  | .sendKeyboardInput text =>
    s.after .idle (s.iface.sendKeyboardString cr pb text env.send)
  | .sendMouseJiggle enable =>
    s.after .idle (s.iface.sendMouseJiggle cr pb enable env.send)
  | .killService => s.stop
  | _ => s

/-- One step of the task or of its surroundings. -/
def step (s : BleTask SK) : BleAction SK → Option (BleTask SK)
  | .putInput event =>
    if s.inputs.length < inputCapacity then some { s with inputs := s.inputs ++ [event] } else none
  | .putCommand cmd =>
    if s.commands.length < commandCapacity then some { s with commands := s.commands ++ [cmd] }
    else none
  -- what is emitted while the stream is not open is lost
  | .notify n =>
    if s.streamOpen then some { s with notifications := s.notifications ++ [n] } else some s
  | .endStream => some { s with streamOpen := false }
  | .recvCommand env =>
    match s.phase, s.commands with
    | .idle, cmd :: rest => some (idleCommand cr pb { s with commands := rest } cmd env)
    | .running deviceId, cmd :: rest =>
      some (after { s with commands := rest } (.running deviceId)
        (s.iface.handleCommand cr pb deviceId cmd env.pair env.send))
    | _, _ => none
  | .greet write =>
    match s.phase with
    | .greeting device => some (s.after (.publishing device) (s.iface.greet cr pb write))
    | _ => none
  | .publish =>
    match s.phase with
    | .publishing device =>
      let iface := s.iface.publishConnected device
      match iface.deviceId with
      -- `run` returns `Err("no connected device")`
      | none => some { s with iface, phase := .idle }
      | some deviceId => some { s with iface, phase := .subscribing deviceId }
    | _ => none
  | .subscribe result =>
    match s.phase with
    | .subscribing deviceId =>
      match s.iface.ble.subscribeSemaphore result with
      -- `run` returns the error; the device stays published as connected
      | .error _ => some { s with phase := .idle }
      | .ok () => some { s with phase := .opening deviceId }
    | _ => none
  | .openStream result =>
    match s.phase with
    | .opening deviceId =>
      match result with
      | .error _ => some { s with phase := .idle }
      -- the stream starts empty: nothing emitted before is replayed
      | .ok () =>
        some { s with phase := .running deviceId, notifications := [], streamOpen := true }
    | _ => none
  | .recvInput envs =>
    match s.phase, s.inputs with
    | .running deviceId, event :: rest =>
      some (after { s with inputs := rest } (.running deviceId)
        (s.iface.handleInputEvent cr pb event envs))
    | _, _ => none
  | .recvNotification =>
    match s.phase, s.notifications with
    | .running deviceId, n :: rest =>
      some (after { s with notifications := rest } (.running deviceId)
        (s.iface.handleNotification cr pb deviceId n))
    | _, _ => none

end BleTask

/-- `ble_task` in its surroundings, over every store. -/
def bleTask {SK PK : Type} (cr : Crates SK PK) (pb : Prost) :
    Transition.System (BleTask SK) (BleAction SK) where
  Init s := ∃ storage, s = BleTask.start storage
  step := BleTask.step cr pb

end ToothPaste
