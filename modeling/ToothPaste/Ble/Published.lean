import ToothPaste.Ble.Steps

/-!
# What the BLE task publishes

The BLE task changes the published state with `send_modify`, in place and at once. `BleUpdate`
lists the four changes it makes; `published_step` connects them to its steps: a step of the task
leaves the published state alone or makes one of them. So a device stays published throughout
`run` (`connected_step`), and of the notifications only a `PeerKnown` panics there.
-/

namespace ToothPaste

/-- One `send_modify` of the BLE task. -/
inductive BleUpdate where
  /-- `scan` publishes the devices it found. -/
  | scan (devices : List Device)
  /-- `connect_to_device` publishes the device it connected to. -/
  | connect (device : Device)
  | peerUnknown
  | challenge (firmwareVersion : String)
  deriving DecidableEq

namespace BleUpdate

/-- The list an update writes to `devices`. -/
def devicesWritten : BleUpdate → Option (List Device)
  | .scan devices => some devices
  | _ => none

/-- The device an update writes to `connected_device`, which holds `current`. Where it holds none,
`on_peer_unknown` writes nothing and `on_challenge` panics. -/
def deviceWritten (current : Option Device) : BleUpdate → Option Device
  | .scan _ => none
  | .connect device => some { device with state := .connected .notAuthenticated "Unknown" }
  | .peerUnknown => current.map fun device =>
    let firmwareVersion := match device.state with
      | .connected _ firmwareVersion => firmwareVersion
      | .disconnected => "Unknown"
    { device with state := .connected .authenticationFailed firmwareVersion }
  | .challenge firmwareVersion => current.map fun device =>
    { device with state := .connected (.authenticated "N/A" "N/A") firmwareVersion }

/-- The published state after an update. -/
def apply (u : BleUpdate) (app : AppState) : AppState :=
  { app with
    devices := u.devicesWritten.getD app.devices
    connectedDevice := (u.deviceWritten app.connectedDevice).or app.connectedDevice }

end BleUpdate

/-- `app'` is `app`, or what one update makes of it. -/
def Published (app app' : AppState) : Prop := app' = app ∨ ∃ u : BleUpdate, app' = u.apply app

/-- Nothing is published. -/
theorem published_refl (app : AppState) : Published app app := .inl rfl

/-- An update keeps a device published. -/
theorem Published.connectedDevice_isSome {app app' : AppState} (h : Published app app')
    (hsome : app.connectedDevice.isSome = true) : app'.connectedDevice.isSome = true := by
  rcases h with rfl | ⟨u, rfl⟩
  · exact hsome
  · simp [BleUpdate.apply, hsome]

namespace BleInterface

variable {SK PK : Type} {cr : Crates SK PK} {pb : Prost}

/-- A scan publishes the devices it finds, or nothing. -/
theorem published_scan (i : BleInterface SK) (env : ScanEnv) :
    Published i.appState (i.scan env).2.appState := by
  unfold scan
  rcases i.ble.bleDiscoverToothpaste env with ⟨e | devices, ble⟩
  · exact published_refl _
  · exact .inr ⟨.scan devices, rfl⟩

/-- `connect_to_device` publishes the device. -/
theorem published_publishConnected (i : BleInterface SK) (device : Device) :
    Published i.appState (i.publishConnected device).appState :=
  .inr ⟨.connect device, rfl⟩

/-- `on_peer_unknown` publishes the failed authentication, if a device is connected. -/
theorem published_onPeerUnknown (i : BleInterface SK) :
    Published i.appState i.onPeerUnknown.appState := by
  unfold onPeerUnknown
  cases hdevice : i.appState.connectedDevice with
  | none => exact published_refl _
  | some device =>
    refine .inr ⟨.peerUnknown, ?_⟩
    rcases device with ⟨name, address, id, authState | _, signalStrength⟩ <;>
      simp [BleUpdate.apply, BleUpdate.devicesWritten, BleUpdate.deviceWritten, hdevice]

/-- `on_challenge` publishes the authentication, if a device is connected. -/
theorem published_onChallenge (i : BleInterface SK) (deviceId : String) (challengeData : Bytes)
    (firmwareVersion : String) :
    Published i.appState
      (i.onChallenge cr deviceId challengeData firmwareVersion).2.appState := by
  unfold onChallenge
  cases hdevice : i.appState.connectedDevice with
  | none => simpa only [hdevice] using published_refl _
  | some device =>
    exact .inr ⟨.challenge firmwareVersion, by simp [BleUpdate.apply, BleUpdate.devicesWritten,
      BleUpdate.deviceWritten, hdevice]⟩

/-- A notification makes one update at most. -/
theorem published_handleNotification (i : BleInterface SK) (deviceId : String)
    (n : ValueNotification) :
    Published i.appState (i.handleNotification cr pb deviceId n).2.appState := by
  unfold handleNotification
  split_ifs
  · exact published_refl _
  · cases unpackResponsePacket pb n.value with
    | error e => exact published_refl _
    | ok packet =>
      cases htype : pb.responseType packet.responseType with
      | none => simpa only [htype] using published_refl _
      | some type =>
        simp only [htype]
        cases type with
        | keepalive | peerKnown => exact published_refl _
        | peerUnknown => exact i.published_onPeerUnknown
        | challenge => exact i.published_onChallenge ..
        | serialData =>
          simp only
          split_ifs <;> exact published_refl _

end BleInterface

namespace BleTask

variable {SK PK : Type} {cr : Crates SK PK} {pb : Prost} {s t : BleTask SK} {a : BleAction SK}

/-- A step of the task makes one update at most. -/
theorem published_step (hcr : cr.Lawful) (hwf : WellFormed s.phase s.iface)
    (hm : Moves cr pb s a t) : Published s.iface.appState t.iface.appState := by
  cases hm with
  | putInput | putCommand | notify | notifyLost | endStream | subscribe | subscribeFails
  | openStream | openStreamFails => exact published_refl _
  | publish | publishNone => exact s.iface.published_publishConnected _
  | @idleCommand env cmd rest hphase hcmd =>
    have hkey := hwf.keyless (by rw [hphase]; rfl)
    cases cmd with
    | scanForDevices => simpa [BleTask.idleCommand] using s.iface.published_scan env.scan
    | connectToDevice device =>
      -- the device is published later, in a step of its own
      obtain ⟨-, happ⟩ := s.iface.connectBle_spec device env.connect
      rw [BleTask.idleCommand]
      rcases hconnect : s.iface.connectBle device env.connect with ⟨r, iface⟩
      rw [hconnect] at happ
      cases r with
      | ok u => exact .inl happ
      | error e => exact .inl (by simpa using happ)
    -- without an AES key the two sends end before they do anything
    | sendKeyboardInput text =>
      rw [BleTask.idleCommand, after_iface, BleInterface.sendKeyboardString,
        BleInterface.encryptAndSend_keyless hkey]
      exact published_refl _
    | sendMouseJiggle enable =>
      rw [BleTask.idleCommand, after_iface, BleInterface.sendMouseJiggle,
        BleInterface.encryptAndSend_keyless hkey]
      exact published_refl _
    | killService | disconnectDevice | pairDevice | updateSettings => exact published_refl _
  | @command env deviceId cmd =>
    obtain ⟨-, -, happ⟩ :=
      BleInterface.handleCommand_keeps hcr pb hwf.linked deviceId cmd env.pair env.send
    rw [after_iface]
    exact .inl happ
  | @greet write =>
    obtain ⟨values, hgreet, -⟩ := BleInterface.greet_spec cr pb hwf.linked write
    rw [after_iface, hgreet]
    exact published_refl _
  | @recvInput envs deviceId event =>
    obtain ⟨values, hevent, -⟩ := BleInterface.handleInputEvent_spec hcr pb hwf.linked event envs
    rw [after_iface, hevent]
    exact published_refl _
  | recvNotification =>
    rw [after_iface]
    exact s.iface.published_handleNotification ..

end BleTask

/-! ## The connected device in `run` -/

/-- The notification is a `PeerKnown` response. -/
def isPeerKnown (pb : Prost) (n : ValueNotification) : Bool :=
  n.uuid = hidSemaphoreCharacteristicUuid &&
    match unpackResponsePacket pb n.value with
    | .error _ => false
    | .ok packet => pb.responseType packet.responseType = some .peerKnown

namespace BleInterface

variable {SK PK : Type}

/-- A notification panics exactly as a `PeerKnown`, or as a challenge without a connected
device. -/
theorem handleNotification_panics_iff (cr : Crates SK PK) (pb : Prost) (i : BleInterface SK)
    (deviceId : String) (n : ValueNotification) :
    (i.handleNotification cr pb deviceId n).1 =
      if isPeerKnown pb n = true ∨
          (challengeOf pb n).isSome = true ∧ i.appState.connectedDevice = none then
        .error .panic
      else .ok () := by
  unfold handleNotification isPeerKnown challengeOf
  by_cases huuid : n.uuid = hidSemaphoreCharacteristicUuid
  · cases hunpack : unpackResponsePacket pb n.value with
    | error e => simp [huuid]
    | ok packet =>
      cases htype : pb.responseType packet.responseType with
      | none => simp [huuid, htype]
      | some type =>
        cases type with
        | keepalive | peerUnknown | peerKnown => simp [huuid, htype]
        | serialData =>
          by_cases hempty : packet.serialData = "" <;> simp [huuid, htype, hempty]
        | challenge =>
          -- `on_challenge` unwraps the connected device
          cases hdevice : i.appState.connectedDevice <;>
            simp [huuid, htype, onChallenge, hdevice]
  · simp [huuid]

end BleInterface

namespace BleTask

variable {SK PK : Type} {cr : Crates SK PK} {pb : Prost} {s t : BleTask SK} {a : BleAction SK}

/-- In `run` a device is published as connected. -/
def Connected (s : BleTask SK) : Prop :=
  s.phase.runId.isSome = true → s.iface.appState.connectedDevice.isSome = true

/-- `run` is entered with a device published, and the task keeps it published. -/
theorem connected_step (hcr : cr.Lawful) (hwf : WellFormed s.phase s.iface)
    (h : s.Connected) (hm : Moves cr pb s a t) : t.Connected := by
  have hpublished := published_step hcr hwf hm
  have hkeeps : s.phase.runId.isSome = true → t.Connected :=
    fun hrun _ => hpublished.connectedDevice_isSome (h hrun)
  cases hm with
  | putInput | putCommand | notify | notifyLost | endStream =>
    exact fun hrun => h hrun
  | command hphase | subscribe hphase | openStream hphase | recvInput hphase
  | recvNotification hphase => exact hkeeps (by rw [hphase]; rfl)
  -- the one step that enters `run`
  | publish => exact fun _ => rfl
  | publishNone | subscribeFails | openStreamFails => exact nofun
  | @idleCommand env cmd rest hphase =>
    intro hrun
    rw [(idleStep_keeps cr pb hwf hphase cmd rest env).runId] at hrun
    cases hrun
  | greet hphase =>
    intro hrun
    rcases s.after_phase _ _ with hnext | hnext
    · rw [hnext] at hrun
      cases hrun
    · rw [hnext] at hrun
      cases hrun

end BleTask

end ToothPaste
