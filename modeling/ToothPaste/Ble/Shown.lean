import ToothPaste.Ble.Steps

/-!
# What clients are shown

The published state and the serial buffer, as far as a step of the BLE task changes them. Sending,
connecting and pairing leave both alone (`KeepsShown`).

* `serialBuffer_step`: a step adds the line that `run` receives in it to the buffer.
* `connectedAddress_step`: the address of the device published as connected changes only where
  `connect_to_device` publishes its device.
-/

namespace ToothPaste

/-- The line a notification brings. -/
def serialLine (pb : Prost) (n : ValueNotification) : Option String :=
  if n.uuid ≠ hidSemaphoreCharacteristicUuid then none
  else
    match unpackResponsePacket pb n.value with
    | .error _ => none
    | .ok packet =>
      if pb.responseType packet.responseType = some .serialData ∧ packet.serialData ≠ "" then
        some packet.serialData
      else none

/-- The address of the device published as connected. -/
def AppState.connectedAddress (app : AppState) : Option String :=
  app.connectedDevice.map Device.address

namespace BleInterface

variable {SK PK : Type}

/-- `j` shows clients what `i` shows them. -/
structure KeepsShown (i j : BleInterface SK) : Prop where
  appState : j.appState = i.appState
  serialBuffer : j.serialBuffer = i.serialBuffer

/-- One call after another. -/
theorem KeepsShown.trans {i j k : BleInterface SK} (h : KeepsShown i j) (h' : KeepsShown j k) :
    KeepsShown i k :=
  ⟨h'.appState.trans h.appState, h'.serialBuffer.trans h.serialBuffer⟩

variable (cr : Crates SK PK) (pb : Prost) (i : BleInterface SK)

/-- Sending a payload shows nothing new. -/
theorem keepsShown_encryptAndSend (payload : EncryptedData) (env : SendEnv) :
    KeepsShown i (i.encryptAndSend cr pb payload env).2 := by
  unfold encryptAndSend
  cases i.ecdh.encryptBytes cr (pb.encodeEncryptedData payload) env.nonce <;> exact ⟨rfl, rfl⟩

/-- Nor does sending several. -/
theorem keepsShown_sendPayloads (payloads : List EncryptedData) (envs : ℕ → SendEnv) :
    KeepsShown i (i.sendPayloads cr pb payloads envs).2 := by
  induction payloads generalizing i envs with
  | nil => exact ⟨rfl, rfl⟩
  | cons payload payloads ih =>
    have hone := i.keepsShown_encryptAndSend cr pb payload (envs 0)
    rw [sendPayloads]
    rcases hsend : i.encryptAndSend cr pb payload (envs 0) with ⟨r, j⟩
    rw [hsend] at hone
    cases r with
    | error e => exact hone
    | ok u => exact hone.trans (ih j _)

/-- An input event shows nothing new. -/
theorem keepsShown_handleInputEvent (event : InputEvent) (envs : ℕ → SendEnv) :
    KeepsShown i (i.handleInputEvent cr pb event envs).2 := by
  rw [handleInputEvent, reported_snd]
  exact i.keepsShown_sendPayloads cr pb _ envs

/-- An attempt to connect shows nothing new. -/
theorem keepsShown_connectBle (device : Device) (env : ConnectEnv) :
    KeepsShown i (i.connectBle device env).2 := by
  unfold connectBle
  rcases i.ble.bleConnectToothpaste device env with ⟨r, ble⟩
  cases r <;> exact ⟨rfl, rfl⟩

/-- A greeting shows nothing new. -/
theorem keepsShown_greet (write : Except String Unit) : KeepsShown i (i.greet cr pb write).2 := by
  unfold greet
  split_ifs
  · rw [reported_snd, sendPublicKey]
    cases i.deviceId with
    | none => exact ⟨rfl, rfl⟩
    | some id =>
      dsimp only
      cases i.ecdh.getStoredPublicKey cr id <;> exact ⟨rfl, rfl⟩
  · exact ⟨rfl, rfl⟩

/-- A pairing shows nothing new. -/
theorem keepsShown_handlePairDevice (deviceId pubKey : String) (env : PairEnv SK) :
    KeepsShown i (i.handlePairDevice cr pb deviceId pubKey env).2 := by
  unfold handlePairDevice
  cases parsePubKey cr pubKey with
  | none => exact ⟨rfl, rfl⟩
  | some bytes =>
    dsimp only
    rcases i.ecdh.pairNewDevice cr bytes deviceId env.privateKey env.save with ⟨r, ecdh⟩
    cases r with
    | error e => exact ⟨rfl, rfl⟩
    | ok key =>
      rw [reported_snd]
      exact ⟨rfl, rfl⟩

/-- A command of the loop shows nothing new. -/
theorem keepsShown_handleCommand (deviceId : String) (cmd : AppCommand) (pairEnv : PairEnv SK)
    (sendEnv : SendEnv) :
    KeepsShown i (i.handleCommand cr pb deviceId cmd pairEnv sendEnv).2 := by
  cases cmd with
  | pairDevice device pubKey => exact i.keepsShown_handlePairDevice cr pb deviceId pubKey pairEnv
  | sendKeyboardInput text =>
    rw [handleCommand, reported_snd]
    exact i.keepsShown_encryptAndSend cr pb _ sendEnv
  | sendMouseJiggle enable =>
    rw [handleCommand, reported_snd]
    exact i.keepsShown_encryptAndSend cr pb _ sendEnv
  | scanForDevices | connectToDevice | disconnectDevice | updateSettings | killService =>
    exact ⟨rfl, rfl⟩

/-- A scan publishes devices. -/
theorem shown_scan (env : ScanEnv) :
    (i.scan env).2.serialBuffer = i.serialBuffer ∧
      (i.scan env).2.appState.connectedDevice = i.appState.connectedDevice := by
  unfold scan
  rcases i.ble.bleDiscoverToothpaste env with ⟨r, ble⟩
  cases r <;> exact ⟨rfl, rfl⟩

/-- A notification adds the line it brings, and publishes no other device. -/
theorem shown_handleNotification (deviceId : String) (n : ValueNotification) :
    (i.handleNotification cr pb deviceId n).2.serialBuffer =
      i.serialBuffer ++ (serialLine pb n).toList ∧
    (i.handleNotification cr pb deviceId n).2.appState.connectedAddress =
      i.appState.connectedAddress := by
  unfold handleNotification serialLine AppState.connectedAddress
  split_ifs with huuid
  · simp
  · cases hunpack : unpackResponsePacket pb n.value with
    | error e => simp
    | ok packet =>
      cases htype : pb.responseType packet.responseType with
      | none => simp [htype]
      | some type =>
        cases type with
        | keepalive | peerKnown => simp [htype]
        | serialData => by_cases hempty : packet.serialData = "" <;> simp [htype, hempty]
        | peerUnknown => cases hdevice : i.appState.connectedDevice <;>
            simp [htype, onPeerUnknown, hdevice]
        | challenge => cases hdevice : i.appState.connectedDevice <;>
            simp [htype, onChallenge, hdevice]

end BleInterface

namespace BleTask

variable {SK PK : Type} {cr : Crates SK PK} {pb : Prost} {s t : BleTask SK} {a : BleAction SK}

/-- The line that `run` receives in a step. -/
def receivedLine (pb : Prost) (s : BleTask SK) (a : BleAction SK) : Option String :=
  match a, s.phase, s.notifications with
  | .recvNotification, .running _, n :: _ => serialLine pb n
  | _, _, _ => none

/-- The device that `connect_to_device` publishes in a step. -/
def connectedIn (s : BleTask SK) (a : BleAction SK) : Option Device :=
  match a, s.phase with
  | .publish, .publishing device => some device
  | _, _ => none

/-- A command taken by `ble_task` itself adds no line and publishes no connected device. -/
theorem shown_idleCommand (cmd : AppCommand) (env : CommandEnv SK) :
    (s.idleCommand cr pb cmd env).iface.serialBuffer = s.iface.serialBuffer ∧
      (s.idleCommand cr pb cmd env).iface.appState.connectedDevice =
        s.iface.appState.connectedDevice := by
  cases cmd with
  | scanForDevices =>
    rw [idleCommand, after_iface]
    exact s.iface.shown_scan env.scan
  | connectToDevice device =>
    have hconnect := s.iface.keepsShown_connectBle device env.connect
    rw [idleCommand]
    rcases heq : s.iface.connectBle device env.connect with ⟨r, iface⟩
    rw [heq] at hconnect
    cases r with
    | ok u => exact ⟨hconnect.serialBuffer, congrArg _ hconnect.appState⟩
    | error e =>
      rw [after_iface]
      exact ⟨hconnect.serialBuffer, congrArg _ hconnect.appState⟩
  | sendKeyboardInput text =>
    have hsend := s.iface.keepsShown_encryptAndSend cr pb (createKeyboardPacket text) env.send
    rw [idleCommand, after_iface]
    exact ⟨hsend.serialBuffer, congrArg _ hsend.appState⟩
  | sendMouseJiggle enable =>
    have hsend := s.iface.keepsShown_encryptAndSend cr pb (createMouseJigglePacket enable) env.send
    rw [idleCommand, after_iface]
    exact ⟨hsend.serialBuffer, congrArg _ hsend.appState⟩
  | killService | disconnectDevice | pairDevice | updateSettings => exact ⟨rfl, rfl⟩

/-- A step adds the line that `run` receives in it. -/
theorem serialBuffer_step (hm : Moves cr pb s a t) :
    t.iface.serialBuffer = s.iface.serialBuffer ++ (receivedLine pb s a).toList := by
  cases hm with
  | recvNotification hphase hn =>
    rw [after_iface, (BleInterface.shown_handleNotification ..).1]
    simp only [receivedLine, hphase, hn]
  | idleCommand =>
    rw [(shown_idleCommand ..).1]
    exact (List.append_nil _).symm
  | command =>
    rw [after_iface, (BleInterface.keepsShown_handleCommand ..).serialBuffer]
    exact (List.append_nil _).symm
  | greet =>
    rw [after_iface, (BleInterface.keepsShown_greet ..).serialBuffer]
    exact (List.append_nil _).symm
  | recvInput =>
    rw [after_iface, (BleInterface.keepsShown_handleInputEvent ..).serialBuffer]
    exact (List.append_nil _).symm
  | putInput | putCommand | notify | notifyLost | endStream | publish | publishNone | subscribe
  | subscribeFails | openStream | openStreamFails => exact (List.append_nil _).symm

/-- A step that publishes a connected device publishes its address, and any other step keeps the
one that is published. -/
theorem connectedAddress_step (hm : Moves cr pb s a t) :
    t.iface.appState.connectedAddress =
      ((connectedIn s a).map Device.address).or s.iface.appState.connectedAddress := by
  cases hm with
  | publish hphase | publishNone hphase => simp only [connectedIn, hphase]; rfl
  | recvNotification =>
    rw [after_iface, (BleInterface.shown_handleNotification ..).2]
    rfl
  | idleCommand =>
    rw [AppState.connectedAddress, (shown_idleCommand ..).2]
    rfl
  | command =>
    rw [after_iface, (BleInterface.keepsShown_handleCommand ..).appState]
    rfl
  | greet =>
    rw [after_iface, (BleInterface.keepsShown_greet ..).appState]
    rfl
  | recvInput =>
    rw [after_iface, (BleInterface.keepsShown_handleInputEvent ..).appState]
    rfl
  | putInput | putCommand | notify | notifyLost | endStream | subscribe | subscribeFails
  | openStream | openStreamFails => rfl

end BleTask

end ToothPaste
