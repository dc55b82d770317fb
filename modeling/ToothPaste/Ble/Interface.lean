import ToothPaste.Ble.Manager
import ToothPaste.Crypto.Context
import ToothPaste.Input.Event

/-!
# The BLE interface

`BLEInterface` and `InternalHandler` of `modules/ble/interface.rs`: scanning, the parts of
`connect_to_device`, and one handler for each branch of the loop in `run`. A handler runs from
taking its item to the next `select!`; in between the BLE task owns everything it touches.

`app_state_channel_tx.send_modify` changes the published state in place, so that the published
state is a field here. Errors that the service only prints are dropped by `reported`.
-/

namespace ToothPaste

/-- `BLEInterface`, with the state its watch channel publishes. -/
structure BleInterface (SK : Type) where
  ble : BleManager
  ecdh : EcdhContext SK
  deviceId : Option String
  appState : AppState
  serialBuffer : List String

/-- The nonce and the outcome of one encrypted write. -/
structure SendEnv where
  nonce : ByteArr 12
  write : Except String Unit

/-- The draws and outcomes of one pairing. -/
structure PairEnv (SK : Type) where
  privateKey : SK
  save : SaveEnv
  write : Except String Unit

/-- `btleplug::api::ValueNotification`. -/
structure ValueNotification where
  uuid : Uuid
  value : Bytes
  deriving DecidableEq

/-- `if let Err(e) = … { eprintln!(…) }`: an error is printed and dropped, a panic is not. -/
def reported {σ : Type} : Except Fault Unit × σ → Except Fault Unit × σ
  | (.error (.err _), s) => (.ok (), s)
  | r => r

/-! ## Payloads of input events -/

/-- `char::is_ascii_graphic`. -/
def isAsciiGraphic (c : Char) : Bool := 0x21 ≤ c.toNat && c.toNat ≤ 0x7E

/-- The clipboard text that is sent. -/
def sanitizeClipboard (text : String) : String :=
  String.ofList ((trim text).filter fun c => isAsciiGraphic c || c == ' ')

/-- The left and right buttons a press reports. -/
def pressedButtons : Button → Bool × Bool
  | .left => (true, false)
  | .right => (false, true)
  | _ => (false, false)

/-- The payloads an input event is sent as, in order: those of `send_mouse`,
`send_keyboard_string`, `send_keyboard_stream`, `send_keycode` and `send_consumer_control` in the
input branch of `run`. -/
def inputPayloads : InputEvent → List EncryptedData
  | .rdevEvent event =>
    match event.eventType with
    | .mouseMove x y => [createMousePacket x y false false 0]
    | .buttonPress button =>
      [createMousePacket 0 0 (pressedButtons button).1 (pressedButtons button).2 0]
    | .buttonRelease _ => [createMousePacket 0 0 false false 0]
    | .wheel _ deltaY => [createMousePacket 0 0 false false (asI32 deltaY)]
    | .keyPress _ | .keyRelease _ =>
      match event.name with
      | some key => [createKeyboardPacket key]
      | none => []
  -- an empty text has no chunks, so that nothing is sent for it
  | .clipboard text => createKeyboardStream (sanitizeClipboard text)
  | .keycode codes => [createKeycodePacket codes]
  | .consumerControl code => [createConsumerControlPacket code]

/-- `decode` and `try_into` of the key in a `PairDevice` command. -/
def parsePubKey {SK PK : Type} (cr : Crates SK PK) (pubKey : String) : Option (ByteArr 33) :=
  match cr.base64Decode pubKey with
  | .error _ => none
  | .ok bytes => tryInto 33 bytes

/-- The `DataPacket` around `nonce ‖ ciphertext ‖ tag`. -/
def dataPacketOf (encrypted : Bytes) : DataPacket :=
  let tagStart := encrypted.length - 16
  { packetId := .dataPacket
    packetNumber := 1
    totalPackets := 1
    slowMode := true
    iv := encrypted.take 12
    dataLen := asU32 (tagStart - 12)
    encryptedData := (encrypted.take tagStart).drop 12
    tag := encrypted.drop tagStart }

namespace BleInterface

variable {SK PK : Type} (cr : Crates SK PK) (pb : Prost)

/-- `BLEInterface::new`, and the state `main` creates the watch channel with. -/
def new (storage : StorageService) : BleInterface SK where
  ble := BleManager.new
  ecdh := EcdhContext.new storage
  deviceId := none
  appState := AppState.initial
  serialBuffer := []

/-! ## Sending -/

/-- `self.ble.ble_send_unencrypted`. -/
def sendUnencrypted (i : BleInterface SK) (data : String) (write : Except String Unit) :
    Except Fault Unit × BleInterface SK :=
  let (result, ble) := i.ble.bleSendUnencrypted pb data write
  (result, { i with ble })

/-- `encrypt_and_send`. -/
def encryptAndSend (i : BleInterface SK) (payload : EncryptedData) (env : SendEnv) :
    Except Fault Unit × BleInterface SK :=
  match i.ecdh.encryptBytes cr (pb.encodeEncryptedData payload) env.nonce with
  | .error e => (.error (.err e), i)
  | .ok encrypted =>
    let (result, ble) :=
      i.ble.bleSendEncrypted (pb.encodeDataPacket (dataPacketOf encrypted)) env.write
    (result, { i with ble })

/-- `encrypt_and_send` for one payload after the other, up to the first error. -/
def sendPayloads (i : BleInterface SK) :
    List EncryptedData → (ℕ → SendEnv) → Except Fault Unit × BleInterface SK
  | [], _ => (.ok (), i)
  | payload :: payloads, envs =>
    match encryptAndSend cr pb i payload (envs 0) with
    | (.error e, i) => (.error e, i)
    | (.ok (), i) => sendPayloads i payloads fun n => envs (n + 1)

/-- `send_keyboard_string`. -/
def sendKeyboardString (i : BleInterface SK) (text : String) (env : SendEnv) :
    Except Fault Unit × BleInterface SK :=
  encryptAndSend cr pb i (createKeyboardPacket text) env

/-- `send_mouse_jiggle`. -/
def sendMouseJiggle (i : BleInterface SK) (enable : Bool) (env : SendEnv) :
    Except Fault Unit × BleInterface SK :=
  encryptAndSend cr pb i (createMouseJigglePacket enable) env

/-! ## Setup -/

/-- `scan`. -/
def scan (i : BleInterface SK) (env : ScanEnv) : Except Fault (List Device) × BleInterface SK :=
  match i.ble.bleDiscoverToothpaste env with
  | (.error e, ble) => (.error e, { i with ble })
  | (.ok devices, ble) =>
    (.ok devices, { i with ble, appState := { i.appState with devices } })

/-- `connect_to_device` up to `self.device_id = Some(mac)`. -/
def connectBle (i : BleInterface SK) (device : Device) (env : ConnectEnv) :
    Except Fault Unit × BleInterface SK :=
  match i.ble.bleConnectToothpaste device env with
  -- the device id stays that of an earlier connection
  | (.error e, ble) => (.error e, { i with ble })
  | (.ok mac, ble) => (.ok (), { i with ble, deviceId := some mac })

/-- `is_device_known`. -/
def isDeviceKnown (i : BleInterface SK) : Bool :=
  match i.deviceId with
  | none => false
  | some id => i.ecdh.hasSession id

/-- `send_public_key`. -/
def sendPublicKey (i : BleInterface SK) (write : Except String Unit) :
    Except Fault Unit × BleInterface SK :=
  match i.deviceId with
  | none => (.error (.err "no connected device"), i)
  | some id =>
    match i.ecdh.getStoredPublicKey cr id with
    | .error e => (.error (.err e), i)
    | .ok pubKey => i.sendUnencrypted pb (cr.base64Encode pubKey.toList) write

/-- `connect_to_device` between `self.device_id = Some(mac)` and the update of the published
state: the stored public key is sent to a device that is already paired. -/
def greet (i : BleInterface SK) (write : Except String Unit) :
    Except Fault Unit × BleInterface SK :=
  if i.isDeviceKnown then reported (sendPublicKey cr pb i write) else (.ok (), i)

/-- The last part of `connect_to_device`: publish the device as connected. -/
def publishConnected (i : BleInterface SK) (device : Device) : BleInterface SK :=
  { i with appState := { i.appState with
    connectedDevice := some { device with state := .connected .notAuthenticated "Unknown" } } }

/-! ## The branches of the loop in `run` -/

/-- `on_peer_unknown`. -/
def onPeerUnknown (i : BleInterface SK) : BleInterface SK :=
  match i.appState.connectedDevice with
  | none => i
  | some device =>
    let firmwareVersion := match device.state with
      | .connected _ firmwareVersion => firmwareVersion
      | .disconnected => "Unknown"
    { i with appState := { i.appState with
      connectedDevice := some { device with
        state := .connected .authenticationFailed firmwareVersion } } }

/-- `on_challenge`. The state is published as authenticated however `load_device_keys` ends. -/
def onChallenge (i : BleInterface SK) (deviceId : String) (challengeData : Bytes)
    (firmwareVersion : String) : Except Fault Unit × BleInterface SK :=
  let i := { i with ecdh := (i.ecdh.loadDeviceKeys cr deviceId challengeData).2 }
  match i.appState.connectedDevice with
  -- `unwrap`
  | none => (.error .panic, i)
  | some device =>
    (.ok (), { i with appState := { i.appState with
      connectedDevice := some { device with
        state := .connected (.authenticated "N/A" "N/A") firmwareVersion } } })

/-- The notification branch. -/
def handleNotification (i : BleInterface SK) (deviceId : String) (n : ValueNotification) :
    Except Fault Unit × BleInterface SK :=
  if n.uuid ≠ hidSemaphoreCharacteristicUuid then (.ok (), i)
  else
    match unpackResponsePacket pb n.value with
    -- what does not decode is printed and passed over
    | .error _ => (.ok (), i)
    | .ok packet =>
      match pb.responseType packet.responseType with
      | some .keepalive => (.ok (), i)
      | some .peerUnknown => (.ok (), i.onPeerUnknown)
      -- `unimplemented!`
      | some .peerKnown => (.error .panic, i)
      | some .challenge =>
        onChallenge cr i deviceId packet.challengeData packet.firmwareVersion
      | some .serialData =>
        if packet.serialData = "" then (.ok (), i)
        else (.ok (), { i with serialBuffer := i.serialBuffer ++ [packet.serialData] })
      | none => (.ok (), i)

/-- The input branch. -/
def handleInputEvent (i : BleInterface SK) (event : InputEvent) (envs : ℕ → SendEnv) :
    Except Fault Unit × BleInterface SK :=
  reported (sendPayloads cr pb i (inputPayloads event) envs)

/-- `PairDevice` in the command branch. -/
def handlePairDevice (i : BleInterface SK) (deviceId pubKey : String) (env : PairEnv SK) :
    Except Fault Unit × BleInterface SK :=
  match parsePubKey cr pubKey with
  | none => (.ok (), i)
  | some bytes =>
    match i.ecdh.pairNewDevice cr bytes deviceId env.privateKey env.save with
    -- whatever the failed pairing has changed stays
    | (.error _, ecdh) => (.ok (), { i with ecdh })
    | (.ok ourKey, ecdh) =>
      reported (sendUnencrypted pb { i with ecdh } (cr.base64Encode ourKey.toList) env.write)

/-- The command branch. -/
def handleCommand (i : BleInterface SK) (deviceId : String) (cmd : AppCommand)
    (pairEnv : PairEnv SK) (sendEnv : SendEnv) : Except Fault Unit × BleInterface SK :=
  match cmd with
  | .pairDevice _ pubKey => handlePairDevice cr pb i deviceId pubKey pairEnv
  | .sendKeyboardInput text => reported (sendKeyboardString cr pb i text sendEnv)
  | .sendMouseJiggle enable => reported (sendMouseJiggle cr pb i enable sendEnv)
  | .killService => (.error .exit, i)
  -- scans, connections and settings are taken from the channel and dropped
  | _ => (.ok (), i)

end BleInterface

end ToothPaste
