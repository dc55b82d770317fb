import ToothPaste.Ble.Task
import ToothPaste.Storage.Refinement

/-!
# A concrete device

One device with everything it answers, to evaluate closed runs of the BLE task on: it advertises
the service, has the three characteristics and the MAC address `a1`. `connectRun` brings the task
from its start into the loop of `run` for it.
-/

namespace ToothPaste

namespace Sample

/-- Stand-ins for the generated encoders: the parts of a packet one after the other, and a
response as its type, its challenge and an empty text. -/
def prost : Prost where
  encodeDataPacket packet :=
    (match packet.packetId with
      | .dataPacket => 0
      | .authPacket => 1) :: (packet.iv ++ packet.encryptedData ++ packet.tag)
  encodeEncryptedData payload :=
    match payload.packetData with
    | some (.keyboardPacket _ message) => message.toUTF8.data.toList
    | some (.keycodePacket _ code) => code
    | _ => []
  decodeResponsePacket
    | [] => .error "buffer underflow"
    | type :: challengeData => .ok ⟨type.toNat, challengeData, "1.0.0", ""⟩
  responseType type :=
    if type = 0 then some .keepalive
    else if type = 1 then some .peerUnknown
    else if type = 2 then some .peerKnown
    else if type = 3 then some .challenge
    else if type = 4 then some .serialData
    else none

/-- The device as a scan shows it. -/
def device : Device where
  name := "ToothPaste"
  address := "00:00:00:00:00:A1"
  id := ""
  state := .disconnected
  signalStrength := -40

/-- What the device advertises. -/
def properties : Properties where
  localName := some "ToothPaste"
  address := "00:00:00:00:00:A1"
  rssi := some (-40)
  services := [serviceUuid]

/-- A scan that finds the device. -/
def scanEnv : ScanEnv where
  startScan := .ok ()
  peripherals := .ok [⟨0⟩]
  properties _ := .ok (some properties)

/-- A connection attempt that succeeds. -/
def connectEnv : ConnectEnv where
  properties _ := .ok (some properties)
  parseAddress address := .ok address
  isConnected _ := .ok false
  connect _ := .ok ()
  discoverServices _ := .ok ()
  services _ _ := [⟨serviceUuid, [⟨packetCharacteristicUuid⟩, ⟨hidSemaphoreCharacteristicUuid⟩,
    ⟨macAddressCharacteristicUuid⟩]⟩]
  readMac _ := .ok [0xA1]

/-- A nonce. -/
def nonce : ByteArr 12 := List.Vector.replicate 12 7

/-- A command whose calls all succeed, with the private key a pairing draws. -/
def commandEnv (privateKey : UInt8) : CommandEnv UInt8 where
  scan := scanEnv
  connect := connectEnv
  pair := ⟨privateKey, ⟨nonce, .completes⟩, .ok ()⟩
  send := ⟨nonce, .ok ()⟩

/-- A command whose store calls succeed and whose BLE writes fail. -/
def failingWriteEnv (privateKey : UInt8) : CommandEnv UInt8 where
  scan := scanEnv
  connect := connectEnv
  pair := ⟨privateKey, ⟨nonce, .completes⟩, .error "Not connected"⟩
  send := ⟨nonce, .error "Not connected"⟩

/-- A notification of the device. -/
def notification (type : UInt8) (challengeData : Bytes) : ValueNotification where
  uuid := hidSemaphoreCharacteristicUuid
  value := type :: challengeData

/-- The base64 text of a compressed point, as the client sends it. -/
def pubKeyText (x : UInt8) : String := Base64.encodeText (compressed x).toList

/-- The task in its initial state, on an empty store. -/
def startTask : BleTask UInt8 :=
  BleTask.start (StorageService.empty sampleCrates (pad32 [1]) none)

/-- The task in its initial state, on a store with a session of the device. -/
def startPaired : BleTask UInt8 :=
  BleTask.start (EcdhContext.pairNewDevice sampleCrates
    (EcdhContext.new (StorageService.empty sampleCrates (pad32 [1]) none)) (compressed 3) "a1" 5
    ⟨nonce, .completes⟩).2.storage

/-- Scan, connect and greet. -/
def greetRun : List (BleAction UInt8) :=
  [.putCommand .scanForDevices, .recvCommand (commandEnv 5),
    .putCommand (.connectToDevice device), .recvCommand (commandEnv 5), .greet (.ok ())]

/-- From the greeting into the loop of `run`. -/
def subscribeRun : List (BleAction UInt8) :=
  [.publish, .subscribe (.ok ()), .openStream (.ok ())]

/-- Scan and connect, into the loop of `run`. -/
def connectRun : List (BleAction UInt8) := greetRun ++ subscribeRun

/-- A `PairDevice` command is put in the channel and handled. -/
def pairRun (x privateKey : UInt8) : List (BleAction UInt8) :=
  [.putCommand (.pairDevice device (pubKeyText x)), .recvCommand (commandEnv privateKey)]

/-- A challenge is emitted and handled. -/
def challengeRun (challengeData : Bytes) : List (BleAction UInt8) :=
  [.notify (notification 3 challengeData), .recvNotification]

/-- A key report from the client. -/
def keycode : InputEvent := .keycode [0x80, 0, 0, 0, 0, 0x61, 0, 0]

/-- Writes that all succeed. -/
def sendEnvs (_ : ℕ) : SendEnv := ⟨nonce, .ok ()⟩

/-- A key report is put in the channel and taken. -/
def inputRun : List (BleAction UInt8) := [.putInput keycode, .recvInput sendEnvs]

end Sample

end ToothPaste
