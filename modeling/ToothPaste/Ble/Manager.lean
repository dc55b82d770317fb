import ToothPaste.Proto.Packets

/-!
# The BLE transport

`BleManager` of `modules/ble/mod.rs`: discovery of devices, connection with its retries, and the
writes to the packet characteristic. What the adapter and the peripherals answer is the argument
of each function (`ScanEnv`, `ConnectEnv`, the result of a write). Every value handed to a write
is recorded, whether the write succeeds or not.
-/

namespace ToothPaste

/-- How a call ends that does not return `Ok`: with an `Err`, with a panic of its task, or with
the process. -/
inductive Fault where
  | err (message : String)
  | panic
  | exit
  deriving DecidableEq, Repr

/-- A UUID as the number its digits spell. -/
abbrev Uuid := ℕ

/-- `SERVICE_UUID`. -/
def serviceUuid : Uuid := 0x19b10000e8f2537e4f6cd104768a1214

/-- `PACKET_CHARACTERISTIC_UUID`. -/
def packetCharacteristicUuid : Uuid := 0x6856e1192c7b455abf42cf7ddd2c5907

/-- `HID_SEMAPHORE_CHARACTERISTIC_UUID`. -/
def hidSemaphoreCharacteristicUuid : Uuid := 0x6856e1192c7b455abf42cf7ddd2c5908

/-- `MAC_ADDRESS_CHARACTERISTIC_UUID`. -/
def macAddressCharacteristicUuid : Uuid := 0x19b10002e8f2537e4f6cd104768a1214

/-- `btleplug::api::Characteristic`. -/
structure Characteristic where
  uuid : Uuid
  deriving DecidableEq

/-- `btleplug::api::Service`. -/
structure GattService where
  uuid : Uuid
  characteristics : List Characteristic
  deriving DecidableEq

/-- A handle on a peripheral. -/
structure Peripheral where
  handle : ℕ
  deriving DecidableEq

/-- The properties a peripheral advertises; the address as it is displayed. -/
structure Properties where
  localName : Option String
  address : String
  rssi : Option ℤ
  services : List Uuid
  deriving DecidableEq

/-- `CachedPeripheral`. -/
structure CachedPeripheral where
  packetChar : Characteristic
  semaphoreChar : Characteristic
  macChar : Characteristic
  deriving DecidableEq

/-- `BleManager`, with the values written to the packet characteristic so far. -/
structure BleManager where
  foundPeripherals : List Peripheral
  connectedPeripherial : Option Peripheral
  cachedPeripheral : Option CachedPeripheral
  /-- Every value handed to `write` of the packet characteristic, oldest first. -/
  written : List Bytes
  deriving DecidableEq

/-- What the adapter answers to one scan. -/
structure ScanEnv where
  startScan : Except String Unit
  peripherals : Except String (List Peripheral)
  properties : Peripheral → Except String (Option Properties)

/-- What each peripheral answers in one connection attempt. -/
structure ConnectEnv where
  properties : Peripheral → Except String (Option Properties)
  /-- `device.address.parse()`, as the address is displayed. -/
  parseAddress : String → Except String String
  isConnected : Peripheral → Except String Bool
  connect : Peripheral → Except String Unit
  discoverServices : Peripheral → Except String Unit
  /-- `peripheral.services()` at each attempt of `get_service_with_retry`. -/
  services : Peripheral → ℕ → List GattService
  /-- The value of the MAC address characteristic. -/
  readMac : Peripheral → Except String Bytes

/-- `format!("{:02x}", b)`. -/
def hexByte (b : UInt8) : String :=
  String.ofList [Nat.digitChar (b.toNat / 16), Nat.digitChar (b.toNat % 16)]

/-- The MAC address as a string of hexadecimal digits. -/
def macString (macData : Bytes) : String :=
  macData.foldl (fun text b => text ++ hexByte b) ""

/-- The retry loop of `get_service_with_retry` and `get_characteristic_with_retry`: look again,
up to `remaining` times, for what is `named`. -/
def findWithRetry {α : Type} (named : String) (find : ℕ → Option α) :
    ℕ → ℕ → Except String α
  | _, 0 => .error (named ++ " not found after retries")
  | attempt, remaining + 1 =>
    match find attempt with
    | some a => .ok a
    | none =>
      if remaining = 0 then .error (named ++ " not found")
      else findWithRetry named find (attempt + 1) remaining

/-- `get_service_with_retry`. -/
def getServiceWithRetry (services : ℕ → List GattService) (uuid : Uuid) :
    Except String GattService :=
  findWithRetry "Service" (fun attempt => (services attempt).find? (·.uuid = uuid)) 0 3

/-- `get_characteristic_with_retry`. The service is not read again between attempts. -/
def getCharacteristicWithRetry (service : GattService) (uuid : Uuid) :
    Except String Characteristic :=
  findWithRetry "Characteristic" (fun _ => service.characteristics.find? (·.uuid = uuid)) 0 3

/-- The characteristics `ble_connect_toothpaste` looks up once a peripheral is connected: the one
that is remembered as connected discovers its services, and the one that was asked for is
searched. -/
def discoverCharacteristics (env : ConnectEnv) (connected peripheral : Peripheral) :
    Except String CachedPeripheral := do
  env.discoverServices connected
  let service ← getServiceWithRetry (env.services peripheral) serviceUuid
  let packetChar ← getCharacteristicWithRetry service packetCharacteristicUuid
  let semaphoreChar ← getCharacteristicWithRetry service hidSemaphoreCharacteristicUuid
  let macChar ← getCharacteristicWithRetry service macAddressCharacteristicUuid
  return { packetChar, semaphoreChar, macChar }

/-- The first peripheral found whose address is the device's. Peripherals whose properties cannot
be read are passed over, an address that does not parse ends the search. -/
def findPeripheral (env : ConnectEnv) (address : String) :
    List Peripheral → Except String (Option Peripheral)
  | [] => .ok none
  | p :: rest =>
    match env.properties p with
    | .ok (some props) =>
      match env.parseAddress address with
      | .error e => .error e
      | .ok parsed =>
        if props.address = parsed then .ok (some p) else findPeripheral env address rest
    | _ => findPeripheral env address rest

namespace BleManager

/-- `BleManager::new`, once an adapter is found. -/
def new : BleManager where
  foundPeripherals := []
  connectedPeripherial := none
  cachedPeripheral := none
  written := []

/-- The device shown for a peripheral with these properties. -/
def discoveredDevice (props : Properties) : Device where
  name := props.localName.getD ""
  address := props.address
  id := ""
  state := .disconnected
  signalStrength := props.rssi.getD (-100)

/-- The loop of `ble_discover_toothpaste`. An error leaves the peripherals found before it. -/
def discoverLoop (env : ScanEnv) (m : BleManager) (discovered : List Device) :
    List Peripheral → Except Fault (List Device) × BleManager
  | [] => (.ok discovered, m)
  | p :: rest =>
    match env.properties p with
    | .error e => (.error (.err e), m)
    | .ok none => discoverLoop env m discovered rest
    | .ok (some props) =>
      if serviceUuid ∈ props.services then
        discoverLoop env { m with foundPeripherals := m.foundPeripherals ++ [p] }
          (discovered ++ [discoveredDevice props]) rest
      else discoverLoop env m discovered rest

/-- `ble_discover_toothpaste`. -/
def bleDiscoverToothpaste (m : BleManager) (env : ScanEnv) :
    Except Fault (List Device) × BleManager :=
  match env.startScan with
  -- `expect("Failed to start scan")`
  | .error _ => (.error .panic, m)
  | .ok () =>
    match env.peripherals with
    | .error e => (.error (.err e), m)
    | .ok peripherals => discoverLoop env m [] peripherals

/-- Connect to a peripheral that is not connected yet. -/
def linkPeripheral (m : BleManager) (peripheral : Peripheral) (env : ConnectEnv) :
    Except String Unit × BleManager :=
  match env.isConnected peripheral with
  | .error e => (.error e, m)
  -- a peripheral that is connected already is not remembered
  | .ok true => (.ok (), m)
  | .ok false =>
    match env.connect peripheral with
    | .ok () => (.ok (), { m with connectedPeripherial := some peripheral })
    | .error _ => (.error "Connection failed", m)

/-- `ble_connect_toothpaste`: returns the MAC address of the device. -/
def bleConnectToothpaste (m : BleManager) (device : Device) (env : ConnectEnv) :
    Except Fault String × BleManager :=
  match findPeripheral env device.address m.foundPeripherals with
  | .error e => (.error (.err e), m)
  | .ok none => (.error (.err "Peripheral not found"), m)
  | .ok (some peripheral) =>
    match m.linkPeripheral peripheral env with
    | (.error e, m) => (.error (.err e), m)
    | (.ok (), m) =>
      match m.connectedPeripherial with
      -- `unwrap`
      | none => (.error .panic, m)
      | some connected =>
        match discoverCharacteristics env connected peripheral with
        | .error e => (.error (.err e), m)
        | .ok cached =>
          match env.readMac connected with
          | .error e => (.error (.err e), m)
          | .ok macData => (.ok (macString macData), { m with cachedPeripheral := some cached })

/-- The write all `ble_send_*` functions end in, with its outcome. -/
def writePacket (m : BleManager) (data : Bytes) (write : Except String Unit) :
    Except Fault Unit × BleManager :=
  match m.cachedPeripheral with
  | none => (.error (.err "No cached peripheral"), m)
  | some _ =>
    match m.connectedPeripherial with
    -- `unwrap`
    | none => (.error .panic, m)
    -- a write without response is on its way even when it is reported as failed
    | some _ => (write.mapError Fault.err, { m with written := m.written ++ [data] })

/-- `ble_send_unencrypted`. -/
def bleSendUnencrypted (m : BleManager) (pb : Prost) (data : String) (write : Except String Unit) :
    Except Fault Unit × BleManager :=
  m.writePacket (createUnencryptedPacket pb data) write

/-- `ble_send_encrypted`. -/
def bleSendEncrypted (m : BleManager) (data : Bytes) (write : Except String Unit) :
    Except Fault Unit × BleManager :=
  m.writePacket data write

/-- The first half of `subscribe_notifications`: subscribe to the semaphore characteristic. -/
def subscribeSemaphore (m : BleManager) (subscribe : Except String Unit) : Except String Unit :=
  match m.connectedPeripherial with
  | none => .error "Not connected"
  | some _ =>
    match m.cachedPeripheral with
    | none => .error "No cached peripheral"
    | some _ => subscribe

end BleManager

end ToothPaste
