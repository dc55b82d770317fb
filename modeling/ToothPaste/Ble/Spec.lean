import ToothPaste.Ble.Interface
import ToothPaste.Crypto.Spec

/-!
# What the handlers do

One lemma for each function of the BLE interface.

* Sending only adds to what was written: `wrote`. An encrypted write is a `DataPacket` under the
  key of the active session (`sendPayloads_spec`), and no `unwrap` of a send panics while a cached
  peripheral is a connected one (`Linked`).
* Of the notifications only a challenge changes the keys (`handleNotification_challenge`,
  `handleNotification_other`).
* A pairing goes through its steps in order (`handlePairDevice_cases`).
-/

namespace ToothPaste

/-- The call leaves the task running: it neither panics nor ends the process. -/
def Survives (r : Except Fault Unit) : Prop := r ≠ .error .panic ∧ r ≠ .error .exit

theorem survives_ok : Survives (.ok ()) := by simp [Survives]

theorem survives_err (message : String) : Survives (.error (.err message)) := by
  simp [Survives]

/-- The outcome of a write is an error at worst. -/
theorem survives_mapError (write : Except String Unit) :
    Survives (write.mapError Fault.err) := by
  cases write <;> simp [Survives, Except.mapError]

@[simp]
theorem reported_snd {σ : Type} (r : Except Fault Unit × σ) : (reported r).2 = r.2 := by
  match r with
  | (.ok (), _) => rfl
  | (.error (.err _), _) => rfl
  | (.error .panic, _) => rfl
  | (.error .exit, _) => rfl

theorem reported_of_survives {σ : Type} {r : Except Fault Unit} {s : σ} (h : Survives r) :
    reported (r, s) = (.ok (), s) := by
  match r, h with
  | .ok (), _ => rfl
  | .error (.err _), _ => rfl
  | .error .panic, h => exact absurd rfl h.1
  | .error .exit, h => exact absurd rfl h.2

/-! ## Written values -/

variable {SK PK : Type} {cr : Crates SK PK} {pb : Prost}

/-- `value` is an `AuthPacket` with this public key. -/
def IsAuthPacket (cr : Crates SK PK) (pb : Prost) (publicKey : ByteArr 65) (value : Bytes) :
    Prop :=
  value = createUnencryptedPacket pb (cr.base64Encode publicKey.toList)

/-- `value` is a `DataPacket` whose `iv`, `encrypted_data` and `tag` are the AES-GCM encryption
of the encoded payload under the key. -/
def IsDataPacket (cr : Crates SK PK) (pb : Prost) (key : ByteArr 32) (payload : EncryptedData)
    (value : Bytes) : Prop :=
  ∃ (packet : DataPacket) (nonce : ByteArr 12), value = pb.encodeDataPacket packet ∧
    packet.packetId = .dataPacket ∧ packet.iv = nonce.toList ∧ packet.tag.length = 16 ∧
    cr.aesGcmEncrypt key nonce (pb.encodeEncryptedData payload) =
      some (packet.encryptedData ++ packet.tag)

/-- The parts `encrypt_and_send` cuts an encrypted payload into. -/
theorem dataPacketOf_append (nonce : ByteArr 12) {ciphertext : Bytes}
    (hlen : 16 ≤ ciphertext.length) :
    (dataPacketOf (nonce.toList ++ ciphertext)).iv = nonce.toList ∧
    (dataPacketOf (nonce.toList ++ ciphertext)).tag.length = 16 ∧
    (dataPacketOf (nonce.toList ++ ciphertext)).encryptedData ++
      (dataPacketOf (nonce.toList ++ ciphertext)).tag = ciphertext := by
  have hnonce : nonce.toList.length = 12 := nonce.toList_length
  have hcut : (nonce.toList ++ ciphertext).length - 16 = 12 + (ciphertext.length - 16) := by
    rw [List.length_append, hnonce]; omega
  refine ⟨List.take_left' hnonce, ?_, ?_⟩
  · simp only [dataPacketOf, List.length_drop, List.length_append, hnonce]; omega
  · simp only [dataPacketOf, hcut]
    rw [List.drop_take, List.drop_left' hnonce, ← List.drop_drop, List.drop_left' hnonce,
      Nat.add_sub_cancel_left, List.take_append_drop]

namespace BleInterface

/-- The interface after writing `values`. -/
def wrote (i : BleInterface SK) (values : List Bytes) : BleInterface SK :=
  { i with ble := { i.ble with written := i.ble.written ++ values } }

@[simp]
theorem wrote_ecdh (i : BleInterface SK) (values : List Bytes) :
    (i.wrote values).ecdh = i.ecdh := rfl

@[simp]
theorem wrote_deviceId (i : BleInterface SK) (values : List Bytes) :
    (i.wrote values).deviceId = i.deviceId := rfl

@[simp]
theorem wrote_appState (i : BleInterface SK) (values : List Bytes) :
    (i.wrote values).appState = i.appState := rfl

@[simp]
theorem wrote_written (i : BleInterface SK) (values : List Bytes) :
    (i.wrote values).ble.written = i.ble.written ++ values := rfl

@[simp]
theorem wrote_nil (i : BleInterface SK) : i.wrote [] = i := by
  simp [wrote]

theorem wrote_wrote (i : BleInterface SK) (values more : List Bytes) :
    (i.wrote values).wrote more = i.wrote (values ++ more) := by
  simp [wrote]

/-- A cached peripheral is a connected one. -/
def Linked (i : BleInterface SK) : Prop :=
  i.ble.cachedPeripheral.isSome = true → i.ble.connectedPeripherial.isSome = true

theorem Linked.wrote {i : BleInterface SK} (h : i.Linked) (values : List Bytes) :
    (i.wrote values).Linked := h

/-- `j` has the peripherals of `i`. -/
structure SamePeripherals (i j : BleInterface SK) : Prop where
  connected : j.ble.connectedPeripherial = i.ble.connectedPeripherial
  cached : j.ble.cachedPeripheral = i.ble.cachedPeripheral

theorem SamePeripherals.linked {i j : BleInterface SK} (h : SamePeripherals i j)
    (hlinked : i.Linked) : j.Linked := by
  rw [Linked, h.connected, h.cached]
  exact hlinked

theorem samePeripherals_of_ble {i j : BleInterface SK} (h : j.ble = i.ble) :
    SamePeripherals i j :=
  ⟨by rw [h], by rw [h]⟩

theorem samePeripherals_wrote (i : BleInterface SK) (values : List Bytes) :
    SamePeripherals i (i.wrote values) :=
  ⟨rfl, rfl⟩

/-- What one write leaves written: nothing before a connection is complete. -/
def attempted (i : BleInterface SK) (value : Bytes) : List Bytes :=
  if i.ble.cachedPeripheral.isSome then [value] else []

theorem mem_attempted {i : BleInterface SK} {value v : Bytes} (h : v ∈ i.attempted value) :
    v = value := by
  unfold attempted at h
  split_ifs at h <;> simp_all

theorem attempted_length (i : BleInterface SK) (value : Bytes) :
    (i.attempted value).length ≤ 1 := by
  unfold attempted
  split_ifs <;> simp

/-- A write of a linked interface is recorded and does not panic. -/
theorem writePacket_eq {i : BleInterface SK} (h : i.Linked) (data : Bytes)
    (write : Except String Unit) :
    ∃ r, i.ble.writePacket data write = (r, (i.wrote (i.attempted data)).ble) ∧ Survives r := by
  cases hcached : i.ble.cachedPeripheral with
  | none =>
    -- the missing cache is reported before the connected peripheral is unwrapped
    refine ⟨_, ?_, survives_err "No cached peripheral"⟩
    simp [BleManager.writePacket, attempted, hcached]
  | some cached =>
    obtain ⟨p, hp⟩ := Option.isSome_iff_exists.mp (h (by rw [hcached]; rfl))
    refine ⟨_, ?_, survives_mapError write⟩
    simp [BleManager.writePacket, attempted, hcached, hp, wrote]

/-- `ble_send_unencrypted` on the interface. -/
theorem sendUnencrypted_eq (pb : Prost) {i : BleInterface SK} (h : i.Linked) (data : String)
    (write : Except String Unit) :
    ∃ r, i.sendUnencrypted pb data write =
      (r, i.wrote (i.attempted (createUnencryptedPacket pb data))) ∧ Survives r := by
  obtain ⟨r, hwrite, hr⟩ := writePacket_eq h (createUnencryptedPacket pb data) write
  exact ⟨r, by rw [sendUnencrypted, BleManager.bleSendUnencrypted, hwrite]; rfl, hr⟩

/-- Without an AES key nothing is sent. -/
theorem encryptAndSend_keyless {i : BleInterface SK} (h : i.ecdh.activeKey = none)
    (payload : EncryptedData) (env : SendEnv) :
    i.encryptAndSend cr pb payload env = (.error (.err "no active AES session key"), i) := by
  simp only [encryptAndSend, EcdhContext.encryptBytes, h]

/-- An encrypted send writes a packet under the active key at most, and nothing without one. -/
theorem encryptAndSend_spec (hcr : cr.Lawful) (pb : Prost) {i : BleInterface SK} (h : i.Linked)
    (payload : EncryptedData) (env : SendEnv) :
    ∃ r values, i.encryptAndSend cr pb payload env = (r, i.wrote values) ∧ Survives r ∧
      ∀ v ∈ values, ∃ key, i.ecdh.activeKey = some key ∧ IsDataPacket cr pb key payload v := by
  cases hkey : i.ecdh.activeKey with
  | none =>
    refine ⟨_, [], ?_, survives_err "no active AES session key", by simp⟩
    rw [encryptAndSend_keyless hkey, wrote_nil]
  | some key =>
    cases henc : cr.aesGcmEncrypt key env.nonce (pb.encodeEncryptedData payload) with
    | none =>
      refine ⟨_, [], ?_, survives_err "AES-GCM encryption failed", by simp⟩
      simp only [encryptAndSend, EcdhContext.encryptBytes, hkey, henc, wrote_nil]
    | some ciphertext =>
      -- the tag is the last 16 bytes, so that the cuts give back nonce, ciphertext and tag
      have hlen := hcr.aesGcmEncrypt_length _ _ _ _ henc
      obtain ⟨hiv, htag, hparts⟩ :=
        dataPacketOf_append env.nonce (show 16 ≤ ciphertext.length by omega)
      obtain ⟨r, hwrite, hr⟩ := writePacket_eq h
        (pb.encodeDataPacket (dataPacketOf (env.nonce.toList ++ ciphertext))) env.write
      refine ⟨r, i.attempted (pb.encodeDataPacket (dataPacketOf (env.nonce.toList ++ ciphertext))),
        ?_, hr, fun v hv => ⟨key, rfl, _, env.nonce, mem_attempted hv, rfl, hiv, htag,
          by rw [hparts, henc]⟩⟩
      simp only [encryptAndSend, EcdhContext.encryptBytes, hkey, henc, BleManager.bleSendEncrypted,
        hwrite]
      rfl

/-- Sending several payloads, by induction on them: every value written is one of the payloads
under the active key. -/
theorem sendPayloads_spec (hcr : cr.Lawful) (pb : Prost) {i : BleInterface SK} (h : i.Linked)
    (payloads : List EncryptedData) (envs : ℕ → SendEnv) :
    ∃ r values, i.sendPayloads cr pb payloads envs = (r, i.wrote values) ∧ Survives r ∧
      ∀ v ∈ values, ∃ key, i.ecdh.activeKey = some key ∧
        ∃ payload ∈ payloads, IsDataPacket cr pb key payload v := by
  induction payloads generalizing i envs with
  | nil => exact ⟨_, [], by rw [sendPayloads, wrote_nil], survives_ok, by simp⟩
  | cons payload payloads ih =>
    obtain ⟨r, values, hsend, hr, hvalues⟩ :=
      encryptAndSend_spec hcr pb h payload (envs 0)
    have hhead : ∀ v ∈ values, ∃ key, i.ecdh.activeKey = some key ∧
        ∃ p ∈ payload :: payloads, IsDataPacket cr pb key p v := fun v hv => by
      obtain ⟨key, hkey, hv⟩ := hvalues v hv
      exact ⟨key, hkey, payload, List.mem_cons_self, hv⟩
    cases r with
    -- the first error ends the sending
    | error e => exact ⟨_, values, by rw [sendPayloads, hsend], hr, hhead⟩
    | ok u =>
      obtain ⟨r, more, hrest, hr, hmore⟩ := ih (h.wrote values) fun n => envs (n + 1)
      refine ⟨r, values ++ more, by rw [sendPayloads, hsend, ← wrote_wrote]; exact hrest, hr, ?_⟩
      intro v hv
      rcases List.mem_append.mp hv with hv | hv
      · exact hhead v hv
      · obtain ⟨key, hkey, p, hp, hv⟩ := hmore v hv
        exact ⟨key, hkey, p, List.mem_cons_of_mem _ hp, hv⟩

/-- The input branch writes the event's payloads under the active key, and nothing without one. -/
theorem handleInputEvent_spec (hcr : cr.Lawful) (pb : Prost) {i : BleInterface SK} (h : i.Linked)
    (event : InputEvent) (envs : ℕ → SendEnv) :
    ∃ values, i.handleInputEvent cr pb event envs = (.ok (), i.wrote values) ∧
      ∀ v ∈ values, ∃ key, i.ecdh.activeKey = some key ∧
        ∃ payload ∈ inputPayloads event, IsDataPacket cr pb key payload v := by
  obtain ⟨r, values, hsend, hr, hvalues⟩ :=
    sendPayloads_spec hcr pb h (inputPayloads event) envs
  exact ⟨values, by rw [handleInputEvent, hsend, reported_of_survives hr], hvalues⟩

/-! ## Connecting -/

/-- `j` differs from `i` in what it knows of devices only: the keys, what was written and the
link are kept. -/
structure KeepsKeys (i j : BleInterface SK) : Prop where
  ecdh : j.ecdh = i.ecdh
  written : j.ble.written = i.ble.written
  linked : i.Linked → j.Linked

/-- The discovery loop, by induction on the peripherals, only adds to the peripherals found. -/
theorem discoverLoop_eq (env : ScanEnv) (peripherals : List Peripheral) (m : BleManager)
    (discovered : List Device) :
    ∃ r found, m.discoverLoop env discovered peripherals =
      (r, { m with foundPeripherals := m.foundPeripherals ++ found }) := by
  have hnothing : m = { m with foundPeripherals := m.foundPeripherals ++ [] } := by
    rw [List.append_nil]
  induction peripherals generalizing m discovered with
  | nil => exact ⟨_, [], by rw [← hnothing]; rfl⟩
  | cons p rest ih =>
    rw [BleManager.discoverLoop]
    cases env.properties p with
    | error e => exact ⟨_, [], by rw [← hnothing]⟩
    | ok props =>
      cases props with
      | none => exact ih m discovered hnothing
      | some props =>
        simp only
        split_ifs
        · obtain ⟨r, found, hloop⟩ := ih { m with foundPeripherals := m.foundPeripherals ++ [p] }
            (discovered ++ [BleManager.discoveredDevice props]) (by rw [List.append_nil])
          exact ⟨r, p :: found, by rw [hloop, List.append_assoc]; rfl⟩
        · exact ih m discovered hnothing

/-- A scan only adds to the peripherals found. -/
theorem bleDiscoverToothpaste_eq (m : BleManager) (env : ScanEnv) :
    ∃ r found, m.bleDiscoverToothpaste env =
      (r, { m with foundPeripherals := m.foundPeripherals ++ found }) := by
  unfold BleManager.bleDiscoverToothpaste
  cases env.startScan with
  | error e => exact ⟨_, [], by rw [List.append_nil]⟩
  | ok u =>
    cases env.peripherals with
    | error e => exact ⟨_, [], by rw [List.append_nil]⟩
    | ok peripherals => exact discoverLoop_eq env peripherals m []

/-- A scan keeps the keys and the connected device. -/
theorem scan_spec (i : BleInterface SK) (env : ScanEnv) :
    KeepsKeys i (i.scan env).2 ∧ (i.scan env).2.deviceId = i.deviceId ∧
      (i.scan env).2.appState.connectedDevice = i.appState.connectedDevice := by
  obtain ⟨r, found, hscan⟩ := bleDiscoverToothpaste_eq i.ble env
  cases r <;> rw [scan, hscan] <;> exact ⟨⟨rfl, rfl, fun h => h⟩, rfl, rfl⟩

/-- A peripheral that is linked is remembered, unless it was connected already. -/
theorem linkPeripheral_ok {m m' : BleManager} {p : Peripheral} {env : ConnectEnv}
    (h : m.linkPeripheral p env = (.ok (), m')) :
    env.isConnected p = .ok true ∧ m' = m ∨
      env.isConnected p = .ok false ∧ m' = { m with connectedPeripherial := some p } := by
  unfold BleManager.linkPeripheral at h
  cases hconnected : env.isConnected p with
  | error e => simp [hconnected] at h
  | ok connected =>
    cases connected with
    | true => simp_all
    | false => cases hconnect : env.connect p <;> simp_all

/-- A peripheral that is not linked leaves everything as it was. -/
theorem linkPeripheral_error {m m' : BleManager} {p : Peripheral} {env : ConnectEnv} {e : String}
    (h : m.linkPeripheral p env = (.error e, m')) : m' = m := by
  unfold BleManager.linkPeripheral at h
  cases hconnected : env.isConnected p with
  | error e => simp_all
  | ok connected =>
    cases connected with
    | true => simp [hconnected] at h
    | false => cases hconnect : env.connect p <;> simp_all

/-- How `ble_connect_toothpaste` goes: its result and the state it leaves. -/
inductive Attempt (m : BleManager) (device : Device) (env : ConnectEnv) :
    Except Fault String → BleManager → Prop
  /-- No peripheral has the address, or it cannot be connected. -/
  | refused {e : String}
      (hrefused : ∀ p, findPeripheral env device.address m.foundPeripherals = .ok (some p) →
        ∃ e, (m.linkPeripheral p env).1 = .error e) :
      Attempt m device env (.error (.err e)) m
  /-- The peripheral is connected already and none is remembered. -/
  | panics {p : Peripheral}
      (hfound : findPeripheral env device.address m.foundPeripherals = .ok (some p))
      (hconnected : env.isConnected p = .ok true) (hnone : m.connectedPeripherial = none) :
      Attempt m device env (.error .panic) m
  /-- A call to the linked peripheral fails. -/
  | fails {p q : Peripheral} {m' : BleManager} {e : String}
      (hfound : findPeripheral env device.address m.foundPeripherals = .ok (some p))
      (hlink : m.linkPeripheral p env = (.ok (), m'))
      (hremembered : m'.connectedPeripherial = some q)
      (hfails : (∃ e, discoverCharacteristics env q p = .error e) ∨ ∃ e, env.readMac q = .error e) :
      Attempt m device env (.error (.err e)) m'
  | connects {p q : Peripheral} {m' : BleManager} {cached : CachedPeripheral} {macData : Bytes}
      (hfound : findPeripheral env device.address m.foundPeripherals = .ok (some p))
      (hlink : m.linkPeripheral p env = (.ok (), m'))
      (hremembered : m'.connectedPeripherial = some q)
      (hcached : discoverCharacteristics env q p = .ok cached)
      (hmac : env.readMac q = .ok macData) :
      Attempt m device env (.ok (macString macData)) { m' with cachedPeripheral := some cached }

theorem attempt_bleConnectToothpaste (m : BleManager) (device : Device) (env : ConnectEnv) :
    Attempt m device env (m.bleConnectToothpaste device env).1
      (m.bleConnectToothpaste device env).2 := by
  unfold BleManager.bleConnectToothpaste
  cases hfound : findPeripheral env device.address m.foundPeripherals with
  | error e => exact .refused fun p hp => by simp [hfound] at hp
  | ok found =>
    cases found with
    | none => exact .refused fun p hp => by simp [hfound] at hp
    | some p =>
      rcases hlink : m.linkPeripheral p env with ⟨e | u, m'⟩
      · simp only [hlink, linkPeripheral_error hlink]
        refine .refused fun p' hp' => ⟨e, ?_⟩
        rw [hfound] at hp'
        cases hp'
        rw [hlink]
      · cases hremembered : m'.connectedPeripherial with
        | none =>
          -- a peripheral that has just been connected is remembered
          rcases linkPeripheral_ok hlink with ⟨hconnected, rfl⟩ | ⟨-, rfl⟩
          · simp only [hlink, hremembered]
            exact .panics hfound hconnected hremembered
          · cases hremembered
        | some q =>
          simp only [hlink, hremembered]
          cases hcached : discoverCharacteristics env q p with
          | error e => exact .fails hfound hlink hremembered (.inl ⟨e, hcached⟩)
          | ok cached =>
            cases hmac : env.readMac q with
            | error e => exact .fails hfound hlink hremembered (.inr ⟨e, hmac⟩)
            | ok macData =>
              have hconnects := Attempt.connects hfound hlink hremembered hcached hmac
              simpa only [hremembered] using hconnects

/-- The transport after a connection attempt: nothing is written, and a peripheral is cached only
when one is connected. -/
theorem bleConnectToothpaste_spec (m : BleManager) (device : Device) (env : ConnectEnv) :
    (m.bleConnectToothpaste device env).2.written = m.written ∧
    ((m.cachedPeripheral.isSome = true → m.connectedPeripherial.isSome = true) →
      (m.bleConnectToothpaste device env).2.cachedPeripheral.isSome = true →
      (m.bleConnectToothpaste device env).2.connectedPeripherial.isSome = true) := by
  have hattempt := attempt_bleConnectToothpaste m device env
  rcases hresult : m.bleConnectToothpaste device env with ⟨r, m'⟩
  rw [hresult] at hattempt
  cases hattempt with
  | refused | panics => exact ⟨rfl, fun h => h⟩
  | fails hfound hlink =>
    rcases linkPeripheral_ok hlink with ⟨-, rfl⟩ | ⟨-, rfl⟩
    · exact ⟨rfl, fun h => h⟩
    · exact ⟨rfl, fun _ _ => rfl⟩
  | connects hfound hlink hremembered =>
    rcases linkPeripheral_ok hlink with ⟨-, rfl⟩ | ⟨-, rfl⟩
    · exact ⟨rfl, fun _ _ => by rw [hremembered]; rfl⟩
    · exact ⟨rfl, fun _ _ => rfl⟩

/-- A connection attempt keeps the keys and the published state; when it succeeds, the device id
is set. -/
theorem connectBle_spec (i : BleInterface SK) (device : Device) (env : ConnectEnv) :
    KeepsKeys i (i.connectBle device env).2 ∧
      (i.connectBle device env).2.appState = i.appState := by
  obtain ⟨hwritten, hlinked⟩ := bleConnectToothpaste_spec i.ble device env
  unfold connectBle
  rcases hble : i.ble.bleConnectToothpaste device env with ⟨r, ble⟩
  rw [hble] at hwritten hlinked
  cases r <;> exact ⟨⟨rfl, hwritten, hlinked⟩, rfl⟩

/-- The greeting writes the stored public key of the device once, if it has one. -/
theorem greet_spec (cr : Crates SK PK) (pb : Prost) {i : BleInterface SK} (h : i.Linked)
    (write : Except String Unit) :
    ∃ values, i.greet cr pb write = (.ok (), i.wrote values) ∧ values.length ≤ 1 ∧
      ∀ v ∈ values, ∃ id publicKey, i.deviceId = some id ∧
        i.ecdh.getStoredPublicKey cr id = .ok publicKey ∧ IsAuthPacket cr pb publicKey v := by
  have hnothing : ∀ e, reported ((.error (.err e), i) : Except Fault Unit × BleInterface SK) =
      (.ok (), i.wrote []) := fun e => by rw [wrote_nil]; rfl
  unfold greet
  split_ifs
  · unfold sendPublicKey
    cases hid : i.deviceId with
    | none => exact ⟨[], hnothing _, by simp, by simp⟩
    | some id =>
      cases hkey : i.ecdh.getStoredPublicKey cr id with
      | error e => exact ⟨[], by simpa only [hkey] using hnothing e, by simp, by simp⟩
      | ok publicKey =>
        obtain ⟨r, hsend, hr⟩ := sendUnencrypted_eq pb h
          (cr.base64Encode publicKey.toList) write
        refine ⟨_, by simp only [hkey, hsend, reported_of_survives hr]; rfl,
          attempted_length .., ?_⟩
        exact fun v hv => ⟨id, publicKey, rfl, hkey, mem_attempted hv⟩
  · exact ⟨[], by rw [wrote_nil], by simp, by simp⟩

/-! ## Notifications -/

end BleInterface

/-- The packet of a notification that `run` hands to `on_challenge`. -/
def challengeOf (pb : Prost) (n : ValueNotification) : Option ResponsePacket :=
  if n.uuid ≠ hidSemaphoreCharacteristicUuid then none
  else
    match unpackResponsePacket pb n.value with
    | .error _ => none
    | .ok packet =>
      if pb.responseType packet.responseType = some .challenge then some packet else none

theorem isAuthenticated_congr {app app' : AppState}
    (h : app'.connectedDevice = app.connectedDevice) :
    app'.isAuthenticated = app.isAuthenticated := by
  simp only [AppState.isAuthenticated, AppState.authState, h]

namespace BleInterface

/-- A challenge goes to `on_challenge`. -/
theorem handleNotification_challenge (i : BleInterface SK) (cr : Crates SK PK) (deviceId : String)
    {n : ValueNotification} {packet : ResponsePacket} (h : challengeOf pb n = some packet) :
    i.handleNotification cr pb deviceId n =
      i.onChallenge cr deviceId packet.challengeData packet.firmwareVersion := by
  unfold challengeOf at h
  split_ifs at h with huuid
  cases hunpack : unpackResponsePacket pb n.value with
  | error e => simp [hunpack] at h
  | ok p =>
    simp only [hunpack] at h
    split_ifs at h with htype
    obtain rfl := Option.some.inj h
    rw [handleNotification, if_neg huuid]
    simp only [hunpack, htype]

@[simp]
theorem onPeerUnknown_isAuthenticated (i : BleInterface SK) :
    i.onPeerUnknown.appState.isAuthenticated = false := by
  unfold onPeerUnknown
  cases hd : i.appState.connectedDevice with
  | none => simp only [AppState.isAuthenticated, AppState.authState, hd]
  | some device => rfl

theorem onPeerUnknown_spec (i : BleInterface SK) :
    i.onPeerUnknown.ecdh = i.ecdh ∧ i.onPeerUnknown.ble = i.ble ∧
      i.onPeerUnknown.deviceId = i.deviceId := by
  unfold onPeerUnknown
  cases i.appState.connectedDevice <;> exact ⟨rfl, rfl, rfl⟩

/-- Any other notification leaves the keys and the transport alone and authenticates nobody. -/
theorem handleNotification_other (i : BleInterface SK) (cr : Crates SK PK) (deviceId : String)
    {n : ValueNotification} (h : challengeOf pb n = none) :
    (i.handleNotification cr pb deviceId n).2.ecdh = i.ecdh ∧
    (i.handleNotification cr pb deviceId n).2.ble = i.ble ∧
    (i.handleNotification cr pb deviceId n).2.deviceId = i.deviceId ∧
    ((i.handleNotification cr pb deviceId n).2.appState.isAuthenticated = true →
      i.appState.isAuthenticated = true) := by
  unfold handleNotification
  split_ifs with huuid
  · exact ⟨rfl, rfl, rfl, id⟩
  · cases hunpack : unpackResponsePacket pb n.value with
    | error e => exact ⟨rfl, rfl, rfl, id⟩
    | ok packet =>
      cases htype : pb.responseType packet.responseType with
      | none => simp [htype]
      | some type =>
        cases type with
        -- excluded by the hypothesis
        | challenge => simp [challengeOf, huuid, hunpack, htype] at h
        | keepalive => simp [htype]
        | peerKnown => simp [htype]
        | serialData =>
          simp only [htype]
          split_ifs <;> exact ⟨rfl, rfl, rfl, id⟩
        | peerUnknown =>
          obtain ⟨hecdh, hble, hid⟩ := onPeerUnknown_spec i
          simp only [htype]
          exact ⟨hecdh, hble, hid, fun hauth => by simp at hauth⟩

/-- `on_challenge` loads the keys, touches nothing else but the published state, and publishes
nothing when it panics. -/
theorem onChallenge_spec (i : BleInterface SK) (cr : Crates SK PK) (deviceId : String)
    (challengeData : Bytes) (firmwareVersion : String) :
    (i.onChallenge cr deviceId challengeData firmwareVersion).2.ecdh =
      (i.ecdh.loadDeviceKeys cr deviceId challengeData).2 ∧
    (i.onChallenge cr deviceId challengeData firmwareVersion).2.ble = i.ble ∧
    (i.onChallenge cr deviceId challengeData firmwareVersion).2.deviceId = i.deviceId := by
  unfold onChallenge
  cases hd : i.appState.connectedDevice <;> simp [hd]

/-! ## Commands -/

/-- How a pairing is handled: a key that does not parse or is no point changes nothing; otherwise
`pair_new_device` changes the context, and our new public key is written if it returned `Ok`. -/
theorem handlePairDevice_cases (hcr : cr.Lawful) (pb : Prost) {i : BleInterface SK} (h : i.Linked)
    (deviceId pubKey : String) (env : PairEnv SK) :
    ((∀ bytes, parsePubKey cr pubKey = some bytes → cr.fromSec1Bytes bytes.toList = none) ∧
      i.handlePairDevice cr pb deviceId pubKey env = (.ok (), i)) ∨
    ∃ bytes r ecdh, parsePubKey cr pubKey = some bytes ∧
      (∃ peer, cr.fromSec1Bytes bytes.toList = some peer) ∧
      i.ecdh.pairNewDevice cr bytes deviceId env.privateKey env.save = (r, ecdh) ∧
      i.handlePairDevice cr pb deviceId pubKey env =
        (.ok (), match r with
          | .error _ => { i with ecdh }
          | .ok ourKey => { i with ecdh }.wrote
              (i.attempted (createUnencryptedPacket pb (cr.base64Encode ourKey.toList)))) := by
  cases hparse : parsePubKey cr pubKey with
  | none => exact .inl ⟨by simp, by simp only [handlePairDevice, hparse]⟩
  | some bytes =>
    rcases EcdhContext.pairNewDevice_cases hcr i.ecdh bytes deviceId env.privateKey env.save with
        ⟨e, hnone, hpair⟩ | ⟨peer, -, ourKey, -, hsome, -, -, -, -, -⟩
    · refine .inl ⟨?_, by simp only [handlePairDevice, hparse, hpair]⟩
      rintro _ ⟨⟩
      exact hnone
    · rcases hp : i.ecdh.pairNewDevice cr bytes deviceId env.privateKey env.save with ⟨r, ecdh⟩
      refine .inr ⟨bytes, r, ecdh, rfl, ⟨peer, hsome⟩, hp, ?_⟩
      cases r with
      | error e => simp only [handlePairDevice, hparse, hp]
      | ok ourKey =>
        -- the outcome of the write is reported and changes nothing
        obtain ⟨r, hsend, hr⟩ := sendUnencrypted_eq pb
          (i := { i with ecdh }) h (cr.base64Encode ourKey.toList) env.write
        simp only [handlePairDevice, hparse, hp, hsend, reported_of_survives hr]
        rfl

/-- A pairing changes the context and writes; everything else stays. -/
theorem handlePairDevice_eq (hcr : cr.Lawful) (pb : Prost) {i : BleInterface SK} (h : i.Linked)
    (deviceId pubKey : String) (env : PairEnv SK) :
    ∃ ecdh values, i.handlePairDevice cr pb deviceId pubKey env =
      (.ok (), { i with ecdh }.wrote values) := by
  rcases handlePairDevice_cases hcr pb h deviceId pubKey env with
      ⟨-, hpair⟩ | ⟨-, r, ecdh, -, -, -, hpair⟩
  · exact ⟨i.ecdh, [], by rw [hpair, wrote_nil]⟩
  · cases r with
    -- a failed pairing leaves its context behind and writes nothing
    | error e => exact ⟨ecdh, [], by rw [hpair, wrote_nil]⟩
    | ok ourKey => exact ⟨ecdh, _, hpair⟩

/-- A command of the loop is a pairing, or it writes data packets under the active key at most. -/
theorem handleCommand_cases (hcr : cr.Lawful) (pb : Prost) {i : BleInterface SK} (h : i.Linked)
    (deviceId : String) (cmd : AppCommand) (pairEnv : PairEnv SK) (sendEnv : SendEnv) :
    (∃ device pubKey, cmd = .pairDevice device pubKey ∧
      i.handleCommand cr pb deviceId cmd pairEnv sendEnv =
        i.handlePairDevice cr pb deviceId pubKey pairEnv) ∨
    (∀ device pubKey, cmd ≠ .pairDevice device pubKey) ∧
      ∃ r values, i.handleCommand cr pb deviceId cmd pairEnv sendEnv = (r, i.wrote values) ∧
        ∀ v ∈ values, ∃ key, i.ecdh.activeKey = some key ∧
          ∃ payload, IsDataPacket cr pb key payload v := by
  have hsend : ∀ payload, ∃ r values,
      reported (i.encryptAndSend cr pb payload sendEnv) = (r, i.wrote values) ∧
        ∀ v ∈ values, ∃ key, i.ecdh.activeKey = some key ∧
          ∃ payload, IsDataPacket cr pb key payload v := by
    intro payload
    obtain ⟨r, values, hsend, hr, hvalues⟩ := encryptAndSend_spec hcr pb h payload sendEnv
    refine ⟨_, values, by rw [hsend, reported_of_survives hr], fun v hv => ?_⟩
    obtain ⟨key, hkey, hv⟩ := hvalues v hv
    exact ⟨key, hkey, payload, hv⟩
  have hnothing : ∀ r : Except Fault Unit, ∃ r' values, (r, i) = (r', i.wrote values) ∧
      ∀ v ∈ values, ∃ key, i.ecdh.activeKey = some key ∧
        ∃ payload, IsDataPacket cr pb key payload v :=
    fun r => ⟨r, [], by rw [wrote_nil], by simp⟩
  cases cmd with
  -- the two sends encrypt, and every other command writes nothing
  | pairDevice device pubKey => exact .inl ⟨device, pubKey, rfl, rfl⟩
  | sendKeyboardInput text => exact .inr ⟨nofun, hsend _⟩
  | sendMouseJiggle enable => exact .inr ⟨nofun, hsend _⟩
  | killService => exact .inr ⟨nofun, hnothing _⟩
  | scanForDevices => exact .inr ⟨nofun, hnothing _⟩
  | connectToDevice device => exact .inr ⟨nofun, hnothing _⟩
  | disconnectDevice => exact .inr ⟨nofun, hnothing _⟩
  | updateSettings a b c => exact .inr ⟨nofun, hnothing _⟩

/-- Every command of the loop returns, but for `KillService`. -/
theorem handleCommand_returns (hcr : cr.Lawful) (pb : Prost) {i : BleInterface SK} (h : i.Linked)
    (deviceId : String) {cmd : AppCommand} (hcmd : cmd ≠ .killService) (pairEnv : PairEnv SK)
    (sendEnv : SendEnv) : (i.handleCommand cr pb deviceId cmd pairEnv sendEnv).1 = .ok () := by
  have hsend : ∀ payload, (reported (i.encryptAndSend cr pb payload sendEnv)).1 = .ok () := by
    intro payload
    obtain ⟨r, values, hsend, hr, -⟩ := encryptAndSend_spec hcr pb h payload sendEnv
    rw [hsend, reported_of_survives hr]
  cases cmd with
  | pairDevice device pubKey =>
    obtain ⟨ecdh, values, hpair⟩ := handlePairDevice_eq hcr pb h deviceId pubKey pairEnv
    rw [handleCommand, hpair]
  | sendKeyboardInput text => exact hsend _
  | sendMouseJiggle enable => exact hsend _
  | killService => exact absurd rfl hcmd
  | scanForDevices | connectToDevice | disconnectDevice | updateSettings => rfl

/-- A command of the loop keeps the peripherals, the device id and the published state. -/
theorem handleCommand_keeps (hcr : cr.Lawful) (pb : Prost) {i : BleInterface SK} (h : i.Linked)
    (deviceId : String) (cmd : AppCommand) (pairEnv : PairEnv SK) (sendEnv : SendEnv) :
    SamePeripherals i (i.handleCommand cr pb deviceId cmd pairEnv sendEnv).2 ∧
    (i.handleCommand cr pb deviceId cmd pairEnv sendEnv).2.deviceId = i.deviceId ∧
    (i.handleCommand cr pb deviceId cmd pairEnv sendEnv).2.appState = i.appState := by
  rcases handleCommand_cases hcr pb h deviceId cmd pairEnv sendEnv with
      ⟨device, pubKey, -, hcmd⟩ | ⟨-, r, values, hcmd, -⟩
  · obtain ⟨ecdh, values, hpair⟩ := handlePairDevice_eq hcr pb h deviceId pubKey pairEnv
    rw [hcmd, hpair]
    exact ⟨⟨rfl, rfl⟩, rfl, rfl⟩
  · rw [hcmd]
    exact ⟨samePeripherals_wrote i values, rfl, rfl⟩

/-- A notification keeps the device id and the transport. -/
theorem handleNotification_keeps (i : BleInterface SK) (cr : Crates SK PK) (pb : Prost)
    (deviceId : String) (n : ValueNotification) :
    (i.handleNotification cr pb deviceId n).2.ble = i.ble ∧
    (i.handleNotification cr pb deviceId n).2.deviceId = i.deviceId := by
  cases hn : challengeOf pb n with
  | none =>
    obtain ⟨-, hble, hid, -⟩ := i.handleNotification_other cr deviceId hn
    exact ⟨hble, hid⟩
  | some packet =>
    rw [i.handleNotification_challenge cr deviceId hn]
    exact (i.onChallenge_spec cr deviceId packet.challengeData packet.firmwareVersion).2

@[simp]
theorem publishConnected_isAuthenticated (i : BleInterface SK) (device : Device) :
    (i.publishConnected device).appState.isAuthenticated = false := rfl

end BleInterface

end ToothPaste
