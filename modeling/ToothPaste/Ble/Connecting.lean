import ToothPaste.Ble.Sample
import ToothPaste.Ble.Steps

/-!
# Connection attempts

`BleManager` as a transition system of its own: scans, connection attempts and writes in any
order, with whatever the BLE stack answers. A step of the BLE task is some of these calls
(`bleManager_of_moves`).

A peripheral is remembered only when `ble_connect_toothpaste` itself connects it, and it stays
remembered through later attempts. One that is connected already is searched for its
characteristics while the remembered one discovers its services and is read.

* `connect_faithful`: an attempt connects to the peripheral with the device's address, or fails,
  unless that peripheral is connected already and another one, or none, is remembered.
* `connected_before_panics`: the first attempt on a peripheral that is connected already panics.
-/

namespace ToothPaste

/-! ## Searching -/

/-- What the retry loop returns was found in one of its attempts. -/
theorem exists_of_findWithRetry {α : Type} {named : String} {find : ℕ → Option α}
    {attempt remaining : ℕ} {a : α} (h : findWithRetry named find attempt remaining = .ok a) :
    ∃ k, find k = some a := by
  induction remaining generalizing attempt with
  | zero => cases h
  | succ remaining ih =>
    rw [findWithRetry] at h
    cases hfind : find attempt with
    | some b =>
      simp only [hfind, Except.ok.injEq] at h
      exact ⟨attempt, by rw [hfind, h]⟩
    | none =>
      simp only [hfind] at h
      split_ifs at h
      exact ih h

/-- The characteristics were found in a service of the peripheral. -/
def CachedPeripheral.FoundOn (cached : CachedPeripheral) (services : ℕ → List GattService) :
    Prop :=
  ∃ attempt, ∃ service ∈ services attempt, service.uuid = serviceUuid ∧
    cached.packetChar ∈ service.characteristics ∧
    cached.packetChar.uuid = packetCharacteristicUuid ∧
    cached.semaphoreChar ∈ service.characteristics ∧
    cached.semaphoreChar.uuid = hidSemaphoreCharacteristicUuid ∧
    cached.macChar ∈ service.characteristics ∧
    cached.macChar.uuid = macAddressCharacteristicUuid

/-- A characteristic that is returned is one of the service. -/
theorem mem_of_getCharacteristicWithRetry {service : GattService} {uuid : Uuid}
    {c : Characteristic} (h : getCharacteristicWithRetry service uuid = .ok c) :
    c ∈ service.characteristics ∧ c.uuid = uuid := by
  obtain ⟨-, hfind⟩ := exists_of_findWithRetry h
  exact ⟨List.mem_of_find?_eq_some hfind, by simpa using List.find?_some hfind⟩

/-- What is looked up is looked up on the second peripheral, whichever discovers services. -/
theorem foundOn_of_discoverCharacteristics {env : ConnectEnv} {q p : Peripheral}
    {cached : CachedPeripheral} (h : discoverCharacteristics env q p = .ok cached) :
    cached.FoundOn (env.services p) := by
  -- the service and the three characteristics, each lookup returning early if it fails
  simp only [discoverCharacteristics, bind, Except.bind] at h
  split at h
  · cases h
  split at h
  · cases h
  next service hservice =>
  split at h
  · cases h
  next packetChar hpacket =>
  split at h
  · cases h
  next semaphoreChar hsemaphore =>
  split at h
  · cases h
  next macChar hmac =>
  cases h
  obtain ⟨attempt, hfind⟩ := exists_of_findWithRetry hservice
  obtain ⟨hpacket, hpacketUuid⟩ := mem_of_getCharacteristicWithRetry hpacket
  obtain ⟨hsemaphore, hsemaphoreUuid⟩ := mem_of_getCharacteristicWithRetry hsemaphore
  obtain ⟨hmac, hmacUuid⟩ := mem_of_getCharacteristicWithRetry hmac
  exact ⟨attempt, service, List.mem_of_find?_eq_some hfind, by simpa using List.find?_some hfind,
    hpacket, hpacketUuid, hsemaphore, hsemaphoreUuid, hmac, hmacUuid⟩

/-- The peripheral has the address that is asked for. -/
def ConnectEnv.HasAddress (env : ConnectEnv) (address : String) (p : Peripheral) : Prop :=
  ∃ props, env.properties p = .ok (some props) ∧ env.parseAddress address = .ok props.address

/-- Whatever can be read of a peripheral's properties has its address. -/
def ReportsAddresses (addr : Peripheral → String)
    (properties : Peripheral → Except String (Option Properties)) : Prop :=
  ∀ p props, properties p = .ok (some props) → props.address = addr p

section Addresses

variable {addr : Peripheral → String} {env : ConnectEnv} {address : String}
  {peripherals : List Peripheral} {p : Peripheral}

/-- A peripheral that is found has the address. -/
theorem findPeripheral_sound (h : findPeripheral env address peripherals = .ok (some p)) :
    p ∈ peripherals ∧ env.HasAddress address p := by
  induction peripherals with
  | nil => cases h
  | cons p' rest ih =>
    have hrest : findPeripheral env address rest = .ok (some p) →
        p ∈ p' :: rest ∧ env.HasAddress address p :=
      fun h => ⟨List.mem_cons_of_mem _ (ih h).1, (ih h).2⟩
    rw [findPeripheral] at h
    split at h
    next props hprops =>
      split at h
      · cases h
      next parsed hparsed =>
        split_ifs at h with heq
        · cases h
          exact ⟨List.mem_cons_self, props, hprops, by rw [hparsed, heq]⟩
        · exact hrest h
    next => exact hrest h

/-- Among peripherals with distinct addresses the search finds the one with the address. -/
theorem findPeripheral_eq_some_iff (hinj : Function.Injective addr)
    (hreports : ReportsAddresses addr env.properties) :
    findPeripheral env address peripherals = .ok (some p) ↔
      p ∈ peripherals ∧ env.HasAddress address p := by
  refine ⟨findPeripheral_sound, ?_⟩
  rintro ⟨hmem, props, hprops, hparsed⟩
  induction peripherals with
  | nil => cases hmem
  | cons p' rest ih =>
    -- a peripheral before it has another address
    have hrest : p ≠ p' → findPeripheral env address rest = .ok (some p) :=
      fun hne => ih ((List.mem_cons.mp hmem).resolve_left hne)
    rw [findPeripheral]
    split
    next props' hprops' =>
      simp only [hparsed]
      split_ifs with heq
      · rw [hreports p' props' hprops', hreports p props hprops] at heq
        rw [hinj heq]
      · refine hrest fun hsame => heq ?_
        subst hsame
        rw [hprops', Except.ok.injEq, Option.some.injEq] at hprops
        rw [hprops]
    next hunread =>
      refine hrest fun hsame => ?_
      subst hsame
      exact hunread props hprops

end Addresses

/-! ## One attempt -/

/-- A connection attempt with its outcome: what it returned and the manager after it. -/
structure ConnectCall where
  device : Device
  env : ConnectEnv
  result : Except Fault String
  after : BleManager

/-- `ble_connect_toothpaste` called on `m`. -/
def ConnectCall.of (m : BleManager) (device : Device) (env : ConnectEnv) : ConnectCall where
  device := device
  env := env
  result := (m.bleConnectToothpaste device env).1
  after := (m.bleConnectToothpaste device env).2

/-- The attempt did not panic, and if it returned `Ok`, the connected peripheral is the one with
the device's address, the cached characteristics were found on it and the MAC address was read
from it. -/
def ConnectCall.Faithful (addr : Peripheral → String) (c : ConnectCall) : Prop :=
  c.result ≠ .error .panic ∧
    ∀ mac, c.result = .ok mac → ∃ p cached macData,
      c.after.connectedPeripherial = some p ∧ c.env.parseAddress c.device.address = .ok (addr p) ∧
      c.after.cachedPeripheral = some cached ∧ cached.FoundOn (c.env.services p) ∧
      c.env.readMac p = .ok macData ∧ mac = macString macData

/-- The condition on an attempt: if the peripheral with the device's address is connected already,
it is the one that is remembered, or another one is and a call of the attempt fails. -/
def RemembersConnected (m : BleManager) (device : Device) (env : ConnectEnv) : Prop :=
  ∀ p ∈ m.foundPeripherals, env.HasAddress device.address p → env.isConnected p = .ok true →
    m.connectedPeripherial = some p ∨ ∃ q, m.connectedPeripherial = some q ∧
      ((∃ e, discoverCharacteristics env q p = .error e) ∨ ∃ e, env.readMac q = .error e)

/-- An attempt is faithful exactly under the condition. -/
theorem faithful_iff {addr : Peripheral → String} (hinj : Function.Injective addr)
    (m : BleManager) (device : Device) {env : ConnectEnv}
    (hreports : ReportsAddresses addr env.properties) :
    (ConnectCall.of m device env).Faithful addr ↔ RemembersConnected m device env := by
  have hattempt := BleInterface.attempt_bleConnectToothpaste m device env
  have hfind : ∀ {p}, findPeripheral env device.address m.foundPeripherals = .ok (some p) ↔
      p ∈ m.foundPeripherals ∧ env.HasAddress device.address p :=
    findPeripheral_eq_some_iff hinj hreports
  -- the peripheral the condition speaks of is the one that was found
  have hunique : ∀ {p p'}, findPeripheral env device.address m.foundPeripherals = .ok (some p) →
      p' ∈ m.foundPeripherals → env.HasAddress device.address p' → p' = p := by
    intro p p' hfound hmem hp'
    have hfound' := hfind.mpr ⟨hmem, hp'⟩
    rw [hfound, Except.ok.injEq, Option.some.injEq] at hfound'
    exact hfound'.symm
  simp only [ConnectCall.Faithful, ConnectCall.of]
  generalize (m.bleConnectToothpaste device env).1 = r at hattempt ⊢
  generalize (m.bleConnectToothpaste device env).2 = m' at hattempt ⊢
  -- by the outcome of the attempt
  cases hattempt with
  -- no peripheral that is connected already was found
  | refused hrefused =>
    refine iff_of_true ⟨nofun, nofun⟩ fun p hmem hp hconnected => ?_
    obtain ⟨e, he⟩ := hrefused p (hfind.mpr ⟨hmem, hp⟩)
    simp [BleManager.linkPeripheral, hconnected] at he
  | @panics p hfound hconnected hnone =>
    refine iff_of_false (fun h => h.1 rfl) fun h => ?_
    obtain ⟨hmem, hp⟩ := hfind.mp hfound
    rcases h p hmem hp hconnected with hsome | ⟨q, hsome, -⟩ <;> simp [hnone] at hsome
  | @fails p q _ e hfound hlink hremembered hfails =>
    refine iff_of_true ⟨nofun, nofun⟩ fun p' hmem hp' hconnected => ?_
    rw [hunique hfound hmem hp'] at hconnected ⊢
    rcases BleInterface.linkPeripheral_ok hlink with ⟨-, rfl⟩ | ⟨hnot, -⟩
    · exact .inr ⟨q, hremembered, hfails⟩
    · rw [hnot] at hconnected
      cases hconnected
  | @connects p q m'' cached macData hfound hlink hremembered hcached hmac =>
    obtain ⟨hmem, props, hprops, hparsed⟩ := hfind.mp hfound
    have haddr : env.parseAddress device.address = .ok (addr p) := by
      rw [hparsed, hreports p props hprops]
    have hfoundOn := foundOn_of_discoverCharacteristics hcached
    constructor
    · rintro ⟨-, hok⟩ p' hmem' hp' hconnected
      rw [hunique hfound hmem' hp'] at hconnected ⊢
      obtain ⟨p'', -, -, hsome, haddr'', -⟩ := hok _ rfl
      -- the remembered peripheral has the address, so that it is the one found
      rw [haddr, Except.ok.injEq] at haddr''
      rw [← hinj haddr''] at hsome
      rcases BleInterface.linkPeripheral_ok hlink with ⟨-, rfl⟩ | ⟨hnot, -⟩
      · exact .inl hsome
      · rw [hnot] at hconnected
        cases hconnected
    · intro hcondition
      have hsame : q = p := by
        rcases BleInterface.linkPeripheral_ok hlink with ⟨hconnected, rfl⟩ | ⟨-, rfl⟩
        · rcases hcondition p hmem ⟨props, hprops, hparsed⟩ hconnected with
            hsome | ⟨q', hsome, ⟨e, he⟩ | ⟨e, he⟩⟩
          · rw [hremembered, Option.some.injEq] at hsome
            exact hsome
          · rw [hremembered, Option.some.injEq] at hsome
            subst hsome
            rw [hcached] at he
            cases he
          · rw [hremembered, Option.some.injEq] at hsome
            subst hsome
            rw [hmac] at he
            cases he
        · exact (Option.some.inj hremembered).symm
      subst hsame
      refine ⟨nofun, fun mac hok => ?_⟩
      rw [Except.ok.injEq] at hok
      exact ⟨q, cached, macData, hremembered, haddr, rfl, hfoundOn, hmac, hok.symm⟩

/-! ## Runs -/

/-- The calls the BLE interface makes. -/
inductive ManagerAction where
  | discover (env : ScanEnv)
  | connect (device : Device) (env : ConnectEnv)
  | write (data : Bytes) (write : Except String Unit)

/-- `BleManager` under any calls. -/
def bleManager : Transition.System BleManager ManagerAction where
  Init m := m = BleManager.new
  step m
    | .discover env => some (m.bleDiscoverToothpaste env).2
    | .connect device env => some (m.bleConnectToothpaste device env).2
    | .write data write => some (m.writePacket data write).2

/-- Characteristics are cached only of a peripheral that was found. -/
theorem found_of_cached {m : BleManager} (h : bleManager.Reachable m)
    (hcached : m.cachedPeripheral.isSome = true) : m.foundPeripherals ≠ [] := by
  refine h.invariant (I := fun m => m.cachedPeripheral.isSome = true → m.foundPeripherals ≠ []) ?_
    ?_ hcached
  · rintro _ rfl
    exact nofun
  rintro m a _ hm hst
  cases a with
  | discover env =>
    cases hst
    obtain ⟨r, found, hscan⟩ := BleInterface.bleDiscoverToothpaste_eq m env
    rw [hscan]
    exact fun hcached => List.append_ne_nil_of_left_ne_nil (hm hcached) found
  | connect device env =>
    cases hst
    have hattempt := BleInterface.attempt_bleConnectToothpaste m device env
    generalize (m.bleConnectToothpaste device env).1 = r at hattempt
    generalize (m.bleConnectToothpaste device env).2 = m' at hattempt ⊢
    cases hattempt with
    -- an attempt caches characteristics only when it returns `Ok`
    | refused | panics => exact hm
    | fails hfound hlink =>
      rcases BleInterface.linkPeripheral_ok hlink with ⟨-, rfl⟩ | ⟨-, rfl⟩ <;> exact hm
    | connects hfound hlink =>
      have hne := List.ne_nil_of_mem (findPeripheral_sound hfound).1
      rcases BleInterface.linkPeripheral_ok hlink with ⟨-, rfl⟩ | ⟨-, rfl⟩ <;> exact fun _ => hne
  | write data write =>
    cases hst
    unfold BleManager.writePacket
    cases hcache : m.cachedPeripheral with
    | none => simpa only [hcache] using hm
    | some cached =>
      cases hconnected : m.connectedPeripherial <;> simpa only [hcache, hconnected] using hm

/-! ### The calls of the BLE task -/

section Task

variable {SK PK : Type} (cr : Crates SK PK) (pb : Prost) {i : BleInterface SK}

/-- A write is a call of the manager. -/
theorem reachable_write {m : BleManager} (h : bleManager.Reachable m) (data : Bytes)
    (write : Except String Unit) : bleManager.Reachable (m.writePacket data write).2 :=
  h.step (a := ManagerAction.write data write) rfl

/-- Sending a payload is one call at most. -/
theorem reachable_encryptAndSend (h : bleManager.Reachable i.ble) (payload : EncryptedData)
    (env : SendEnv) : bleManager.Reachable (i.encryptAndSend cr pb payload env).2.ble := by
  unfold BleInterface.encryptAndSend
  cases i.ecdh.encryptBytes cr (pb.encodeEncryptedData payload) env.nonce with
  | error e => exact h
  | ok encrypted => exact reachable_write h _ _

/-- Sending several is a sequence of calls. -/
theorem reachable_sendPayloads (h : bleManager.Reachable i.ble) (payloads : List EncryptedData)
    (envs : ℕ → SendEnv) : bleManager.Reachable (i.sendPayloads cr pb payloads envs).2.ble := by
  induction payloads generalizing i envs with
  | nil => exact h
  | cons payload payloads ih =>
    have hsend := reachable_encryptAndSend cr pb h payload (envs 0)
    rw [BleInterface.sendPayloads]
    rcases hresult : i.encryptAndSend cr pb payload (envs 0) with ⟨e | u, j⟩
    · rwa [hresult] at hsend
    · rw [hresult] at hsend
      exact ih hsend fun n => envs (n + 1)

/-- A greeting is one call at most. -/
theorem reachable_greet (h : bleManager.Reachable i.ble) (write : Except String Unit) :
    bleManager.Reachable (i.greet cr pb write).2.ble := by
  unfold BleInterface.greet
  split_ifs
  · rw [reported_snd]
    unfold BleInterface.sendPublicKey
    cases i.deviceId with
    | none => exact h
    | some id =>
      cases hkey : i.ecdh.getStoredPublicKey cr id with
      | error e => simpa only [hkey] using h
      | ok publicKey =>
        simp only [hkey]
        exact reachable_write h _ _
  · exact h

/-- A pairing is one call at most. -/
theorem reachable_handlePairDevice (h : bleManager.Reachable i.ble) (deviceId pubKey : String)
    (env : PairEnv SK) :
    bleManager.Reachable (i.handlePairDevice cr pb deviceId pubKey env).2.ble := by
  unfold BleInterface.handlePairDevice
  cases parsePubKey cr pubKey with
  | none => exact h
  | some bytes =>
    rcases hpair : i.ecdh.pairNewDevice cr bytes deviceId env.privateKey env.save with
      ⟨e | key, ecdh⟩
    · simpa only [hpair] using h
    · simp only [hpair, reported_snd]
      exact reachable_write h _ _

variable {cr} {pb}

/-- Whatever the BLE task does, it calls the manager. -/
theorem bleManager_of_moves {s t : BleTask SK} {a : BleAction SK}
    (hm : BleTask.Moves cr pb s a t) (hs : bleManager.Reachable s.iface.ble) :
    bleManager.Reachable t.iface.ble := by
  cases hm with
  | putInput | putCommand | notify | notifyLost | endStream | publish | publishNone | subscribe
  | subscribeFails | openStream | openStreamFails => exact hs
  | @idleCommand env cmd rest hphase hcmd =>
    cases cmd with
    | scanForDevices =>
      have hscan := hs.step (a := ManagerAction.discover env.scan) rfl
      rw [BleTask.idleCommand, BleInterface.scan]
      rcases hresult : s.iface.ble.bleDiscoverToothpaste env.scan with ⟨e | devices, m⟩ <;>
        simpa only [hresult, BleTask.after_iface] using hscan
    | connectToDevice device =>
      have hconnect := hs.step (a := ManagerAction.connect device env.connect) rfl
      rw [BleTask.idleCommand, BleInterface.connectBle]
      rcases hresult : s.iface.ble.bleConnectToothpaste device env.connect with ⟨e | mac, m⟩ <;>
        simpa only [hresult, BleTask.after_iface] using hconnect
    | sendKeyboardInput text | sendMouseJiggle enable =>
      rw [BleTask.idleCommand, BleTask.after_iface]
      exact reachable_encryptAndSend cr pb hs _ env.send
    | _ => exact hs
  | @command env deviceId cmd rest hphase hcmd =>
    rw [BleTask.after_iface]
    cases cmd with
    | sendKeyboardInput text | sendMouseJiggle enable =>
      rw [BleInterface.handleCommand, reported_snd]
      exact reachable_encryptAndSend cr pb hs _ env.send
    | pairDevice device pubKey => exact reachable_handlePairDevice cr pb hs deviceId pubKey env.pair
    | _ => exact hs
  | @greet write device hphase =>
    rw [BleTask.after_iface]
    exact reachable_greet cr pb hs write
  | @recvInput envs deviceId event rest hphase hevent =>
    rw [BleTask.after_iface, BleInterface.handleInputEvent, reported_snd]
    exact reachable_sendPayloads cr pb hs _ envs
  | @recvNotification deviceId n rest hphase hn =>
    rw [BleTask.after_iface, (s.iface.handleNotification_keeps cr pb deviceId n).1]
    exact hs

end Task

/-! ### The attempts of a run -/

/-- The attempt a call makes. -/
def connectCall (m : BleManager) : ManagerAction → List ConnectCall
  | .connect device env => [.of m device env]
  | _ => []

/-- The manager with the attempts made so far. -/
def withConnects : Transition.System (BleManager × List ConnectCall) ManagerAction :=
  bleManager.withHistory [] fun calls m a _ => calls ++ connectCall m a

/-- Whatever a call reads of a peripheral's properties has its address. -/
def ManagerAction.Reports (addr : Peripheral → String) : ManagerAction → Prop
  | .discover env => ReportsAddresses addr env.properties
  | .connect _ env => ReportsAddresses addr env.properties
  | .write .. => True

/-- The condition on a call. -/
def Remembers (m : BleManager) : ManagerAction → Prop
  | .connect device env => RemembersConnected m device env
  | _ => True

/-- A call is faithful exactly when the manager remembers a device it may take. -/
theorem faithful_of_connectCall {addr : Peripheral → String} (hinj : Function.Injective addr)
    {m : BleManager} {a : ManagerAction} (hreports : a.Reports addr) :
    (∀ c ∈ connectCall m a, c.Faithful addr) ↔ Remembers m a := by
  cases a with
  | discover | write => exact iff_of_true nofun trivial
  | connect device env =>
    rw [connectCall, List.forall_mem_singleton]
    exact faithful_iff hinj m device hreports

/-- Over peripherals with distinct addresses: in every run in which a peripheral that is asked for
while it is connected already is the one that is remembered, or another one is and the attempt
fails, no attempt panics, and each one that returns `Ok` is connected to the peripheral with the
device's address. The first attempt that does not meet this panics or connects to another one. -/
theorem connect_faithful {addr : Peripheral → String} (hinj : Function.Injective addr)
    {p : BleManager × List ConnectCall}
    (h : withConnects.ReachableVia (fun p a => a.Reports addr ∧ Remembers p.1 a) p) :
    (∀ c ∈ p.2, c.Faithful addr) ∧
    ∀ a q, withConnects.step p a = some q → a.Reports addr → ¬ Remembers p.1 a →
      ∃ c ∈ q.2, ¬ c.Faithful addr := by
  refine ⟨?_, fun a q hstep hreports hnot => ?_⟩
  · refine h.invariant_withHistory (I := fun _ calls => ∀ c ∈ calls, c.Faithful addr)
      (fun _ _ => nofun) fun m calls a _ hall ha _ c hc => ?_
    rcases List.mem_append.mp hc with hc | hc
    · exact hall c hc
    · exact (faithful_of_connectCall hinj ha.1).mpr ha.2 c hc
  · obtain ⟨-, hq⟩ := Transition.System.withHistory_step_iff.mp hstep
    rw [← faithful_of_connectCall hinj hreports] at hnot
    simp only [not_forall] at hnot
    obtain ⟨c, hc, hfalse⟩ := hnot
    exact ⟨c, by rw [hq]; exact List.mem_append_right _ hc, hfalse⟩

/-- An address for each peripheral; the first one is the sample device's. -/
def Sample.addressOf (p : Peripheral) : String :=
  String.ofList ("00:00:00:00:00:A".toList ++ List.replicate (p.handle + 1) '1')

theorem Sample.addressOf_injective : Function.Injective Sample.addressOf := by
  rintro ⟨m⟩ ⟨n⟩ h
  have hdigits := List.append_cancel_left (String.ofList_injective h)
  have hlength := congrArg List.length hdigits
  simpa only [List.length_replicate, Nat.add_right_cancel_iff, Peripheral.mk.injEq] using hlength

/-- What the peripherals advertise: the sample device's properties with the address of each. -/
def Sample.advertised (p : Peripheral) : Except String (Option Properties) :=
  .ok (some { Sample.properties with address := Sample.addressOf p })

theorem Sample.reports_advertised : ReportsAddresses Sample.addressOf Sample.advertised := by
  rintro p _ ⟨⟩
  rfl

/-- A scan of these peripherals. -/
def Sample.discover : ManagerAction :=
  .discover { Sample.scanEnv with properties := Sample.advertised }

/-- What they answer to a connection attempt, connected already or not. -/
def Sample.attemptEnv (isConnected : Bool) : ConnectEnv :=
  { Sample.connectEnv with
    properties := Sample.advertised
    isConnected := fun _ => .ok isConnected }

/-- The device is found and connected. -/
theorem connect_faithful_sample :
    ∃ c : ConnectCall, c.result = .ok "a1" ∧ c.Faithful Sample.addressOf := by
  have hinit : withConnects.ReachableVia
      (fun p a => a.Reports Sample.addressOf ∧ Remembers p.1 a) (BleManager.new, []) :=
    .init ⟨rfl, rfl⟩
  have hscan := hinit.step (a := Sample.discover) ⟨Sample.reports_advertised, trivial⟩ rfl
  have hrun := hscan.step (a := ManagerAction.connect Sample.device (Sample.attemptEnv false))
    ⟨Sample.reports_advertised, fun _ _ _ hconnected => by cases hconnected⟩ rfl
  exact ⟨_, rfl, (connect_faithful Sample.addressOf_injective hrun).1 _ List.mem_cons_self⟩

/-- The device is found and connected already: the attempt panics. -/
theorem connected_before_panics :
    ¬ ∀ addr : Peripheral → String, Function.Injective addr →
      ∀ p, withConnects.ReachableVia (fun _ a => a.Reports addr) p →
        ∀ c ∈ p.2, c.Faithful addr := by
  intro hclaim
  have hinit : withConnects.ReachableVia (fun _ a => a.Reports Sample.addressOf)
      (BleManager.new, []) := .init ⟨rfl, rfl⟩
  have hscan := hinit.step (a := Sample.discover) Sample.reports_advertised rfl
  have hrun := hscan.step (a := ManagerAction.connect Sample.device (Sample.attemptEnv true))
    Sample.reports_advertised rfl
  exact (hclaim _ Sample.addressOf_injective _ hrun _ List.mem_cons_self).1 rfl

end ToothPaste
