import ToothPaste.Ble.Spec
import ToothPaste.Ble.Task

/-!
# The steps of the BLE task

`Moves` lists what each step needs and what it leaves behind; proofs about runs go through its
cases (`moves_of_step`) and never unfold `step`. `WellFormed` is what holds of the task in every
reachable state, whatever fails: a cached peripheral is a connected one, the loop runs for the
device id of the interface, and before the loop is entered there is neither an AES key nor an
authenticated device.
-/

namespace ToothPaste

/-- The device id `run` was called for. -/
def Phase.runId : Phase → Option String
  | .subscribing deviceId | .opening deviceId | .running deviceId => some deviceId
  | _ => none

/-- `run` has subscribed to the notifications. -/
def Phase.subscribed : Phase → Bool
  | .opening _ | .running _ => true
  | _ => false

/-- The loop of `run` has been entered, or the task has stopped. -/
def Phase.entered : Phase → Bool
  | .running _ | .stopped => true
  | _ => false

namespace BleTask

open BleInterface (KeepsKeys SamePeripherals samePeripherals_of_ble samePeripherals_wrote)

variable {SK PK : Type} {cr : Crates SK PK} {pb : Prost} {s t : BleTask SK} {a : BleAction SK}

/-! ## After a call -/

section After

variable (s : BleTask SK) (next : Phase) (r : Except Fault Unit × BleInterface SK)

/-- The task goes on in the next phase, or has stopped. -/
theorem after_cases : s.after next r = { s with iface := r.2, phase := next } ∨
    s.after next r = stop { s with iface := r.2 } := by
  match r with
  | (.ok (), _) => exact .inl rfl
  | (.error (.err _), _) => exact .inl rfl
  | (.error .panic, _) => exact .inr rfl
  | (.error .exit, _) => exact .inr rfl

@[simp]
theorem after_iface : (s.after next r).iface = r.2 := by
  rcases after_cases s next r with h | h <;> simp [h, stop]

@[simp]
theorem after_inputs : (s.after next r).inputs = s.inputs := by
  rcases after_cases s next r with h | h <;> simp [h, stop]

@[simp]
theorem after_commands : (s.after next r).commands = s.commands := by
  rcases after_cases s next r with h | h <;> simp [h, stop]

/-- The task is in the next phase or has stopped. -/
theorem after_phase : (s.after next r).phase = next ∨ (s.after next r).phase = .stopped := by
  rcases after_cases s next r with h | h <;> rw [h]
  · exact .inl rfl
  · exact .inr rfl

/-- A call that returns lets the task go on. -/
theorem after_ok (iface : BleInterface SK) :
    s.after next (.ok (), iface) = { s with iface, phase := next } := rfl

end After

/-- A command that `ble_task` takes itself leaves the channels alone. -/
theorem channels_idleCommand (cr : Crates SK PK) (pb : Prost) (b : BleTask SK) (cmd : AppCommand)
    (env : CommandEnv SK) :
    (idleCommand cr pb b cmd env).commands = b.commands ∧
      (idleCommand cr pb b cmd env).inputs = b.inputs := by
  cases cmd with
  | scanForDevices | sendKeyboardInput | sendMouseJiggle =>
    exact ⟨after_commands .., after_inputs ..⟩
  | connectToDevice device =>
    rw [idleCommand]
    rcases b.iface.connectBle device env.connect with ⟨_ | _, iface⟩
    · exact ⟨after_commands .., after_inputs ..⟩
    · exact ⟨rfl, rfl⟩
  | killService | disconnectDevice | pairDevice | updateSettings => exact ⟨rfl, rfl⟩

/-! ## Cases of a step -/

/-- The steps from `s`: what each action needs, and the state after it. -/
inductive Moves (cr : Crates SK PK) (pb : Prost) (s : BleTask SK) :
    BleAction SK → BleTask SK → Prop
  | putInput {event : InputEvent} (hroom : s.inputs.length < inputCapacity) :
      Moves cr pb s (.putInput event) { s with inputs := s.inputs ++ [event] }
  | putCommand {cmd : AppCommand} (hroom : s.commands.length < commandCapacity) :
      Moves cr pb s (.putCommand cmd) { s with commands := s.commands ++ [cmd] }
  | notify {n : ValueNotification} (hopen : s.streamOpen = true) :
      Moves cr pb s (.notify n) { s with notifications := s.notifications ++ [n] }
  | notifyLost {n : ValueNotification} (hclosed : s.streamOpen = false) :
      Moves cr pb s (.notify n) s
  | endStream : Moves cr pb s .endStream { s with streamOpen := false }
  | idleCommand {env : CommandEnv SK} {cmd : AppCommand} {rest : List AppCommand}
      (hphase : s.phase = .idle) (hcmd : s.commands = cmd :: rest) :
      Moves cr pb s (.recvCommand env)
        (BleTask.idleCommand cr pb { s with commands := rest } cmd env)
  | command {env : CommandEnv SK} {deviceId : String} {cmd : AppCommand} {rest : List AppCommand}
      (hphase : s.phase = .running deviceId) (hcmd : s.commands = cmd :: rest) :
      Moves cr pb s (.recvCommand env) (after { s with commands := rest } (.running deviceId)
        (s.iface.handleCommand cr pb deviceId cmd env.pair env.send))
  | greet {write : Except String Unit} {device : Device} (hphase : s.phase = .greeting device) :
      Moves cr pb s (.greet write) (s.after (.publishing device) (s.iface.greet cr pb write))
  | publish {device : Device} {deviceId : String} (hphase : s.phase = .publishing device)
      (hid : s.iface.deviceId = some deviceId) :
      Moves cr pb s .publish
        { s with iface := s.iface.publishConnected device, phase := .subscribing deviceId }
  | publishNone {device : Device} (hphase : s.phase = .publishing device)
      (hid : s.iface.deviceId = none) :
      Moves cr pb s .publish { s with iface := s.iface.publishConnected device, phase := .idle }
  | subscribe {result : Except String Unit} {deviceId : String}
      (hphase : s.phase = .subscribing deviceId)
      (hok : s.iface.ble.subscribeSemaphore result = .ok ()) :
      Moves cr pb s (.subscribe result) { s with phase := .opening deviceId }
  | subscribeFails {result : Except String Unit} {deviceId : String}
      (hphase : s.phase = .subscribing deviceId) :
      Moves cr pb s (.subscribe result) { s with phase := .idle }
  | openStream {deviceId : String} (hphase : s.phase = .opening deviceId) :
      Moves cr pb s (.openStream (.ok ()))
        { s with phase := .running deviceId, notifications := [], streamOpen := true }
  | openStreamFails {e deviceId : String} (hphase : s.phase = .opening deviceId) :
      Moves cr pb s (.openStream (.error e)) { s with phase := .idle }
  | recvInput {envs : ℕ → SendEnv} {deviceId : String} {event : InputEvent}
      {rest : List InputEvent} (hphase : s.phase = .running deviceId)
      (hevent : s.inputs = event :: rest) :
      Moves cr pb s (.recvInput envs) (after { s with inputs := rest } (.running deviceId)
        (s.iface.handleInputEvent cr pb event envs))
  | recvNotification {deviceId : String} {n : ValueNotification}
      {rest : List ValueNotification} (hphase : s.phase = .running deviceId)
      (hn : s.notifications = n :: rest) :
      Moves cr pb s .recvNotification (after { s with notifications := rest }
        (.running deviceId) (s.iface.handleNotification cr pb deviceId n))

/-- Every step is one of the cases. -/
theorem moves_of_step (h : step cr pb s a = some t) : Moves cr pb s a t := by
  cases a with
  | putInput event =>
    simp only [step] at h
    split_ifs at h with hroom
    cases h; exact .putInput hroom
  | putCommand cmd =>
    simp only [step] at h
    split_ifs at h with hroom
    cases h; exact .putCommand hroom
  | notify n =>
    simp only [step] at h
    split_ifs at h with hopen
    · cases h; exact .notify hopen
    · cases h; exact .notifyLost (by simpa using hopen)
  | endStream => cases h; exact .endStream
  | recvCommand env =>
    simp only [step] at h
    split at h
    next hphase hcmd => cases h; exact .idleCommand hphase hcmd
    next hphase hcmd => cases h; exact .command hphase hcmd
    next => cases h
  | greet write =>
    simp only [step] at h
    split at h
    next hphase => cases h; exact .greet hphase
    next => cases h
  | publish =>
    simp only [step] at h
    split at h
    next device hphase =>
      split at h
      next hid => cases h; exact .publishNone hphase hid
      next hid => cases h; exact .publish hphase hid
    next => cases h
  | subscribe result =>
    simp only [step] at h
    split at h
    next hphase =>
      split at h
      next => cases h; exact .subscribeFails hphase
      next hok => cases h; exact .subscribe hphase hok
    next => cases h
  | openStream result =>
    simp only [step] at h
    split at h
    next hphase =>
      split at h
      next => cases h; exact .openStreamFails hphase
      next => cases h; exact .openStream hphase
    next => cases h
  | recvInput envs =>
    simp only [step] at h
    split at h
    next hphase hevent => cases h; exact .recvInput hphase hevent
    next => cases h
  | recvNotification =>
    simp only [step] at h
    split at h
    next hphase hn => cases h; exact .recvNotification hphase hn
    next => cases h

/-! ## Well-formed states -/

/-- What holds of the phase and the interface in every reachable state, whatever fails. -/
structure WellFormed (phase : Phase) (i : BleInterface SK) : Prop where
  linked : i.Linked
  cached : phase.subscribed = true → i.ble.cachedPeripheral.isSome = true
  device : ∀ deviceId, phase.runId = some deviceId → i.deviceId = some deviceId
  keyless : phase.entered = false → i.ecdh.activeKey = none
  unauthenticated : phase.entered = false → i.appState.isAuthenticated = false

theorem wellFormed_start (storage : StorageService) :
    WellFormed (start storage : BleTask SK).phase (start storage : BleTask SK).iface where
  linked := by rintro ⟨⟩
  cached := by rintro ⟨⟩
  device := by rintro deviceId ⟨⟩
  keyless _ := rfl
  unauthenticated _ := rfl

/-- Back in the loop after a handler that keeps the device id and the peripherals. -/
theorem WellFormed.handled {i j : BleInterface SK} {deviceId : String} {phase : Phase}
    (h : WellFormed (.running deviceId) i) (hsame : SamePeripherals i j)
    (hid : j.deviceId = i.deviceId) (hphase : phase = .running deviceId ∨ phase = .stopped) :
    WellFormed phase j where
  linked := hsame.linked h.linked
  cached _ := by rw [hsame.cached, h.cached rfl]
  device id hrun := by
    rcases hphase with rfl | rfl
    · rw [hid, h.device id hrun]
    · cases hrun
  keyless hentered := by rcases hphase with rfl | rfl <;> cases hentered
  unauthenticated hentered := by rcases hphase with rfl | rfl <;> cases hentered

/-- Before the loop, after something that keeps the keys and authenticates nobody. -/
theorem WellFormed.keeps {i j : BleInterface SK} {phase phase' : Phase}
    (h : WellFormed phase i) (hphase : phase.entered = false) (hkeys : KeepsKeys i j)
    (hauth : j.appState.isAuthenticated = false) (hrun : phase'.runId = none) :
    WellFormed phase' j where
  linked := hkeys.linked h.linked
  cached hsub := by
    cases phase' with
    | opening | running => cases hrun
    | _ => cases hsub
  device deviceId hid := by rw [hrun] at hid; cases hid
  keyless _ := by rw [hkeys.ecdh, h.keyless hphase]
  unauthenticated _ := hauth

theorem keepsKeys_refl (i : BleInterface SK) : KeepsKeys i i := ⟨rfl, rfl, id⟩

/-- What a command that `ble_task` takes itself keeps: nothing is written, and neither the keys, the
connected device nor the input channel change. The stream is kept, or dropped with the task. -/
structure IdleKeeps (s t : BleTask SK) : Prop where
  keys : KeepsKeys s.iface t.iface
  connectedDevice : t.iface.appState.connectedDevice = s.iface.appState.connectedDevice
  runId : t.phase.runId = none
  inputs : t.inputs = s.inputs
  stream : t.notifications = s.notifications ∧ t.streamOpen = s.streamOpen ∨
    t.notifications = [] ∧ t.streamOpen = false

theorem idleKeeps_after {r : Except Fault Unit × BleInterface SK} (hkeys : KeepsKeys s.iface r.2)
    (hdevice : r.2.appState.connectedDevice = s.iface.appState.connectedDevice) :
    IdleKeeps s (s.after .idle r) where
  keys := by rwa [after_iface]
  connectedDevice := by rw [after_iface, hdevice]
  runId := by rcases s.after_phase .idle r with h | h <;> rw [h] <;> rfl
  inputs := after_inputs ..
  stream := by
    rcases s.after_cases .idle r with h | h <;> rw [h]
    · exact .inl ⟨rfl, rfl⟩
    · exact .inr ⟨rfl, rfl⟩

/-- Before the loop is entered there is no AES key, so that a command that would send something
sends nothing. -/
theorem idleCommand_keeps (cr : Crates SK PK) (pb : Prost) (hkey : s.iface.ecdh.activeKey = none)
    (hphase : s.phase = .idle) (cmd : AppCommand) (env : CommandEnv SK) :
    IdleKeeps s (idleCommand cr pb s cmd env) := by
  have hsame : IdleKeeps s s := ⟨keepsKeys_refl _, rfl, by rw [hphase]; rfl, rfl, .inl ⟨rfl, rfl⟩⟩
  have hsend : ∀ payload env', IdleKeeps s
      (s.after .idle (s.iface.encryptAndSend cr pb payload env')) := by
    intro payload env'
    rw [BleInterface.encryptAndSend_keyless hkey]
    exact idleKeeps_after (keepsKeys_refl _) rfl
  cases cmd with
  | scanForDevices =>
    obtain ⟨hkeys, -, hdevice⟩ := s.iface.scan_spec env.scan
    exact idleKeeps_after hkeys hdevice
  | connectToDevice device =>
    obtain ⟨hkeys, happ⟩ := s.iface.connectBle_spec device env.connect
    rw [idleCommand]
    rcases hconnect : s.iface.connectBle device env.connect with ⟨r, iface⟩
    rw [hconnect] at hkeys happ
    cases r with
    | ok u => exact ⟨hkeys, congrArg _ happ, rfl, rfl, .inl ⟨rfl, rfl⟩⟩
    | error e => exact idleKeeps_after hkeys (congrArg _ happ)
  | sendKeyboardInput text => exact hsend _ _
  | sendMouseJiggle enable => exact hsend _ _
  | killService => exact ⟨keepsKeys_refl _, rfl, rfl, rfl, .inr ⟨rfl, rfl⟩⟩
  | disconnectDevice | pairDevice | updateSettings => exact hsame

/-- The same for a step of `ble_task` that takes a command. -/
theorem idleStep_keeps (cr : Crates SK PK) (pb : Prost) (hwf : WellFormed s.phase s.iface)
    (hphase : s.phase = .idle) (cmd : AppCommand) (rest : List AppCommand) (env : CommandEnv SK) :
    IdleKeeps s (idleCommand cr pb { s with commands := rest } cmd env) := by
  have hkey : s.iface.ecdh.activeKey = none := hwf.keyless (by rw [hphase]; rfl)
  obtain ⟨hkeys, hdevice, hrun, hinputs, hstream⟩ :=
    idleCommand_keeps cr pb (s := { s with commands := rest }) hkey hphase cmd env
  exact ⟨hkeys, hdevice, hrun, hinputs, hstream⟩

/-- Subscribing needs the cached characteristics. -/
theorem cached_of_subscribe {i : BleInterface SK} {result : Except String Unit}
    (hok : i.ble.subscribeSemaphore result = .ok ()) : i.ble.cachedPeripheral.isSome = true := by
  unfold BleManager.subscribeSemaphore at hok
  cases hconnected : i.ble.connectedPeripherial with
  | none => simp [hconnected] at hok
  | some p =>
    cases hcached : i.ble.cachedPeripheral with
    | none => simp [hconnected, hcached] at hok
    | some cached => rfl

/-- Every step keeps states well formed. -/
theorem wellFormed_step (hcr : cr.Lawful) (h : WellFormed s.phase s.iface)
    (hm : Moves cr pb s a t) : WellFormed t.phase t.iface := by
  cases hm with
  | putInput | putCommand | notify | notifyLost | endStream => exact h
  | @idleCommand env cmd rest hphase hcmd =>
    have hidle := idleStep_keeps cr pb h hphase cmd rest env
    rw [hphase] at h
    refine h.keeps rfl hidle.keys ?_ hidle.runId
    rw [isAuthenticated_congr hidle.connectedDevice, h.unauthenticated rfl]
  | command hphase hcmd =>
    rw [hphase] at h
    obtain ⟨hsame, hid, -⟩ := BleInterface.handleCommand_keeps hcr pb h.linked _ _ _ _
    exact h.handled (by simpa using hsame) (by simpa using hid) (after_phase ..)
  | @greet write device hphase =>
    rw [hphase] at h
    obtain ⟨values, hgreet, -⟩ := BleInterface.greet_spec cr pb h.linked write
    rw [hgreet, after_ok]
    exact ⟨h.linked.wrote values, nofun, nofun, fun _ => h.keyless rfl,
      fun _ => h.unauthenticated rfl⟩
  | publish hphase hid =>
    rw [hphase] at h
    -- `run` is called for the device id that `connect_to_device` has set
    exact ⟨h.linked, nofun, fun _ hrun => hid.trans hrun, fun _ => h.keyless rfl, fun _ => rfl⟩
  | publishNone hphase hid =>
    rw [hphase] at h
    exact ⟨h.linked, nofun, nofun, fun _ => h.keyless rfl, fun _ => rfl⟩
  | @subscribe result deviceId hphase hok =>
    rw [hphase] at h
    exact ⟨h.linked, fun _ => cached_of_subscribe hok, h.device, fun _ => h.keyless rfl,
      fun _ => h.unauthenticated rfl⟩
  | subscribeFails hphase =>
    rw [hphase] at h
    exact ⟨h.linked, nofun, nofun, fun _ => h.keyless rfl, fun _ => h.unauthenticated rfl⟩
  | openStream hphase =>
    rw [hphase] at h
    -- from here on nothing is claimed about keys: the loop is entered
    exact ⟨h.linked, fun _ => h.cached rfl, h.device, nofun, nofun⟩
  | openStreamFails hphase =>
    rw [hphase] at h
    exact ⟨h.linked, nofun, nofun, fun _ => h.keyless rfl, fun _ => h.unauthenticated rfl⟩
  | @recvInput envs deviceId event rest hphase hevent =>
    rw [hphase] at h
    obtain ⟨values, hinput, -⟩ :=
      BleInterface.handleInputEvent_spec hcr pb h.linked event envs
    rw [hinput]
    exact h.handled (samePeripherals_wrote s.iface values) rfl (after_phase ..)
  | @recvNotification deviceId n rest hphase hn =>
    rw [hphase] at h
    obtain ⟨hble, hid⟩ :=
      s.iface.handleNotification_keeps cr pb deviceId n
    exact h.handled (samePeripherals_of_ble (by simpa using hble)) (by simpa using hid)
      (after_phase ..)

/-- Every reachable state is well formed. -/
theorem wellFormed_of_reachable (hcr : cr.Lawful) (h : (bleTask cr pb).Reachable s) :
    WellFormed s.phase s.iface :=
  h.invariant (by rintro s ⟨storage, rfl⟩; exact wellFormed_start storage)
    fun _ _ _ hs hst => wellFormed_step hcr hs (moves_of_step hst)

/-! ## What a step handles -/

/-- The challenge a step hands to `on_challenge`, with the device id it is handled for. -/
def handledChallenge (pb : Prost) (s : BleTask SK) :
    BleAction SK → Option (String × ResponsePacket)
  | .recvNotification =>
    match s.phase, s.notifications with
    | .running deviceId, n :: _ => (challengeOf pb n).map fun packet => (deviceId, packet)
    | _, _ => none
  | _ => none

/-- The device id and the key of the `PairDevice` command a step handles. -/
def handledPairing (s : BleTask SK) : BleAction SK → Option (String × String)
  | .recvCommand _ =>
    match s.phase, s.commands with
    | .running deviceId, .pairDevice _ pubKey :: _ => some (deviceId, pubKey)
    | _, _ => none
  | _ => none

theorem handledChallenge_eq {deviceId : String} {n : ValueNotification}
    {rest : List ValueNotification} (hphase : s.phase = .running deviceId)
    (hn : s.notifications = n :: rest) :
    handledChallenge pb s .recvNotification =
      (challengeOf pb n).map fun packet => (deviceId, packet) := by
  simp only [handledChallenge, hphase, hn]

theorem handledPairing_eq {env : CommandEnv SK} {deviceId : String} {device : Device}
    {pubKey : String} {rest : List AppCommand} (hphase : s.phase = .running deviceId)
    (hcmd : s.commands = .pairDevice device pubKey :: rest) :
    handledPairing s (.recvCommand env) = some (deviceId, pubKey) := by
  simp only [handledPairing, hphase, hcmd]

/-- `generate_device_keys` runs for this key: it parses and is a point. -/
def pairable (cr : Crates SK PK) (pubKey : String) : Bool :=
  match parsePubKey cr pubKey with
  | none => false
  | some bytes => (cr.fromSec1Bytes bytes.toList).isSome

/-- A key that is not pairable changes nothing. -/
theorem pairable_eq_false_iff {pubKey : String} :
    pairable cr pubKey = false ↔
      ∀ bytes, parsePubKey cr pubKey = some bytes → cr.fromSec1Bytes bytes.toList = none := by
  unfold pairable
  cases parsePubKey cr pubKey <;> simp

/-- The AES key a load derives, if it returns `Ok`. -/
def loadedKey (cr : Crates SK PK) (c : EcdhContext SK) (deviceId : String)
    (challengeData : Bytes) : Option (ByteArr 32) :=
  match c.loadDeviceKeys cr deviceId challengeData with
  | (.ok _, c) => c.activeKey
  | (.error _, _) => none

/-- The device id and the AES key of the load a step makes, if it returns `Ok`. -/
def derivedKey (cr : Crates SK PK) (pb : Prost) (s : BleTask SK) (a : BleAction SK) :
    Option (String × ByteArr 32) :=
  match handledChallenge pb s a with
  | some (deviceId, packet) =>
    (loadedKey cr s.iface.ecdh deviceId packet.challengeData).map fun key => (deviceId, key)
  | none => none

/-- `generate_device_keys` runs in a step. -/
def generates (cr : Crates SK PK) (s : BleTask SK) (a : BleAction SK) : Bool :=
  match handledPairing s a with
  | some (_, pubKey) => pairable cr pubKey
  | none => false

/-! ## Where the active key comes from -/

/-- A key that is active after a load was derived by it, or was active before. -/
theorem activeKey_of_loadedKey {c : EcdhContext SK} {deviceId : String} {challengeData : Bytes}
    {key : ByteArr 32}
    (hkey : (c.loadDeviceKeys cr deviceId challengeData).2.activeKey = some key) :
    loadedKey cr c deviceId challengeData = some key ∨
      loadedKey cr c deviceId challengeData = none ∧ c.activeKey = some key := by
  unfold loadedKey
  have hcases := EcdhContext.activeKey_of_load cr c deviceId challengeData
  rcases hload : c.loadDeviceKeys cr deviceId challengeData with ⟨r, c'⟩
  rw [hload] at hcases hkey
  rcases hcases with ⟨ourKey, -, rfl, -⟩ | ⟨e, rfl, hsame | hnone⟩
  · exact .inl hkey
  · exact .inr ⟨rfl, hsame.symm.trans hkey⟩
  -- a session whose peer key is no point became active without a key
  · rw [hnone] at hkey
    cases hkey

/-- A key that is active after a step was derived by the step for the connected device, or was
active before it, with no keys generated in between. -/
theorem activeKey_step (hcr : cr.Lawful) (hwf : WellFormed s.phase s.iface)
    (hm : Moves cr pb s a t) {key : ByteArr 32} (hkey : t.iface.ecdh.activeKey = some key) :
    (∃ deviceId, derivedKey cr pb s a = some (deviceId, key) ∧
      t.iface.deviceId = some deviceId) ∨
    (derivedKey cr pb s a = none ∧ generates cr s a = false ∧
      s.iface.ecdh.activeKey = some key ∧ t.iface.deviceId = s.iface.deviceId) := by
  cases hm with
  | putInput | putCommand | notify | notifyLost | endStream => exact .inr ⟨rfl, rfl, hkey, rfl⟩
  | @idleCommand env cmd rest hphase hcmd =>
    -- there is no key before the loop is entered
    have hkeyless : s.iface.ecdh.activeKey = none := hwf.keyless (by rw [hphase]; rfl)
    rw [(idleStep_keeps cr pb hwf hphase cmd rest env).keys.ecdh, hkeyless] at hkey
    cases hkey
  | @command env deviceId cmd rest hphase hcmd =>
    rw [after_iface] at hkey ⊢
    rcases BleInterface.handleCommand_cases hcr pb hwf.linked deviceId cmd env.pair env.send with
        ⟨device, pubKey, rfl, hpair⟩ | ⟨hne, r, values, hsend, -⟩
    · rw [hpair] at hkey ⊢
      refine .inr ⟨rfl, ?_⟩
      rw [generates, handledPairing_eq hphase hcmd]
      rcases BleInterface.handlePairDevice_cases hcr pb hwf.linked deviceId pubKey env.pair with
          ⟨hnone, hsame⟩ | ⟨bytes, r, ecdh, -, ⟨peer, hpeer⟩, hnew, hchanged⟩
      · rw [hsame] at hkey ⊢
        exact ⟨pairable_eq_false_iff.mpr hnone, hkey, rfl⟩
      -- a pairing that got as far as generating keys leaves none
      · have hkeyless := EcdhContext.activeKey_of_pair hcr s.iface.ecdh hpeer deviceId
          env.pair.privateKey env.pair.save
        rw [hnew] at hkeyless
        rw [hchanged] at hkey
        cases r <;> exact absurd (hkeyless.symm.trans hkey) nofun
    · rw [hsend] at hkey ⊢
      refine .inr ⟨rfl, ?_, hkey, rfl⟩
      simp only [generates, handledPairing, hphase, hcmd]
      cases cmd <;> simp_all
  | @greet write device hphase =>
    obtain ⟨values, hgreet, -⟩ :=
      BleInterface.greet_spec cr pb hwf.linked write
    rw [hgreet] at hkey ⊢
    exact .inr ⟨rfl, rfl, hkey, rfl⟩
  | publish | publishNone | subscribe | subscribeFails | openStream | openStreamFails =>
    exact .inr ⟨rfl, rfl, hkey, rfl⟩
  | @recvInput envs deviceId event rest hphase hevent =>
    obtain ⟨values, hinput, -⟩ :=
      BleInterface.handleInputEvent_spec hcr pb hwf.linked event envs
    rw [hinput] at hkey ⊢
    exact .inr ⟨rfl, rfl, hkey, rfl⟩
  | @recvNotification deviceId n rest hphase hn =>
    have hid := hwf.device deviceId (by rw [hphase]; rfl)
    rw [after_iface] at hkey ⊢
    rw [derivedKey, handledChallenge_eq hphase hn]
    cases hchallenge : challengeOf pb n with
    | none =>
      obtain ⟨hecdh, -, hid', -⟩ :=
        s.iface.handleNotification_other cr deviceId hchallenge
      exact .inr ⟨rfl, rfl, hecdh ▸ hkey, hid'⟩
    | some packet =>
      rw [s.iface.handleNotification_challenge cr deviceId hchallenge] at hkey ⊢
      obtain ⟨hecdh, -, hid'⟩ := s.iface.onChallenge_spec cr deviceId
        packet.challengeData packet.firmwareVersion
      rw [hecdh] at hkey
      rcases activeKey_of_loadedKey hkey with hnew | ⟨hnone, hold⟩
      · exact .inl ⟨deviceId, congrArg (Option.map _) hnew, hid'.trans hid⟩
      · exact .inr ⟨congrArg (Option.map _) hnone, rfl, hold, hid'⟩

end BleTask

end ToothPaste
