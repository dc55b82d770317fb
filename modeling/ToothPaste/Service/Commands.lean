import ToothPaste.Service.System

/-!
# Commands in the two loops

The command channel is read by the loop of `ble_task` while no device is connected, and by the loop
of `run` from then on. `Executed` says what a command is for; a loop that takes a command and does
nothing of the kind drops it.

* `executed_iff`: the two sends are executed by either loop, a scan and a connection by `ble_task`
  only, and an update of the settings by neither.
* `settings_dropped`: `ble_task` takes an update of the settings and publishes nothing.
-/

namespace ToothPaste

namespace Service

variable {SK PK : Type} {cr : Crates SK PK} {pb : Prost} {s t : Service SK}

/-- The effect of a command that is taken with the interface `i` and leaves the interface `j`. -/
def Effect (cr : Crates SK PK) (pb : Prost) (cmd : AppCommand) (env : CommandEnv SK)
    (i j : BleInterface SK) : Prop :=
  match cmd with
  | .scanForDevices => j = (i.scan env.scan).2
  | .connectToDevice device => j = (i.connectBle device env.connect).2
  | .updateSettings autoConnect passwordProtected settingsFilePath =>
    j.appState.autoConnect = autoConnect ∧ j.appState.passwordProtected = passwordProtected ∧
      j.appState.settingsFilePath = settingsFilePath
  | .sendKeyboardInput text => j = (i.sendKeyboardString cr pb text env.send).2
  | .sendMouseJiggle enable => j = (i.sendMouseJiggle cr pb enable env.send).2
  | _ => True

/-- The next command is executed: however the calls it makes turn out, taking it has its effect. -/
def Executed (cr : Crates SK PK) (pb : Prost) (s : Service SK) (cmd : AppCommand) : Prop :=
  ∀ env t, (service cr pb).step s (.task (.recvCommand env)) = some t →
    Effect cr pb cmd env s.task.iface t.task.iface

/-- The condition on the state in which a command is taken. -/
def TakenForEffect (s : Service SK) : AppCommand → Prop
  | .scanForDevices | .connectToDevice _ => s.task.phase = .idle
  | .updateSettings autoConnect passwordProtected settingsFilePath =>
    s.task.iface.appState.autoConnect = autoConnect ∧
      s.task.iface.appState.passwordProtected = passwordProtected ∧
      s.task.iface.appState.settingsFilePath = settingsFilePath
  | _ => True

/-! ## What the two loops do -/

/-- Either loop takes the next command, whatever its calls return. -/
theorem recvCommand_idle (hphase : s.task.phase = .idle) {cmd : AppCommand}
    {rest : List AppCommand} (hcmd : s.task.commands = cmd :: rest) (env : CommandEnv SK) :
    (service cr pb).step s (.task (.recvCommand env)) = some { s with
      task := BleTask.idleCommand cr pb { s.task with commands := rest } cmd env } := by
  simp only [service, step, BleTask.step, hphase, hcmd, Option.map_some]

theorem recvCommand_running {deviceId : String} (hphase : s.task.phase = .running deviceId)
    {cmd : AppCommand} {rest : List AppCommand} (hcmd : s.task.commands = cmd :: rest)
    (env : CommandEnv SK) :
    (service cr pb).step s (.task (.recvCommand env)) = some { s with
      task := BleTask.after { s.task with commands := rest } (.running deviceId)
        (s.task.iface.handleCommand cr pb deviceId cmd env.pair env.send) } := by
  simp only [service, step, BleTask.step, hphase, hcmd, Option.map_some]

/-- `ble_task` executes every command but an update of the settings. -/
theorem effect_idleCommand (b : BleTask SK) {cmd : AppCommand}
    (hne : ∀ autoConnect passwordProtected settingsFilePath,
      cmd ≠ .updateSettings autoConnect passwordProtected settingsFilePath) (env : CommandEnv SK) :
    Effect cr pb cmd env b.iface (BleTask.idleCommand cr pb b cmd env).iface := by
  cases cmd with
  | scanForDevices => exact BleTask.after_iface ..
  | sendKeyboardInput text => exact BleTask.after_iface ..
  | sendMouseJiggle enable => exact BleTask.after_iface ..
  | connectToDevice device =>
    rw [Effect, BleTask.idleCommand]
    rcases b.iface.connectBle device env.connect with ⟨e | u, iface⟩
    · exact BleTask.after_iface ..
    · rfl
  | updateSettings => exact absurd rfl (hne _ _ _)
  | _ => exact trivial

/-- The loop of `run` executes the two sends. -/
theorem effect_handleCommand (i : BleInterface SK) (deviceId : String) (env : CommandEnv SK) :
    (∀ text, Effect cr pb (.sendKeyboardInput text) env i
      (i.handleCommand cr pb deviceId (.sendKeyboardInput text) env.pair env.send).2) ∧
    ∀ enable, Effect cr pb (.sendMouseJiggle enable) env i
      (i.handleCommand cr pb deviceId (.sendMouseJiggle enable) env.pair env.send).2 :=
  ⟨fun _ => reported_snd _, fun _ => reported_snd _⟩

/-! ## Calls that make a difference -/

/-- A scan that finds the peripherals, each advertising the service. -/
def scanFinding (peripherals : List Peripheral) : ScanEnv where
  startScan := .ok ()
  peripherals := .ok peripherals
  properties _ := .ok (some ⟨none, "", none, [serviceUuid]⟩)

/-- Some scan changes what is published. -/
theorem exists_scan_ne (i : BleInterface SK) : ∃ env, (i.scan env).2 ≠ i := by
  -- a scan that finds something if nothing is published, and nothing otherwise
  cases hdevices : i.appState.devices with
  | nil =>
    refine ⟨scanFinding [⟨0⟩], fun heq => ?_⟩
    have hnone := congrArg (fun j => j.appState.devices) heq
    rw [hdevices] at hnone
    cases hnone
  | cons device devices =>
    refine ⟨scanFinding [], fun heq => ?_⟩
    have hsome := congrArg (fun j => j.appState.devices) heq
    rw [hdevices] at hsome
    cases hsome

/-- A peripheral with this address that answers every call and has this MAC address. -/
def answering (address : String) (macData : Bytes) : ConnectEnv where
  properties _ := .ok (some ⟨none, address, none, []⟩)
  parseAddress address := .ok address
  isConnected _ := .ok false
  connect _ := .ok ()
  discoverServices _ := .ok ()
  services _ _ := [⟨serviceUuid, [⟨packetCharacteristicUuid⟩, ⟨hidSemaphoreCharacteristicUuid⟩,
    ⟨macAddressCharacteristicUuid⟩]⟩]
  readMac _ := .ok macData

theorem deviceId_connectBle_answering {i : BleInterface SK} (hfound : i.ble.foundPeripherals ≠ [])
    (device : Device) (macData : Bytes) :
    (i.connectBle device (answering device.address macData)).2.deviceId =
      some (macString macData) := by
  obtain ⟨p, rest, hfound⟩ := List.exists_cons_of_ne_nil hfound
  have hfind : findPeripheral (answering device.address macData) device.address
      i.ble.foundPeripherals = .ok (some p) := by
    rw [hfound]
    exact if_pos rfl
  have hmac : (i.ble.bleConnectToothpaste device (answering device.address macData)).1 =
      .ok (macString macData) := by
    rw [BleManager.bleConnectToothpaste, hfind]
    rfl
  rw [BleInterface.connectBle]
  rcases hresult : i.ble.bleConnectToothpaste device (answering device.address macData) with
    ⟨r, ble⟩
  rw [hresult] at hmac
  subst hmac
  rfl

/-- Some connection changes the device id, if a peripheral has been found. -/
theorem exists_connect_ne {i : BleInterface SK} (hfound : i.ble.foundPeripherals ≠ [])
    (device : Device) : ∃ env, (i.connectBle device env).2 ≠ i := by
  -- two MAC addresses, of which one is not the present device id
  by_cases hid : i.deviceId = some (macString [])
  · refine ⟨answering device.address [0], fun heq => ?_⟩
    have hid' := deviceId_connectBle_answering hfound device [0]
    rw [heq, hid] at hid'
    exact absurd (Option.some.inj hid') (by decide)
  · refine ⟨answering device.address [], fun heq => hid ?_⟩
    rw [← heq]
    exact deviceId_connectBle_answering hfound device []

/-- These calls, with a pairing and a send that do not matter. -/
def calls (privateKey : SK) (scan : ScanEnv) (connect : ConnectEnv) : CommandEnv SK where
  scan := scan
  connect := connect
  pair := ⟨privateKey, ⟨List.Vector.replicate 12 0, .completes⟩, .ok ()⟩
  send := ⟨List.Vector.replicate 12 0, .ok ()⟩

/-! ## Both loops -/

section Loops

variable [Nonempty SK] {cmd : AppCommand} {rest : List AppCommand}

/-- The loop of `ble_task`. -/
theorem executed_idle (hphase : s.task.phase = .idle) (hcmd : s.task.commands = cmd :: rest) :
    Executed cr pb s cmd ↔ TakenForEffect s cmd := by
  have heffect : Executed cr pb s cmd ↔ ∀ env, Effect cr pb cmd env s.task.iface
      (BleTask.idleCommand cr pb { s.task with commands := rest } cmd env).iface := by
    constructor
    · exact fun h env => h env _ (recvCommand_idle hphase hcmd env)
    · intro h env t hst
      rw [recvCommand_idle hphase hcmd env, Option.some.injEq] at hst
      exact hst ▸ h env
  rw [heffect]
  cases cmd with
  | updateSettings autoConnect passwordProtected settingsFilePath =>
    obtain ⟨privateKey⟩ := ‹Nonempty SK›
    exact ⟨fun h => h (calls privateKey (scanFinding []) (answering "" [])), fun h _ => h⟩
  | scanForDevices | connectToDevice device =>
    exact iff_of_true (effect_idleCommand { s.task with commands := rest } nofun) hphase
  | _ => exact iff_of_true (effect_idleCommand { s.task with commands := rest } nofun) trivial

/-- The loop of `run`, once a peripheral has been found. -/
theorem executed_running {deviceId : String} (hphase : s.task.phase = .running deviceId)
    (hfound : s.task.iface.ble.foundPeripherals ≠ []) (hcmd : s.task.commands = cmd :: rest) :
    Executed cr pb s cmd ↔ TakenForEffect s cmd := by
  obtain ⟨privateKey⟩ := ‹Nonempty SK›
  have heffect : Executed cr pb s cmd ↔ ∀ env, Effect cr pb cmd env s.task.iface
      (s.task.iface.handleCommand cr pb deviceId cmd env.pair env.send).2 := by
    constructor
    · intro h env
      have hone := h env _ (recvCommand_running hphase hcmd env)
      rwa [BleTask.after_iface] at hone
    · intro h env t hst
      rw [recvCommand_running hphase hcmd env, Option.some.injEq] at hst
      rw [← hst, BleTask.after_iface]
      exact h env
  have hrunning : s.task.phase ≠ .idle := by
    rw [hphase]
    exact nofun
  rw [heffect]
  cases cmd with
  -- `run` changes nothing here, while some scan or connection would
  | scanForDevices =>
    obtain ⟨env, hne⟩ := exists_scan_ne s.task.iface
    exact iff_of_false (fun h => hne (h (calls privateKey env (answering "" []))).symm) hrunning
  | connectToDevice device =>
    obtain ⟨env, hne⟩ := exists_connect_ne hfound device
    exact iff_of_false (fun h => hne (h (calls privateKey (scanFinding []) env)).symm) hrunning
  | updateSettings autoConnect passwordProtected settingsFilePath =>
    exact ⟨fun h => h (calls privateKey (scanFinding []) (answering "" [])), fun h _ => h⟩
  | sendKeyboardInput text =>
    exact iff_of_true (fun env => (effect_handleCommand _ deviceId env).1 text) trivial
  | sendMouseJiggle enable =>
    exact iff_of_true (fun env => (effect_handleCommand _ deviceId env).2 enable) trivial
  | _ => exact iff_of_true (fun _ => trivial) trivial

/-- Whatever has happened before, and whichever loop takes the command: it is executed exactly when
it is a send, or a scan or a connection taken by `ble_task`, or an update of the settings to the
values that are published already. -/
theorem executed_iff (hcr : cr.Lawful) (h : (service cr pb).Reachable s)
    (hloop : s.task.phase = .idle ∨ ∃ deviceId, s.task.phase = .running deviceId)
    (hcmd : s.task.commands = cmd :: rest) :
    Executed cr pb s cmd ↔ TakenForEffect s cmd := by
  rcases hloop with hphase | ⟨deviceId, hphase⟩
  · exact executed_idle hphase hcmd
  -- the loop of `run` is entered with cached characteristics, so that a scan has found something
  · have hcached := (wellFormed_of_reachable hcr h).task.cached (by rw [hphase]; rfl)
    exact executed_running hphase (found_of_cached (bleManager_of_service h) hcached) hcmd

end Loops

/-- The service with one command in its channel. -/
def commanded (cmd : AppCommand) : Service UInt8 :=
  { Sample.startService with task := { Sample.startTask with commands := [cmd] } }

theorem reachable_commanded (cmd : AppCommand) :
    (service sampleCrates Sample.prost).Reachable (commanded cmd) := by
  have hinit : (service sampleCrates Sample.prost).Reachable Sample.startService :=
    .init ⟨_, 0, rfl⟩
  exact hinit.step (a := ServiceAction.task (.putCommand cmd)) rfl

/-- A scan is executed before a device is connected. -/
theorem executed_iff_sample :
    Executed sampleCrates Sample.prost (commanded .scanForDevices) .scanForDevices :=
  (executed_iff sampleCrates_lawful (reachable_commanded _) (.inl rfl) rfl).mpr rfl

/-- An update of the settings that protects them with a password is taken, and the published state
says they are not protected. -/
theorem settings_dropped :
    ¬ ∀ s, (service sampleCrates Sample.prost).Reachable s →
      (s.task.phase = .idle ∨ ∃ deviceId, s.task.phase = .running deviceId) →
      ∀ cmd rest, s.task.commands = cmd :: rest → Executed sampleCrates Sample.prost s cmd := by
  intro hclaim
  have hexecuted := hclaim _ (reachable_commanded (.updateSettings none true none)) (.inl rfl) _ _
    rfl
  obtain ⟨-, hprotected, -⟩ :=
    hexecuted (Sample.commandEnv 5) _ (recvCommand_idle rfl rfl (Sample.commandEnv 5))
  cases hprotected

end Service

end ToothPaste
