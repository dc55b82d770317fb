import ToothPaste.Ble.Shown
import ToothPaste.Service.System

/-!
# Listed devices

A scan publishes the devices it finds, and the manager keeps the peripherals of all scans. A client
chooses from a list that it may have read long ago, and the handler may publish such a list again.

* `listed_found`: of every device of every list that was ever published there is a peripheral, and
  an attempt to connect to the device finds it.
-/

namespace ToothPaste

variable {addr : Peripheral → String}

/-- Each device of the state has one of the peripherals at its address. -/
def ListedIn (addr : Peripheral → String) (found : List Peripheral) (app : AppState) : Prop :=
  ∀ d ∈ app.devices, ∃ p ∈ found, addr p = d.address

variable {found found' : List Peripheral} {app app' : AppState}

/-- More peripherals may be found. -/
theorem ListedIn.mono (h : ListedIn addr found app) (hfound : found ⊆ found') :
    ListedIn addr found' app := fun d hd => by
  obtain ⟨p, hp, haddr⟩ := h d hd
  exact ⟨p, hfound hp, haddr⟩

/-- Only the list of devices matters. -/
theorem ListedIn.congr (h : ListedIn addr found app) (hdevices : app'.devices = app.devices) :
    ListedIn addr found app' := fun d hd => h d (hdevices ▸ hd)

/-! ## The steps -/

namespace BleManager

/-- What the loop of a scan discovers was found at its address. -/
theorem listed_discoverLoop {env : ScanEnv} (hreports : ReportsAddresses addr env.properties)
    {peripherals : List Peripheral} {m m' : BleManager} {discovered devices : List Device}
    (hloop : m.discoverLoop env discovered peripherals = (.ok devices, m'))
    (hdiscovered : ∀ d ∈ discovered, ∃ p ∈ m.foundPeripherals, addr p = d.address) :
    ∀ d ∈ devices, ∃ p ∈ m'.foundPeripherals, addr p = d.address := by
  induction peripherals generalizing m discovered with
  | nil =>
    cases hloop
    exact hdiscovered
  | cons p rest ih =>
    rw [discoverLoop] at hloop
    cases hprops : env.properties p with
    | error e => simp [hprops] at hloop
    | ok props =>
      cases props with
      | none => exact ih (by simpa only [hprops] using hloop) hdiscovered
      | some props =>
        simp only [hprops] at hloop
        split_ifs at hloop with hservice
        · refine ih hloop fun d hd => ?_
          rcases List.mem_append.mp hd with hd | hd
          · obtain ⟨q, hq, haddr⟩ := hdiscovered d hd
            exact ⟨q, List.mem_append_left _ hq, haddr⟩
          · obtain rfl := List.mem_singleton.mp hd
            exact ⟨p, List.mem_append_right _ (List.mem_singleton_self p),
              (hreports p props hprops).symm⟩
        · exact ih hloop hdiscovered

/-- An attempt to connect finds no more peripherals. -/
theorem foundPeripherals_bleConnectToothpaste (m : BleManager) (device : Device)
    (env : ConnectEnv) :
    (m.bleConnectToothpaste device env).2.foundPeripherals = m.foundPeripherals := by
  have hattempt := BleInterface.attempt_bleConnectToothpaste m device env
  generalize (m.bleConnectToothpaste device env).1 = r at hattempt
  generalize (m.bleConnectToothpaste device env).2 = m' at hattempt ⊢
  cases hattempt with
  | refused | panics => rfl
  | fails _ hlink | connects _ hlink =>
    rcases BleInterface.linkPeripheral_ok hlink with ⟨-, rfl⟩ | ⟨-, rfl⟩ <;> rfl

end BleManager

namespace BleInterface

variable {SK PK : Type} {cr : Crates SK PK}

/-- `j` lists the devices that `i` lists, and has found the same peripherals. -/
structure KeepsList (i j : BleInterface SK) : Prop where
  devices : j.appState.devices = i.appState.devices
  found : j.ble.foundPeripherals = i.ble.foundPeripherals

/-- Writing a value keeps the list. -/
theorem keepsList_wrote (i : BleInterface SK) (values : List Bytes) :
    KeepsList i (i.wrote values) := ⟨rfl, rfl⟩

/-- Sending a payload keeps the list. -/
theorem keepsList_encryptAndSend (hcr : cr.Lawful) (pb : Prost) {i : BleInterface SK}
    (hlinked : i.Linked) (payload : EncryptedData) (env : SendEnv) :
    KeepsList i (i.encryptAndSend cr pb payload env).2 := by
  obtain ⟨r, values, hsend, -⟩ := encryptAndSend_spec hcr pb hlinked payload env
  rw [hsend]
  exact i.keepsList_wrote values

/-- A pairing keeps the list. -/
theorem keepsList_handlePairDevice (hcr : cr.Lawful) (pb : Prost) {i : BleInterface SK}
    (hlinked : i.Linked) (deviceId pubKey : String) (env : PairEnv SK) :
    KeepsList i (i.handlePairDevice cr pb deviceId pubKey env).2 := by
  rcases handlePairDevice_cases hcr pb hlinked deviceId pubKey env with
      ⟨-, hpair⟩ | ⟨bytes, r, ecdh, -, -, -, hpair⟩
  · rw [hpair]
    exact ⟨rfl, rfl⟩
  · rw [hpair]
    cases r <;> exact ⟨rfl, rfl⟩

/-- A notification keeps the list, though it may publish another device as connected. -/
theorem keepsList_handleNotification (pb : Prost) (i : BleInterface SK)
    (deviceId : String) (n : ValueNotification) :
    KeepsList i (i.handleNotification cr pb deviceId n).2 := by
  refine ⟨?_, by rw [(i.handleNotification_keeps cr pb deviceId n).1]⟩
  unfold handleNotification
  split_ifs with huuid
  · rfl
  · cases hunpack : unpackResponsePacket pb n.value with
    | error e => simp
    | ok packet =>
      cases htype : pb.responseType packet.responseType with
      | none => simp [htype]
      | some type =>
        cases type with
        | keepalive | peerKnown => simp [htype]
        | serialData => by_cases hempty : packet.serialData = "" <;> simp [htype, hempty]
        | peerUnknown => cases hdevice : i.appState.connectedDevice <;>
            simp [htype, onPeerUnknown, hdevice]
        | challenge => cases hdevice : i.appState.connectedDevice <;>
            simp [htype, onChallenge, hdevice]

/-- An attempt to connect keeps the list. -/
theorem keepsList_connectBle (i : BleInterface SK) (device : Device) (env : ConnectEnv) :
    KeepsList i (i.connectBle device env).2 := by
  have hfound := i.ble.foundPeripherals_bleConnectToothpaste device env
  unfold connectBle
  rcases hconnect : i.ble.bleConnectToothpaste device env with ⟨r, ble⟩
  rw [hconnect] at hfound
  cases r <;> exact ⟨rfl, hfound⟩

/-- A scan keeps what was found before, and publishes what it finds. -/
theorem listed_scan {i : BleInterface SK} {env : ScanEnv}
    (hreports : ReportsAddresses addr env.properties)
    (h : ListedIn addr i.ble.foundPeripherals i.appState) :
    i.ble.foundPeripherals ⊆ (i.scan env).2.ble.foundPeripherals ∧
      ListedIn addr (i.scan env).2.ble.foundPeripherals (i.scan env).2.appState := by
  obtain ⟨r, found, hscan⟩ := bleDiscoverToothpaste_eq i.ble env
  have hmore : i.ble.foundPeripherals ⊆ i.ble.foundPeripherals ++ found :=
    List.subset_append_left _ _
  cases r with
  | error e =>
    rw [scan, hscan]
    exact ⟨hmore, h.mono hmore⟩
  | ok devices =>
    rw [scan, hscan]
    refine ⟨hmore, ?_⟩
    unfold BleManager.bleDiscoverToothpaste at hscan
    cases hstart : env.startScan with
    | error e => simp [hstart] at hscan
    | ok u =>
      cases hperipherals : env.peripherals with
      | error e => simp [hstart, hperipherals] at hscan
      | ok peripherals =>
        simp only [hstart, hperipherals] at hscan
        exact BleManager.listed_discoverLoop hreports hscan (List.forall_mem_nil _)

end BleInterface

namespace BleTask

open BleInterface

variable {SK PK : Type} {cr : Crates SK PK} {pb : Prost} {s t : BleTask SK} {a : BleAction SK}

/-- The peripherals of a scan report their addresses. -/
def ScansTruly (addr : Peripheral → String) : BleAction SK → Prop
  | .recvCommand env => ReportsAddresses addr env.scan.properties
  | _ => True

/-- A step keeps the peripherals that were found, and publishes no list of its own but that of a
scan. -/
theorem listed_step (hcr : cr.Lawful) (hwf : WellFormed s.phase s.iface)
    (htruly : ScansTruly addr a) (hm : Moves cr pb s a t)
    (h : ListedIn addr s.iface.ble.foundPeripherals s.iface.appState) :
    s.iface.ble.foundPeripherals ⊆ t.iface.ble.foundPeripherals ∧
      ListedIn addr t.iface.ble.foundPeripherals t.iface.appState := by
  have hkeeps : KeepsList s.iface t.iface →
      s.iface.ble.foundPeripherals ⊆ t.iface.ble.foundPeripherals ∧
        ListedIn addr t.iface.ble.foundPeripherals t.iface.appState := fun hkeeps => by
    rw [hkeeps.found]
    exact ⟨List.Subset.refl _, h.congr hkeeps.devices⟩
  cases hm with
  | putInput | putCommand | notify | notifyLost | endStream | subscribe | subscribeFails
  | openStream | openStreamFails | publish | publishNone => exact hkeeps ⟨rfl, rfl⟩
  | @idleCommand env cmd rest hphase hcmd =>
    cases cmd with
    | scanForDevices =>
      rw [idleCommand, after_iface]
      exact listed_scan htruly h
    | connectToDevice device =>
      refine hkeeps ?_
      have hconnect := s.iface.keepsList_connectBle device env.connect
      rw [idleCommand]
      rcases heq : s.iface.connectBle device env.connect with ⟨_ | _, iface⟩
      · rw [heq] at hconnect
        rwa [after_iface]
      · rw [heq] at hconnect
        exact hconnect
    | sendKeyboardInput text | sendMouseJiggle enable =>
      refine hkeeps ?_
      rw [idleCommand, after_iface]
      exact keepsList_encryptAndSend hcr pb hwf.linked _ env.send
    | killService | disconnectDevice | pairDevice | updateSettings => exact hkeeps ⟨rfl, rfl⟩
  | @command env deviceId cmd rest hphase hcmd =>
    refine hkeeps ?_
    rw [after_iface]
    rcases handleCommand_cases hcr pb hwf.linked deviceId cmd env.pair env.send with
        ⟨device, pubKey, rfl, hpair⟩ | ⟨-, r, values, hsend, -⟩
    · rw [hpair]
      exact keepsList_handlePairDevice hcr pb hwf.linked deviceId pubKey env.pair
    · rw [hsend]
      exact s.iface.keepsList_wrote values
  | @greet write device hphase =>
    obtain ⟨values, hgreet, -⟩ := greet_spec cr pb hwf.linked write
    refine hkeeps ?_
    rw [after_iface, hgreet]
    exact s.iface.keepsList_wrote values
  | @recvInput envs deviceId event rest hphase hevent =>
    obtain ⟨values, hinput, -⟩ := handleInputEvent_spec hcr pb hwf.linked event envs
    refine hkeeps ?_
    rw [after_iface, hinput]
    exact s.iface.keepsList_wrote values
  | @recvNotification deviceId n rest hphase hn =>
    refine hkeeps ?_
    rw [after_iface]
    exact keepsList_handleNotification pb s.iface deviceId n

end BleTask

namespace Service

variable {SK PK : Type} {cr : Crates SK PK} {pb : Prost}

/-! ## Runs -/

/-- The service with every state that was published. -/
def withPublished (cr : Crates SK PK) (pb : Prost) :
    Transition.System (Service SK × List AppState) (ServiceAction SK) :=
  (service cr pb).withHistory [] fun published _ _ t => published ++ [t.task.iface.appState]

/-- The condition on a step: the peripherals of a scan report their addresses. -/
def ScansTruly (addr : Peripheral → String) : ServiceAction SK → Prop
  | .task a => BleTask.ScansTruly addr a
  | .handleEvent .. | .output => True

/-- What holds in every run that meets the condition: of each state that is published, was
published, or was read by the handler, which may publish it again, the devices have peripherals. -/
structure Listed (addr : Peripheral → String) (s : Service SK) (published : List AppState) :
    Prop where
  current : ListedIn addr s.task.iface.ble.foundPeripherals s.task.iface.appState
  read : ListedIn addr s.task.iface.ble.foundPeripherals s.handler.currentState
  past : ∀ app ∈ published, ListedIn addr s.task.iface.ble.foundPeripherals app

/-- A process that starts lists no device. -/
theorem listed_start (addr : Peripheral → String) (storage : StorageService) (now : ℤ) :
    Listed addr
      (⟨BleTask.start storage, SysInputHandler.new AppState.initial now, []⟩ : Service SK) [] where
  current := List.forall_mem_nil _
  read := List.forall_mem_nil _
  past := List.forall_mem_nil _

/-- More peripherals are found, and the state after the step is published. -/
theorem Listed.step {s t : Service SK} {published : List AppState}
    (h : Listed addr s published)
    (hfound : s.task.iface.ble.foundPeripherals ⊆ t.task.iface.ble.foundPeripherals)
    (hcurrent : ListedIn addr t.task.iface.ble.foundPeripherals t.task.iface.appState)
    (hread : ListedIn addr t.task.iface.ble.foundPeripherals t.handler.currentState) :
    Listed addr t (published ++ [t.task.iface.appState]) where
  current := hcurrent
  read := hread
  past app happ := by
    rcases List.mem_append.mp happ with happ | happ
    · exact (h.past app happ).mono hfound
    · exact List.mem_singleton.mp happ ▸ hcurrent

/-- Every step keeps what is listed among what is found. -/
theorem listed_step (hcr : cr.Lawful) {s t : Service SK} {published : List AppState}
    {a : ServiceAction SK} (hwf : WellFormed s) (htruly : ScansTruly addr a)
    (h : Listed addr s published) (hm : Moves cr pb s a t) :
    Listed addr t (published ++ [t.task.iface.appState]) := by
  cases hm with
  | task hm =>
    obtain ⟨hfound, hcurrent⟩ := BleTask.listed_step hcr hwf.task htruly hm h.current
    exact h.step hfound hcurrent (h.read.mono hfound)
  | @handleEvent event clipboard handler pending hidle hhandled =>
    obtain ⟨hread, -⟩ := s.handler.handleEvent_sendsToggle s.task.iface.appState event clipboard
    rw [hhandled] at hread
    exact h.step (List.Subset.refl _) h.current (hread ▸ h.current)
  -- what is published again is the state that was read, with a flag flipped
  | updateState hpending =>
    obtain ⟨flag, rfl⟩ := WatchCell.toggled_of_pending hwf.sends hpending
    exact h.step (List.Subset.refl _) (h.read.congr (AppState.toggle_devices _ flag)) h.read
  | trySend hpending =>
    refine h.step ?_ ?_ ?_ <;> rw [BleTask.trySend_iface]
    exacts [List.Subset.refl _, h.current, h.read]

/-- In every run in which the peripherals report their addresses, which are distinct: each device of
each list that is or was published has a peripheral at its address, and an attempt to connect to the
device finds that one, whatever the other peripherals answer, as long as its own properties are
read and its address parses. -/
theorem listed_found (hcr : cr.Lawful) (haddr : Function.Injective addr)
    {p : Service SK × List AppState}
    (h : (withPublished cr pb).ReachableVia (fun _ a => ScansTruly addr a) p) {app : AppState}
    (happ : app = p.1.task.iface.appState ∨ app ∈ p.2) {d : Device} (hd : d ∈ app.devices) :
    ∃ q ∈ p.1.task.iface.ble.foundPeripherals, addr q = d.address ∧
      ∀ env : ConnectEnv, ReportsAddresses addr env.properties →
        (∃ props, env.properties q = .ok (some props)) →
        env.parseAddress d.address = .ok d.address →
        findPeripheral env d.address p.1.task.iface.ble.foundPeripherals = .ok (some q) := by
  have hinv : WellFormed p.1 ∧ Listed addr p.1 p.2 := by
    refine h.invariant_withHistory (I := fun s published => WellFormed s ∧ Listed addr s published)
      ?_ ?_
    · rintro s ⟨storage, now, rfl⟩
      exact ⟨wellFormed_start storage now, listed_start addr storage now⟩
    · rintro s published a t ⟨hwf, hlisted⟩ htruly hst
      have hm := moves_of_step hst
      exact ⟨wellFormed_step hcr hwf hm, listed_step hcr hwf htruly hlisted hm⟩
  have hlisted : ListedIn addr p.1.task.iface.ble.foundPeripherals app := by
    rcases happ with rfl | happ
    · exact hinv.2.current
    · exact hinv.2.past app happ
  obtain ⟨q, hq, hqaddr⟩ := hlisted d hd
  refine ⟨q, hq, hqaddr, fun env hreports ⟨props, hprops⟩ hparse => ?_⟩
  rw [findPeripheral_eq_some_iff haddr hreports]
  exact ⟨hq, props, hprops, by rw [hparse, hreports q props hprops, hqaddr]⟩

/-- A scan of the peripherals, or of none. -/
def scanRun (peripherals : List Peripheral) : List (ServiceAction UInt8) :=
  [.task (.putCommand .scanForDevices), .task (.recvCommand { Sample.commandEnv 5 with
    scan := ⟨.ok (), .ok peripherals, Sample.advertised⟩ })]

theorem scansTruly_scanRun (peripherals : List Peripheral) :
    ∀ a ∈ scanRun peripherals, ScansTruly Sample.addressOf a := by
  simp only [scanRun, List.forall_mem_cons]
  exact ⟨trivial, Sample.reports_advertised, List.forall_mem_nil _⟩

/-- A second scan finds nothing. The device of the first one is no longer listed, and is found all
the same by a client that still shows it. -/
theorem listed_found_sample : ∃ p : Service UInt8 × List AppState,
    p.1.task.iface.appState.devices = [] ∧ ∃ app ∈ p.2, ∃ d ∈ app.devices,
      ∃ q, findPeripheral (Sample.attemptEnv false) d.address
        p.1.task.iface.ble.foundPeripherals = .ok (some q) := by
  have hrun : ((withPublished sampleCrates Sample.prost).replay (fun _ _ => True)
      (Sample.startService, []) (scanRun [⟨0⟩] ++ scanRun [])).map
        (fun p => (p.1.task.iface.appState.devices, p.2.map fun app => app.devices)) =
      some ([], [[], [Sample.device], [Sample.device], []]) := by decide +kernel
  obtain ⟨p, hp, hfacts⟩ := Option.map_eq_some_iff.mp hrun
  obtain ⟨hnow, hpast⟩ := Prod.mk.inj hfacts
  have hmem : [Sample.device] ∈ p.2.map fun app => app.devices := by
    rw [hpast]
    exact List.mem_cons_of_mem _ List.mem_cons_self
  obtain ⟨app, happ, hdevices⟩ := List.mem_map.mp hmem
  have hd : Sample.device ∈ app.devices := hdevices ▸ List.mem_singleton_self _
  have htruly : ∀ a ∈ scanRun [⟨0⟩] ++ scanRun [], ScansTruly Sample.addressOf a := fun a ha =>
    (List.mem_append.mp ha).elim (scansTruly_scanRun _ a) (scansTruly_scanRun _ a)
  have hstart : (withPublished sampleCrates Sample.prost).Init (Sample.startService, []) :=
    ⟨⟨_, 0, rfl⟩, rfl⟩
  obtain ⟨q, -, -, hfound⟩ := listed_found sampleCrates_lawful Sample.addressOf_injective
    (.of_replay_forall _ htruly (.init hstart) hp) (.inr happ) hd
  exact ⟨p, hnow, app, happ, Sample.device, hd, q,
    hfound (Sample.attemptEnv false) Sample.reports_advertised ⟨_, rfl⟩ rfl⟩

end Service

end ToothPaste
