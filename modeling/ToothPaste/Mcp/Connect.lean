import ToothPaste.Mcp.Dispatch

/-!
# Concurrent connections

Calls of `tool_connect` beside everything else the service does: the TUI and the task that connects
automatically put commands in the same channel, and hotkeys send whole states back. A call that has
chosen a device sends its command and then waits until some device is published as connected.

A loop of a call looks at each state that is published after its last look, and waits for something
that is not there when the service starts. So it finds what it waits for in the state as soon as it
is there, and a look that does not find it changes nothing.

* `connect_reply`: in every run in which no other device is published as connected while a call
  waits for its own, and no call chooses a device while another one is connected, a reply of success
  names the device that the call observed.
* `connected_to_another`: the TUI connects another device first, and the reply names the device
  that was asked for.
-/

namespace ToothPaste

namespace Mcp

variable {SK PK : Type}

/-! ## Steps -/

/-- One step of a tool, from the state of the service and with it: enabled where what it waits for
is there. -/
def ToolRun.step (cr : Crates SK PK) (pb : Prost) (s : Service SK) :
    ToolRun → Option (Service SK × ToolRun)
  | .ret _ => none
  | .borrow next => some (s, next s.task.iface.appState)
  | .sendCommand cmd next =>
    -- with its receiver gone the channel refuses
    if s.task.phase = .stopped then some (s, next false)
    else (Service.step cr pb s (.task (.putCommand cmd))).map fun t => (t, next true)
  | .sendEvent event next =>
    if s.task.phase = .stopped then some (s, next false)
    else (Service.step cr pb s (.task (.putInput event))).map fun t => (t, next true)
  | .awaitDevice next =>
    s.task.iface.appState.devices.head?.map fun device => (s, next (some device))
  | .awaitConnected _ next =>
    if s.task.iface.appState.connectedDevice.isSome then some (s, next true) else none
  | .lockSerial clear next =>
    (serialStep cr pb s (.readSerial clear)).map fun t =>
      (t, next (toolReadSerial clear s.task.iface.serialBuffer).1)

/-- A wait that times out. -/
def ToolRun.timeout : ToolRun → Option ToolRun
  | .awaitDevice next => some (next none)
  | .awaitConnected _ next => some (next false)
  | _ => none

/-- The service and the calls of `tool_connect` that were made, each with what it has yet to do. -/
structure ConnectServer (SK : Type) where
  service : Service SK
  calls : List ToolRun

/-- The steps. -/
inductive ConnectAction (SK : Type) where
  | service (a : ServiceAction SK)
  /-- A client calls the tool. -/
  | connect
  /-- A call takes its next step. -/
  | go (call : ℕ)
  /-- The wait of a call times out. -/
  | timeout (call : ℕ)

/-- One step of the service or of a call. -/
def ConnectServer.step (cr : Crates SK PK) (pb : Prost) (m : ConnectServer SK) :
    ConnectAction SK → Option (ConnectServer SK)
  | .service a => (Service.step cr pb m.service a).map fun service => { m with service }
  | .connect => some { m with calls := m.calls ++ [toolConnect] }
  | .go call =>
    m.calls[call]?.bind fun run => (run.step cr pb m.service).map fun next =>
      ⟨next.1, m.calls.set call next.2⟩
  | .timeout call =>
    m.calls[call]?.bind fun run => run.timeout.map fun next =>
      { m with calls := m.calls.set call next }

/-- The service with the calls. -/
def connectServer (cr : Crates SK PK) (pb : Prost) :
    Transition.System (ConnectServer SK) (ConnectAction SK) where
  Init m := (service cr pb).Init m.service ∧ m.calls = []
  step := ConnectServer.step cr pb

/-! ## Replies -/

/-- A reply of success: the name it has, the device it is about, and the device published as
connected when the call looked. -/
structure ConnectReply where
  name : String
  device : Device
  observed : Option Device
  deriving DecidableEq

/-- The reply of success that a step of a call makes, if it does. -/
def replyOf (app : AppState) (run next : ToolRun) : Option ConnectReply :=
  match run, next with
  | .awaitConnected device _, .ret (.ok (.connectedTo name)) =>
    some ⟨name, device, app.connectedDevice⟩
  | .borrow _, .ret (.ok (.alreadyConnected name)) =>
    app.connectedDevice.map fun device => ⟨name, device, app.connectedDevice⟩
  | _, _ => none

/-- The reply of success that is made in a step. -/
def repliedIn (cr : Crates SK PK) (pb : Prost) (m : ConnectServer SK) :
    ConnectAction SK → Option ConnectReply
  | .go call =>
    m.calls[call]?.bind fun run => (run.step cr pb m.service).bind fun next =>
      replyOf m.service.task.iface.appState run next.2
  | _ => none

/-- The service with the calls and the replies of success so far. -/
def withReplies (cr : Crates SK PK) (pb : Prost) :
    Transition.System (ConnectServer SK × List ConnectReply) (ConnectAction SK) :=
  (connectServer cr pb).withHistory [] fun replies m a _ =>
    replies ++ (repliedIn cr pb m a).toList

/-- The device a call has chosen and not replied about yet. -/
def ToolRun.target : ToolRun → Option Device
  | .sendCommand (.connectToDevice device) _ => some device
  | .awaitConnected device _ => some device
  | _ => none

/-- The address is that of every device a call has chosen. -/
def MatchesTargets (m : ConnectServer SK) (address : String) : Prop :=
  ∀ run ∈ m.calls, ∀ device ∈ run.target, address = device.address

/-- The condition on a step: a device that it publishes as connected, by the task or by a hotkey,
is the one that each waiting call has chosen, and a call that chooses a device finds no other one
connected. -/
def KeepsTargets (m : ConnectServer SK) : ConnectAction SK → Prop
  | .service (.task a) =>
    ∀ device ∈ BleTask.connectedIn m.service.task a, MatchesTargets m device.address
  | .service .output =>
    match m.service.pending with
    | .updateState newState :: _ =>
      ∀ address ∈ newState.connectedAddress, MatchesTargets m address
    | _ => True
  | .go call =>
    match m.calls[call]? with
    | some (.awaitDevice _) => ∀ device ∈ m.service.task.iface.appState.devices.head?,
      ∀ address ∈ m.service.task.iface.appState.connectedAddress, address = device.address
    | _ => True
  | _ => True

instance (m : ConnectServer SK) (address : String) : Decidable (MatchesTargets m address) :=
  inferInstanceAs (Decidable (∀ run ∈ m.calls, ∀ device ∈ run.target, address = device.address))

instance (m : ConnectServer SK) (a : ConnectAction SK) : Decidable (KeepsTargets m a) :=
  match a with
  | .service (.task a) => inferInstanceAs
      (Decidable (∀ device ∈ BleTask.connectedIn m.service.task a, MatchesTargets m device.address))
  | .service .output =>
    match h : m.service.pending with
    | .updateState newState :: _ =>
      decidable_of_iff (∀ address ∈ newState.connectedAddress, MatchesTargets m address)
        (by simp [KeepsTargets, h])
    | .trySend _ :: _ | .panic :: _ | [] => isTrue (by simp [KeepsTargets, h])
  | .go call =>
    match h : m.calls[call]? with
    | some (.awaitDevice _) =>
      decidable_of_iff (∀ device ∈ m.service.task.iface.appState.devices.head?,
        ∀ address ∈ m.service.task.iface.appState.connectedAddress, address = device.address)
        (by simp [KeepsTargets, h])
    | some (.ret _) | some (.sendCommand ..) | some (.sendEvent ..) | some (.borrow _)
    | some (.awaitConnected ..) | some (.lockSerial ..) | none =>
      isTrue (by simp [KeepsTargets, h])
  | .service (.handleEvent ..) | .connect | .timeout _ => isTrue trivial

variable {cr : Crates SK PK} {pb : Prost}

/-! ## Where a call is -/

/-- The points of a call of `tool_connect`. -/
inductive ConnectPoint : ToolRun → Prop
  | start : ConnectPoint toolConnect
  | scanFirst : ConnectPoint scanFirst
  | awaitingDevice : ConnectPoint awaitingDevice
  | doConnect (device : Device) : ConnectPoint (doConnect device)
  | awaitingConnected (device : Device) : ConnectPoint (awaitingConnected device)
  | ret (result : Except RpcError ToolResult) : ConnectPoint (.ret result)

/-- The steps of a call from the service `s`: the run before it, the service and the run after
it. -/
inductive Advance (s : Service SK) : ToolRun → Service SK → ToolRun → Prop
  | answer {device : Device} (hconnected : s.task.iface.appState.connectedDevice = some device) :
      Advance s toolConnect s (.ret (.ok (.alreadyConnected device.name)))
  | choose {device : Device} (hnone : s.task.iface.appState.connectedDevice = none) :
      Advance s toolConnect s (doConnect device)
  | scan : Advance s toolConnect s scanFirst
  | refused {run : ToolRun} {e : RpcError} : Advance s run s (.ret (.error e))
  | scanSent {t : Service SK} (happ : t.task.iface.appState = s.task.iface.appState) :
      Advance s scanFirst t awaitingDevice
  | found {device : Device} (hdevice : s.task.iface.appState.devices.head? = some device) :
      Advance s awaitingDevice s (doConnect device)
  | connectSent {device : Device} {t : Service SK}
      (happ : t.task.iface.appState = s.task.iface.appState) :
      Advance s (doConnect device) t (awaitingConnected device)
  | connected {device : Device}
      (hconnected : s.task.iface.appState.connectedDevice.isSome = true) :
      Advance s (awaitingConnected device) s (.ret (.ok (.connectedTo device.name)))

/-- A command that is put in the channel leaves the published state alone. -/
theorem appState_of_putCommand {s t : Service SK} {cmd : AppCommand}
    (h : Service.step cr pb s (.task (.putCommand cmd)) = some t) :
    t.task.iface.appState = s.task.iface.appState := by
  cases Service.moves_of_step h with
  | task hm => cases hm; rfl

/-- A command is refused, or it is put in the channel. -/
theorem cases_of_sendCommand {cmd : AppCommand} {next : Bool → ToolRun} {run : ToolRun}
    {s t : Service SK} (hst : (ToolRun.sendCommand cmd next).step cr pb s = some (t, run)) :
    (t = s ∧ run = next false) ∨
      (t.task.iface.appState = s.task.iface.appState ∧ run = next true) := by
  rw [ToolRun.step] at hst
  by_cases hstopped : s.task.phase = .stopped
  · rw [if_pos hstopped] at hst
    obtain ⟨rfl, rfl⟩ := Prod.mk.inj (Option.some.inj hst)
    exact .inl ⟨rfl, rfl⟩
  · rw [if_neg hstopped] at hst
    obtain ⟨t, hput, heq⟩ := Option.map_eq_some_iff.mp hst
    obtain ⟨rfl, rfl⟩ := Prod.mk.inj heq
    exact .inr ⟨appState_of_putCommand hput, rfl⟩

theorem advance_of_step {run next : ToolRun} (h : ConnectPoint run) {s t : Service SK}
    (hst : run.step cr pb s = some (t, next)) : Advance s run t next := by
  cases h with
  | start =>
    obtain ⟨rfl, rfl⟩ := Prod.mk.inj (Option.some.inj hst)
    dsimp only
    split
    case h_1 device _ hconnected => exact .answer hconnected
    case h_2 device hconnected _ => exact .choose hconnected
    case h_3 => exact .scan
  | scanFirst =>
    rcases cases_of_sendCommand hst with ⟨rfl, rfl⟩ | ⟨happ, rfl⟩
    · exact .refused
    · exact .scanSent happ
  | awaitingDevice =>
    obtain ⟨device, hdevice, heq⟩ := Option.map_eq_some_iff.mp hst
    obtain ⟨rfl, rfl⟩ := Prod.mk.inj heq
    exact .found hdevice
  | doConnect device =>
    rcases cases_of_sendCommand hst with ⟨rfl, rfl⟩ | ⟨happ, rfl⟩
    · exact .refused
    · exact .connectSent happ
  | awaitingConnected device =>
    rw [awaitingConnected, ToolRun.step] at hst
    by_cases hconnected : s.task.iface.appState.connectedDevice.isSome = true
    · rw [if_pos hconnected] at hst
      obtain ⟨rfl, rfl⟩ := Prod.mk.inj (Option.some.inj hst)
      exact .connected hconnected
    · rw [if_neg hconnected] at hst
      cases hst
  | ret result => cases hst

/-- A wait that times out ends the call. -/
theorem timeout_of_connectPoint {run next : ToolRun} (h : ConnectPoint run)
    (htimeout : run.timeout = some next) : ∃ e, next = .ret (.error e) := by
  cases h with
  | awaitingDevice | awaitingConnected => exact ⟨_, (Option.some.inj htimeout).symm⟩
  | start | scanFirst | doConnect | ret => cases htimeout

theorem connectPoint_of_advance {s t : Service SK} {run next : ToolRun}
    (h : Advance s run t next) : ConnectPoint next := by
  cases h with
  | answer | refused | connected => exact .ret _
  | choose | found => exact .doConnect _
  | scan => exact .scanFirst
  | scanSent => exact .awaitingDevice
  | connectSent => exact .awaitingConnected _

/-- A step of a call leaves the published state alone. -/
theorem appState_of_advance {s t : Service SK} {run next : ToolRun} (h : Advance s run t next) :
    t.task.iface.appState = s.task.iface.appState := by
  cases h with
  | answer | choose | scan | refused | found | connected => rfl
  | scanSent happ | connectSent happ => exact happ

/-! ## Calls in runs -/

/-- What holds in every run whose steps meet the condition: the calls are at the points above, the
device published as connected is the one that each waiting call has chosen, and the replies of
success so far were right. -/
structure ConnectInv (m : ConnectServer SK) (replies : List ConnectReply) : Prop where
  points : ∀ run ∈ m.calls, ConnectPoint run
  targets : ∀ address ∈ m.service.task.iface.appState.connectedAddress, MatchesTargets m address
  replies : ∀ reply ∈ replies, reply.name = reply.device.name ∧
    reply.observed.map Device.address = some reply.device.address

/-- What a step of the service publishes as connected meets the condition, or was published
before. -/
theorem targets_service {m : ConnectServer SK} {a : ServiceAction SK} {t : Service SK}
    (htargets : ∀ address ∈ m.service.task.iface.appState.connectedAddress,
      MatchesTargets m address)
    (hkeeps : KeepsTargets m (.service a)) (hm : Service.Moves cr pb m.service a t) :
    ∀ address ∈ t.task.iface.appState.connectedAddress, MatchesTargets m address := by
  cases hm with
  | @task a task hm =>
    intro address haddress
    rw [BleTask.connectedAddress_step hm] at haddress
    cases hconnected : BleTask.connectedIn m.service.task a with
    | none =>
      rw [hconnected] at haddress
      exact htargets address haddress
    | some device =>
      rw [hconnected] at haddress
      obtain rfl := Option.some.inj haddress
      exact hkeeps device hconnected
  | handleEvent => exact htargets
  | updateState hpending =>
    simp only [KeepsTargets, hpending] at hkeeps
    exact hkeeps
  | trySend =>
    rw [BleTask.trySend_iface]
    exact htargets

/-- The device that a call has chosen is the one that is published as connected, if there is one:
it was chosen before, or there is none, or the condition says so. -/
theorem target_of_advance {m : ConnectServer SK} {call : ℕ} {run next : ToolRun} {t : Service SK}
    (hrun : m.calls[call]? = some run)
    (htargets : ∀ address ∈ m.service.task.iface.appState.connectedAddress,
      MatchesTargets m address)
    (hkeeps : KeepsTargets m (.go call)) (hadvance : Advance m.service run t next) :
    ∀ address ∈ m.service.task.iface.appState.connectedAddress, ∀ device ∈ next.target,
      address = device.address := by
  intro address haddress device htarget
  cases hadvance with
  | answer | scan | refused | scanSent | connected => cases htarget
  | choose hnone =>
    rw [AppState.connectedAddress, hnone] at haddress
    cases haddress
  | found hdevice =>
    rw [KeepsTargets, hrun] at hkeeps
    obtain rfl := Option.some.inj htarget
    exact hkeeps _ hdevice address haddress
  | connectSent =>
    exact htargets address haddress _ (List.mem_of_getElem? hrun) device htarget

/-- A reply of success is about the device that is published as connected. -/
theorem reply_of_advance {m : ConnectServer SK} {call : ℕ} {run next : ToolRun} {t : Service SK}
    (hrun : m.calls[call]? = some run)
    (htargets : ∀ address ∈ m.service.task.iface.appState.connectedAddress,
      MatchesTargets m address)
    (hadvance : Advance m.service run t next) :
    ∀ reply ∈ replyOf m.service.task.iface.appState run next, reply.name = reply.device.name ∧
      reply.observed.map Device.address = some reply.device.address := by
  intro reply hreply
  cases hadvance with
  | answer hconnected =>
    simp only [replyOf, toolConnect, hconnected, Option.map_some, Option.mem_def,
      Option.some.injEq] at hreply
    subst hreply
    exact ⟨rfl, rfl⟩
  | connected hconnected =>
    obtain rfl := Option.some.inj hreply
    obtain ⟨observed, hobserved⟩ := Option.isSome_iff_exists.mp hconnected
    have haddress : observed.address ∈ m.service.task.iface.appState.connectedAddress := by
      rw [AppState.connectedAddress, hobserved]
      rfl
    refine ⟨rfl, ?_⟩
    rw [hobserved]
    exact congrArg some (htargets _ haddress _ (List.mem_of_getElem? hrun) _ rfl)
  | refused => cases run <;> cases hreply
  | choose | scan | scanSent | found | connectSent => cases hreply

/-- A call that goes on, with what it is now and the service after its step. -/
theorem connectInv_set {m : ConnectServer SK} {replies : List ConnectReply}
    (h : ConnectInv m replies) {t : Service SK}
    (happ : t.task.iface.appState = m.service.task.iface.appState) (call : ℕ) {next : ToolRun}
    (hpoint : ConnectPoint next)
    (htarget : ∀ address ∈ m.service.task.iface.appState.connectedAddress,
      ∀ device ∈ next.target, address = device.address) (reply : Option ConnectReply)
    (hreply : ∀ x ∈ reply, x.name = x.device.name ∧
      x.observed.map Device.address = some x.device.address) :
    ConnectInv ⟨t, m.calls.set call next⟩ (replies ++ reply.toList) where
  points run hrun := by
    rcases List.mem_or_eq_of_mem_set hrun with hrun | rfl
    · exact h.points run hrun
    · exact hpoint
  targets address haddress run hrun device hdevice := by
    rw [happ] at haddress
    rcases List.mem_or_eq_of_mem_set hrun with hrun | rfl
    · exact h.targets address haddress run hrun device hdevice
    · exact htarget address haddress device hdevice
  replies x hx := by
    rcases List.mem_append.mp hx with hx | hx
    · exact h.replies x hx
    · exact hreply x (Option.mem_toList.mp hx)

theorem connectInv_step {m n : ConnectServer SK} {replies : List ConnectReply}
    {a : ConnectAction SK} (h : ConnectInv m replies) (hkeeps : KeepsTargets m a)
    (hst : (connectServer cr pb).step m a = some n) :
    ConnectInv n (replies ++ (repliedIn cr pb m a).toList) := by
  cases a with
  | service a =>
    obtain ⟨t, hstep, rfl⟩ := Option.map_eq_some_iff.mp hst
    change ConnectInv _ (replies ++ [])
    rw [List.append_nil]
    have htargets := targets_service h.targets hkeeps (Service.moves_of_step hstep)
    exact ⟨h.points, htargets, h.replies⟩
  | connect =>
    obtain rfl := Option.some.inj hst
    change ConnectInv _ (replies ++ [])
    rw [List.append_nil]
    refine ⟨fun run hrun => ?_, fun address haddress run hrun device hdevice => ?_, h.replies⟩
    · rcases List.mem_append.mp hrun with hrun | hrun
      · exact h.points run hrun
      · obtain rfl := List.mem_singleton.mp hrun
        exact .start
    · rcases List.mem_append.mp hrun with hrun | hrun
      · exact h.targets address haddress run hrun device hdevice
      · obtain rfl := List.mem_singleton.mp hrun
        cases hdevice
  | go call =>
    obtain ⟨run, hrun, hgo⟩ := Option.bind_eq_some_iff.mp hst
    obtain ⟨⟨t, next⟩, hnext, rfl⟩ := Option.map_eq_some_iff.mp hgo
    have hadvance := advance_of_step (h.points run (List.mem_of_getElem? hrun)) hnext
    rw [repliedIn, hrun, Option.bind_some, hnext, Option.bind_some]
    exact connectInv_set h (appState_of_advance hadvance) call (connectPoint_of_advance hadvance)
      (target_of_advance hrun h.targets hkeeps hadvance) _
      (reply_of_advance hrun h.targets hadvance)
  | timeout call =>
    obtain ⟨run, hrun, hout⟩ := Option.bind_eq_some_iff.mp hst
    obtain ⟨next, hnext, rfl⟩ := Option.map_eq_some_iff.mp hout
    obtain ⟨e, rfl⟩ := timeout_of_connectPoint (h.points run (List.mem_of_getElem? hrun)) hnext
    exact connectInv_set h rfl call (.ret _) (fun _ _ => nofun) none nofun

/-- In every run in which no step publishes as connected another device than the one that each
waiting call has chosen, and no call chooses a device after its scan while another one is
connected: a reply of success names its device, and the state in which the call observed the
connection has a device with the same address. -/
theorem connect_reply {p : ConnectServer SK × List ConnectReply}
    (h : (withReplies cr pb).ReachableVia (fun p a => KeepsTargets p.1 a) p) :
    ∀ reply ∈ p.2, reply.name = reply.device.name ∧
      reply.observed.map Device.address = some reply.device.address := by
  refine (h.invariant_withHistory (I := ConnectInv) ?_ fun m replies a n hm hkeeps hst =>
    connectInv_step hm hkeeps hst).replies
  rintro m ⟨⟨storage, now, hstart⟩, hcalls⟩
  refine ⟨fun run hrun => ?_, fun address haddress => ?_, fun reply hreply => ?_⟩
  · rw [hcalls] at hrun
    cases hrun
  · rw [hstart] at haddress
    cases haddress
  · cases hreply

/-- A scan, and a call that connects the device it shows. -/
def connectCallRun : List (ConnectAction UInt8) :=
  [.service (.task (.putCommand .scanForDevices)),
    .service (.task (.recvCommand (Sample.commandEnv 5))), .connect, .go 0, .go 0,
    .service (.task (.recvCommand (Sample.commandEnv 5))), .service (.task (.greet (.ok ()))),
    .service (.task .publish), .go 0]

/-- The name and the addresses of a reply: of its device, and of the one that was observed. -/
def ConnectReply.addresses (reply : ConnectReply) : String × String × Option String :=
  (reply.name, reply.device.address, reply.observed.map Device.address)

/-- The call replies that the device is connected. -/
theorem connect_reply_sample : ∃ p : ConnectServer UInt8 × List ConnectReply,
    p.2.map ConnectReply.addresses =
      [("ToothPaste", "00:00:00:00:00:A1", some "00:00:00:00:00:A1")] ∧
    ∀ reply ∈ p.2, reply.name = reply.device.name ∧
      reply.observed.map Device.address = some reply.device.address := by
  have hrun : ((withReplies sampleCrates Sample.prost).replay (fun p a => KeepsTargets p.1 a)
      (⟨Sample.startService, []⟩, []) connectCallRun).map (·.2.map ConnectReply.addresses) =
      some [("ToothPaste", "00:00:00:00:00:A1", some "00:00:00:00:00:A1")] := by decide +kernel
  obtain ⟨p, hp, hreplies⟩ := Option.map_eq_some_iff.mp hrun
  exact ⟨p, hreplies, connect_reply (.of_replay _ (.init ⟨⟨⟨_, 0, rfl⟩, rfl⟩, rfl⟩) hp)⟩

/-- The properties of two devices in reach. -/
def twoProperties (p : Peripheral) : Properties :=
  if p = ⟨0⟩ then Sample.properties
  else { Sample.properties with localName := some "Other", address := "00:00:00:00:00:B2" }

/-- The second device as a scan shows it. -/
def otherDevice : Device :=
  { Sample.device with name := "Other", address := "00:00:00:00:00:B2" }

/-- A command whose calls all succeed, with two devices in reach. -/
def twoDevicesEnv : CommandEnv UInt8 :=
  { Sample.commandEnv 5 with
    scan := { Sample.scanEnv with
      peripherals := .ok [⟨0⟩, ⟨1⟩]
      properties := fun p => .ok (some (twoProperties p)) }
    connect := { Sample.connectEnv with
      properties := fun p => .ok (some (twoProperties p))
      readMac := fun p => .ok (if p = ⟨0⟩ then [0xA1] else [0xB2]) } }

/-- The call has chosen the first device when the TUI connects the second one. -/
def overtakenRun : List (ConnectAction UInt8) :=
  [.service (.task (.putCommand .scanForDevices)), .service (.task (.recvCommand twoDevicesEnv)),
    .connect, .go 0, .service (.task (.putCommand (.connectToDevice otherDevice))), .go 0,
    .service (.task (.recvCommand twoDevicesEnv)), .service (.task (.greet (.ok ()))),
    .service (.task .publish), .go 0]

/-- The call replies that the first device is connected, where the second one is. -/
theorem connected_to_another :
    ¬ ∀ p, (withReplies sampleCrates Sample.prost).Reachable p → ∀ reply ∈ p.2,
      reply.observed.map Device.address = some reply.device.address := by
  intro hclaim
  have hrun : ((withReplies sampleCrates Sample.prost).replay (fun _ _ => True)
      (⟨Sample.startService, []⟩, []) overtakenRun).map (·.2.map ConnectReply.addresses) =
      some [("ToothPaste", "00:00:00:00:00:A1", some "00:00:00:00:00:B2")] := by decide +kernel
  obtain ⟨p, hp, hreplies⟩ := Option.map_eq_some_iff.mp hrun
  obtain ⟨reply, hreply, haddresses⟩ := List.map_eq_singleton_iff.mp hreplies
  simp only [ConnectReply.addresses, Prod.mk.injEq] at haddresses
  have hsame := hclaim p (.of_replay _ (.init ⟨⟨⟨_, 0, rfl⟩, rfl⟩, rfl⟩) hp) reply
    (hreply ▸ List.mem_singleton_self reply)
  rw [haddresses.2.1, haddresses.2.2] at hsame
  exact absurd hsame (by decide)

end Mcp

end ToothPaste
