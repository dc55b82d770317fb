import ToothPaste.Desktop.Chosen
import ToothPaste.Mcp.Asked
import ToothPaste.Service.AutoConnect
import ToothPaste.Service.Listed

/-!
# The program

What `main` starts, with the clients: the BLE task and the input handler, the MCP server, the task
that connects without a client, and the server of the clients, in processes of the service that
follow each other. They share the published state and the command channel. Each part takes the steps
of its own system; a state that one of them publishes is published for all, and what one of them
sends goes into the one channel.

* `connections_listed`: in every run each part runs as its own system does, and a connection that
  anyone asks for is to a device that the process has listed, of which there is a peripheral, or was
  chosen by a client from what an earlier process had listed.
-/

namespace ToothPaste

open Desktop in
/-- The running process of the service, or the last one, and all clients. -/
structure Program (ι SK : Type) where
  desktop : Desktop ι × Log ι
  rpc : Mcp.RpcServer SK × Mcp.RpcLog
  autoConnect : AutoConnect

/-- The command that `handle_connection` is about to put in the channel. -/
def Desktop.enqueueing {ι : Type} (s : Desktop ι) : Option AppCommand :=
  match s.server with
  | .handling c => s.connections[c]?.bind fun conn => conn.phase.command
  | _ => none

/-- The command came over a connection to the running process. -/
def Desktop.Arrived {ι : Type} (d : Desktop ι × Desktop.Log ι) (cmd : AppCommand) : Prop :=
  ∃ c conn, (c, cmd) ∈ d.2.channel ∧ d.1.connections[c]? = some conn ∧
    conn.process = d.1.process

/-- The step is one of the clients or of `ipc_server`, and sends nothing in the service. -/
def Desktop.Action.ofClients {ι : Type} : Desktop.Action ι → Bool
  | .publish _ | .dropReceiver | .serve .enqueue | .startService => false
  | _ => true

/-- The step is one of the BLE task, of the input handler or of a request. -/
def Mcp.RpcAction.ofProcess {SK : Type} : Mcp.RpcAction SK → Bool
  | .service (.task (.putInput _)) | .service (.task (.putCommand _)) => false
  | _ => true

/-- The step is one of `auto_connect_task` or of its clock, with the channel as it is. -/
def AutoConnectAction.ofTask (commandsOpen : Bool) : AutoConnectAction → Bool
  | .publish _ | .setTuiConnected _ => false
  | .scanSent ok | .connectSent ok => ok == commandsOpen
  | _ => true

/-- What a step of `auto_connect_task` sends. The step waits for a place in the channel. -/
def AutoConnect.puts (s : AutoConnect) : AutoConnectAction → Option AppCommand
  | .scanSent _ => some .scanForDevices
  | .connectSent _ =>
    match s.phase with
    | .connecting device => some (.connectToDevice device)
    | _ => none
  | _ => none

namespace Program

open Desktop Mcp

/-- The steps. -/
inductive Action (ι SK : Type) where
  | desktop (a : Desktop.Action ι)
  /-- `handle_connection` puts a command in the channel. -/
  | enqueue
  | rpc (a : RpcAction SK)
  /-- A state is published that is the same as before. -/
  | publishAgain
  | autoConnect (a : AutoConnectAction)
  /-- `main`. -/
  | startService (storage : StorageService) (now : ℤ)

variable {ι SK PK : Type} [DecidableEq ι] (codec : Ipc.IpcCodec) (tcr : Tui.TuiCrates)
  (cr : Crates SK PK) (pb : Prost)

/-- `main` before any of its tasks runs. -/
def newProcess (storage : StorageService) (now : ℤ) : RpcServer SK × RpcLog :=
  (⟨⟨BleTask.start storage, SysInputHandler.new AppState.initial now, []⟩, []⟩, ⟨[], []⟩)

/-- `auto_connect_task` as it is spawned. -/
def newTask (now : Nanos) : AutoConnect where
  now := now
  appState := ⟨AppState.initial, 0⟩
  tuiConnected := false
  seen := 0
  phase := .sleeping (now + fromSecs 5)

/-- `app_state_tx.send`. -/
def publish (p : Program ι SK) (newState : AppState) : Option (Program ι SK) :=
  ((withLog codec tcr).step p.desktop (.publish newState)).bind fun desktop =>
    (p.autoConnect.step (.publish newState)).map fun autoConnect => { p with desktop, autoConnect }

/-- `app_command_tx.send`, of which the error is ignored. -/
def send (p : Program ι SK) (cmd : AppCommand) : Option (Program ι SK) :=
  if p.desktop.1.commandsOpen then
    ((withRpcLog cr pb).step p.rpc (.service (.task (.putCommand cmd)))).map fun rpc =>
      { p with rpc }
  else some p

/-- The BLE task has stopped, and the receiver of the channel is gone. -/
def close (p : Program ι SK) : Option (Program ι SK) :=
  ((withLog codec tcr).step p.desktop .dropReceiver).map fun desktop => { p with desktop }

/-- One step. -/
def step (p : Program ι SK) : Action ι SK → Option (Program ι SK)
  | .desktop a =>
    if a.ofClients then
      ((withLog codec tcr).step p.desktop a).bind fun desktop =>
        (p.autoConnect.step (.setTuiConnected desktop.1.tuiConnected)).map fun autoConnect =>
          { p with desktop, autoConnect }
    else none
  | .enqueue =>
    p.desktop.1.enqueueing.bind fun cmd =>
      ((withLog codec tcr).step p.desktop (.serve .enqueue)).bind fun desktop =>
        ({ p with desktop } : Program ι SK).send cr pb cmd
  | .rpc a =>
    if p.desktop.1.server ≠ .down ∧ a.ofProcess then
      ((withRpcLog cr pb).step p.rpc a).bind fun rpc =>
        let q : Program ι SK := { p with rpc }
        let newState := rpc.1.service.task.iface.appState
        (if newState = p.rpc.1.service.task.iface.appState then some q
          else q.publish codec tcr newState).bind fun q =>
            if rpc.1.service.task.phase = .stopped then q.close codec tcr else some q
    else none
  | .publishAgain => p.publish codec tcr p.rpc.1.service.task.iface.appState
  | .autoConnect a =>
    if p.desktop.1.server ≠ .down ∧ a.ofTask p.desktop.1.commandsOpen then
      (p.autoConnect.step a).bind fun autoConnect =>
        let q : Program ι SK := { p with autoConnect }
        match p.autoConnect.puts a with
        | some cmd => q.send cr pb cmd
        | none => some q
    else none
  | .startService storage now =>
    ((withLog codec tcr).step p.desktop .startService).map fun desktop =>
      ⟨desktop, newProcess storage now, newTask p.autoConnect.now⟩

end Program

/-- The program, with no process of the service running. -/
def program {ι SK PK : Type} [DecidableEq ι] (codec : Ipc.IpcCodec) (tcr : Tui.TuiCrates)
    (cr : Crates SK PK) (pb : Prost) :
    Transition.System (Program ι SK) (Program.Action ι SK) where
  Init p := ∃ storage now start,
    p = ⟨(Desktop.start, .start), Program.newProcess storage now, Program.newTask start⟩
  step := Program.step codec tcr cr pb

/-! ## What is listed -/

/-- One of the states lists the device. -/
def Lists (published : List AppState) (device : Device) : Prop :=
  ∃ app ∈ published, device ∈ app.devices

theorem Lists.mono {published published' : List AppState} {device : Device}
    (h : Lists published device) (hmore : published ⊆ published') : Lists published' device := by
  obtain ⟨app, happ, hdevice⟩ := h
  exact ⟨app, hmore happ, hdevice⟩

namespace Mcp

variable {SK PK : Type} {cr : Crates SK PK} {pb : Prost} {addr : Peripheral → String}
  {published : List AppState}

/-- A tool leaves the published state as it is, and the devices that are listed. -/
theorem ToolRun.listed_step (hcr : cr.Lawful) {s t : Service SK} {run next : ToolRun}
    (hwf : Service.WellFormed s) (hlisted : Service.Listed addr s published)
    (hst : run.step cr pb s = some (t, next)) :
    t.task.iface.appState = s.task.iface.appState ∧ Service.WellFormed t ∧
      Service.Listed addr t published := by
  have hput : ∀ {a : BleAction SK}, (∀ task, BleTask.Moves cr pb s.task a task →
      task.iface = s.task.iface) → Service.Moves cr pb s (.task a) t →
      t.task.iface.appState = s.task.iface.appState ∧ Service.WellFormed t ∧
        Service.Listed addr t published := fun hsame hm => by
    have hwf' := Service.wellFormed_step hcr hwf hm
    cases hm with
    | task hm =>
      have hiface := hsame _ hm
      exact ⟨congrArg BleInterface.appState hiface, hwf',
        ⟨hiface ▸ hlisted.current, hiface ▸ hlisted.read, hiface ▸ hlisted.past⟩⟩
  cases ToolRun.moves_of_step hst with
  | borrow | commandRefused | eventRefused | awaitDevice | awaitConnected =>
    exact ⟨rfl, hwf, hlisted⟩
  | commandSent _ hm => exact hput (fun _ hm => by cases hm; rfl) hm
  | eventSent _ hm => exact hput (fun _ hm => by cases hm; rfl) hm
  -- the buffer is none of what is well formed
  | lockSerial =>
    have htask := hwf.task
    exact ⟨rfl, ⟨⟨htask.linked, htask.cached, htask.device, htask.keyless, htask.unauthenticated⟩,
      hwf.sends, hwf.unauthenticated⟩, ⟨hlisted.current, hlisted.read, hlisted.past⟩⟩

/-- The condition on a step: the peripherals of a scan report their addresses. -/
def RpcAction.ScansTruly (addr : Peripheral → String) : RpcAction SK → Prop
  | .service a => Service.ScansTruly addr a
  | .receive .. | .go _ | .timeout _ => True

/-- What is sent by the parts of the process that `RpcAction.ofProcess` names connects nothing. -/
theorem not_mem_servicePuts {s : Service SK} {a : ServiceAction SK}
    (hside : (RpcAction.service a).ofProcess = true) (device : Device) :
    .command (.connectToDevice device) ∉ servicePuts s a := by
  intro hmem
  unfold servicePuts at hmem
  split at hmem
  · cases hside
  · cases hside
  · split at hmem
    · split_ifs at hmem
      · cases List.mem_singleton.mp hmem
      · cases hmem
    · cases hmem
  · cases hmem

end Mcp

namespace Program

open Mcp

variable {ι SK PK : Type} [DecidableEq ι] {codec : Ipc.IpcCodec} {tcr : Tui.TuiCrates}
  {cr : Crates SK PK} {pb : Prost} {addr : Peripheral → String} {published : List AppState}
  {arrived : AppCommand → Prop} {rpc rpc' : RpcServer SK × RpcLog} {task task' : AutoConnect}

/-- Each connection that was sent is to a device that is listed, or a client has asked for it. -/
def SendsListed (published : List AppState) (arrived : AppCommand → Prop)
    (put : List (Option ℕ × ChannelSend)) : Prop :=
  ∀ x ∈ put, ∀ device, x.2 = .command (.connectToDevice device) →
    Lists published device ∨ x.1 = none ∧ arrived (.connectToDevice device)

theorem SendsListed.append {put : List (Option ℕ × ChannelSend)}
    (h : SendsListed published arrived put) {who : Option ℕ} {puts : List ChannelSend}
    (hputs : ∀ device, .command (.connectToDevice device) ∈ puts → Lists published device ∨
      who = none ∧ arrived (.connectToDevice device)) :
    SendsListed published arrived (put ++ Tagged.tagged who puts) := by
  intro x hx device hcmd
  rcases List.mem_append.mp hx with hx | hx
  · exact h x hx device hcmd
  · rw [Tagged.fst_of_mem_tagged hx]
    obtain ⟨y, hy, rfl⟩ := List.mem_map.mp hx
    exact hputs device (hcmd ▸ hy)

/-- What holds of a process that has published these states, and for which such commands arrived: it
connects to devices that it lists, unless a client asks for another one. -/
structure Asked (addr : Peripheral → String) (published : List AppState)
    (arrived : AppCommand → Prop) (rpc : RpcServer SK × RpcLog) (task : AutoConnect) : Prop where
  wellFormed : Service.WellFormed rpc.1.service
  listed : Service.Listed addr rpc.1.service published
  current : rpc.1.service.task.iface.appState ∈ published
  watched : task.appState.value ∈ published
  exchanges : ∀ e ∈ rpc.1.exchanges, ∀ id run, e.run = .call id run →
    run.AsksListed (Lists published)
  connecting : ∀ device, task.phase = .connecting device → Lists published device
  put : SendsListed published arrived rpc.2.put

/-- The service goes on, more states are published and more commands arrive. -/
theorem Asked.mono (h : Asked addr published arrived rpc task) {t : Service SK}
    {published' : List AppState} {arrived' : AppCommand → Prop} (hwf : Service.WellFormed t)
    (hlisted : Service.Listed addr t published')
    (hcurrent : t.task.iface.appState ∈ published') (hmore : published ⊆ published')
    (harrived : ∀ cmd, arrived cmd → arrived' cmd) :
    Asked addr published' arrived' (⟨t, rpc.1.exchanges⟩, rpc.2) task where
  wellFormed := hwf
  listed := hlisted
  current := hcurrent
  watched := hmore h.watched
  exchanges e he id run hrun := (h.exchanges e he id run hrun).mono fun _ hd => hd.mono hmore
  connecting device hphase := (h.connecting device hphase).mono hmore
  put x hx device hcmd := by
    rcases h.put x hx device hcmd with hlists | ⟨hnone, hclient⟩
    · exact .inl (hlists.mono hmore)
    · exact .inr ⟨hnone, harrived _ hclient⟩

/-- A process that starts has asked for nothing. -/
theorem asked_start (storage : StorageService) (now : ℤ) (start : Nanos)
    (arrived : AppCommand → Prop) :
    Asked addr [AppState.initial] arrived (newProcess storage now : RpcServer SK × RpcLog)
      (newTask start) where
  wellFormed := Service.wellFormed_start storage now
  listed := (Service.listed_start addr storage now).step (List.Subset.refl _)
    (List.forall_mem_nil _) (List.forall_mem_nil _)
  current := List.mem_singleton_self _
  watched := List.mem_singleton_self _
  exchanges := List.forall_mem_nil _
  connecting device hphase := by cases hphase
  put := List.forall_mem_nil _

/-- The tool of a request goes on, and no other one does. -/
theorem asked_set {m : RpcServer SK} {log : RpcLog} (h : Asked addr published arrived (m, log) task)
    (k : ℕ) {request : JsonRpcRequest} {clock : Clock} {id : Json} {next : ToolRun}
    (hnext : next.AsksListed (Lists published)) :
    Asked addr published arrived
      (⟨m.service, m.exchanges.set k ⟨request, clock, .call id next⟩⟩, log) task :=
  { h with
    exchanges := fun e he id' run hrun => by
      rcases List.mem_or_eq_of_mem_set he with he | rfl
      · exact h.exchanges e he id' run hrun
      · obtain ⟨-, rfl⟩ := RpcRun.call.inj hrun
        exact hnext }

/-- The BLE task, the handler or a request takes a step, and the state after it is published. -/
theorem asked_rpc (hcr : cr.Lawful) (h : Asked addr published arrived rpc task) {a : RpcAction SK}
    (hside : a.ofProcess = true) (htruly : a.ScansTruly addr)
    (hst : (withRpcLog cr pb).step rpc a = some rpc') :
    Asked addr (published ++ [rpc'.1.service.task.iface.appState]) arrived rpc' task := by
  obtain ⟨m, log⟩ := rpc
  obtain ⟨n, log'⟩ := rpc'
  obtain ⟨hstep, rfl⟩ := Transition.System.withHistory_step_iff.mp hst
  -- what was asked for is still listed
  have hkept : ∀ {t : Service SK}, Service.WellFormed t →
      Service.Listed addr t (published ++ [t.task.iface.appState]) →
      Asked addr (published ++ [t.task.iface.appState]) arrived (⟨t, m.exchanges⟩, log) task :=
    fun hwf hlisted => h.mono hwf hlisted (List.mem_append_right _ (List.mem_singleton_self _))
      (List.subset_append_left _ _) fun _ => id
  have hagain : ∀ {t : Service SK}, Service.Listed addr t published →
      Service.Listed addr t (published ++ [t.task.iface.appState]) := fun hlisted =>
    hlisted.step (List.Subset.refl _) hlisted.current hlisted.read
  have hsame := hkept h.wellFormed (hagain h.listed)
  cases RpcServer.moves_of_step hstep with
  | service hm =>
    have hasked := hkept (Service.wellFormed_step hcr h.wellFormed hm)
      (Service.listed_step hcr h.wellFormed htruly h.listed hm)
    exact { hasked with
      put := hasked.put.append fun device hmem => absurd hmem (not_mem_servicePuts hside device) }
  | @receive request clock =>
    refine { hsame with exchanges := fun e he id run hrun => ?_ }
    rcases List.mem_append.mp he with he | he
    · exact hsame.exchanges e he id run hrun
    -- a request that is received has read no state yet
    · obtain rfl := List.mem_singleton.mp he
      obtain ⟨params, -, rfl⟩ := tool_of_handleMcp hrun
      exact ToolRun.asksListed_toolsCall clock params
  | @go k request clock id run next t hk hrun =>
    obtain ⟨happ, hwf, hlisted⟩ := ToolRun.listed_step hcr h.wellFormed h.listed hrun
    have hasked := hkept hwf (hagain hlisted)
    have hasks := hasked.exchanges _ (List.mem_of_getElem? hk) id run rfl
    obtain ⟨hnext, hputs⟩ := hasks.step (fun d hd => ⟨_, happ ▸ hasked.current, hd⟩) hrun
    -- what it sends is what it had read before
    refine { asked_set hasked k hnext with put := ?_ }
    rw [RpcLog.after, hk]
    exact hasked.put.append fun device hmem => .inl (hputs device hmem)
  | @timeout k request clock id run next hk hrun =>
    exact asked_set hsame k
      ((hsame.exchanges _ (List.mem_of_getElem? hk) id run rfl).timeout hrun)

/-- `auto_connect_task` connects to a device of the state that it looks at. -/
theorem connecting_step {commandsOpen : Bool} {a : AutoConnectAction}
    (hside : a.ofTask commandsOpen = true) (hm : task.Moves a task') :
    task'.appState.value = task.appState.value ∧ ∀ device, task'.phase = .connecting device →
      task.phase = .connecting device ∨ device ∈ task.appState.value.devices := by
  cases hm with
  | publish | setTuiConnected => cases hside
  | tick => exact ⟨rfl, fun _ hphase => .inl hphase⟩
  | found _ hhead =>
    refine ⟨rfl, fun _ hphase => .inr ?_⟩
    obtain rfl := AutoConnectPhase.connecting.inj hphase
    exact List.mem_of_head? hhead
  -- the other steps lead elsewhere
  | wake | checkTimeout =>
    refine ⟨rfl, fun _ hphase => ?_⟩
    rw [AutoConnect.goto_phase] at hphase
    split_ifs at hphase
  | scanSent _ ok =>
    refine ⟨rfl, fun _ hphase => ?_⟩
    cases ok <;> cases hphase
  | changed | changedFails | foundNone | connectSent => exact ⟨rfl, fun _ hphase => by cases hphase⟩

/-- A command is sent that a client asks for, or `auto_connect_task` for a listed device. -/
theorem asked_send (hcr : cr.Lawful) (h : Asked addr published arrived rpc task) {cmd : AppCommand}
    (hcmd : ∀ device, cmd = .connectToDevice device → Lists published device ∨
      arrived (.connectToDevice device))
    (hst : (withRpcLog cr pb).step rpc (.service (.task (.putCommand cmd))) = some rpc') :
    rpc'.1.service.task.iface.appState = rpc.1.service.task.iface.appState ∧
      Asked addr published arrived rpc' task := by
  obtain ⟨m, log⟩ := rpc
  obtain ⟨n, log'⟩ := rpc'
  obtain ⟨hstep, rfl⟩ := Transition.System.withHistory_step_iff.mp hst
  have hm : m.Moves cr pb (.service (.task (.putCommand cmd))) n := RpcServer.moves_of_step hstep
  cases hm with
  | service hm =>
    have hwf := Service.wellFormed_step hcr h.wellFormed hm
    cases hm with
    | task hm =>
      cases hm with
      | putCommand =>
        refine ⟨rfl, hwf, ⟨h.listed.current, h.listed.read, h.listed.past⟩, h.current, h.watched,
          h.exchanges, h.connecting, h.put.append fun device hmem => ?_⟩
        have hsent := (ChannelSend.command.inj (List.mem_singleton.mp hmem)).symm
        exact (hcmd device hsent).imp_right fun hc => ⟨rfl, hc⟩

/-! ## The clients -/

section Clients

open Desktop

variable {d d' : Desktop ι × Log ι} {a : Desktop.Action ι}

/-- What came over a connection to a process that still runs is not forgotten. -/
theorem Arrived.step (hm : Moves codec tcr d.1 a d'.1) (hchannel : d.2.channel ⊆ d'.2.channel)
    (hprocess : d'.1.process = d.1.process) {cmd : AppCommand} (h : Arrived d cmd) :
    Arrived d' cmd := by
  obtain ⟨c, conn, hc, hconn, hrunning⟩ := h
  obtain ⟨conn', hconn', -, hsame⟩ := exists_connection_of_moves hm hconn
  exact ⟨c, conn', hchannel hc, hconn', hsame.trans (hrunning.trans hprocess.symm)⟩

/-- A step of the clients or of the server publishes nothing, and forgets no command. -/
theorem quiet_step (hpublish : ∀ app, a ≠ .publish app) (hstart : a ≠ .startService)
    (hst : (withLog codec tcr).step d a = some d') :
    d'.1.process = d.1.process ∧ d'.1.appState = d.1.appState ∧
      d'.2.published = d.2.published ∧ ∀ cmd, Arrived d cmd → Arrived d' cmd := by
  suffices hquiet : d'.1.process = d.1.process ∧ d'.1.appState = d.1.appState ∧
      d'.2.published = d.2.published ∧ d.2.channel ⊆ d'.2.channel by
    obtain ⟨hprocess, happ, hpublished, hchannel⟩ := hquiet
    have hm := Desktop.moves_of_step (Transition.System.withHistory_step_iff.mp hst).1
    exact ⟨hprocess, happ, hpublished, fun _ => Arrived.step hm hchannel hprocess⟩
  obtain ⟨s, log⟩ := d
  obtain ⟨t, log'⟩ := d'
  obtain ⟨hstep, hlog⟩ := Transition.System.withHistory_step_iff.mp hst
  dsimp only at hlog
  subst hlog
  cases Desktop.moves_of_step hstep with
  | publish => exact absurd rfl (hpublish _)
  | startService => exact absurd rfl hstart
  | bridge hpoint hconn =>
    dsimp only
    rw [log_after_bridge hpoint hconn]
    exact ⟨rfl, rfl, rfl, List.Subset.refl _⟩
  | serve hserver hconn =>
    dsimp only
    rw [log_after_serve hserver hconn]
    exact ⟨rfl, rfl, rfl, List.subset_append_left _ _⟩
  | connect | quit | startTui | screens | sendUnavailable | sendDefault | sendAvailable | leaveInner
  | dropReceiver | accept | leave | endService =>
    exact ⟨rfl, rfl, rfl, List.Subset.refl _⟩

theorem publish_step {newState : AppState}
    (hst : (withLog codec tcr).step d (.publish newState) = some d') :
    d'.1.process = d.1.process ∧
      d'.1.appState =
        Function.update d.1.appState d.1.process ((d.1.appState d.1.process).send newState) ∧
      d'.2.published d.1.process = d.2.published d.1.process ++ [newState] ∧
      ∀ cmd, Arrived d cmd → Arrived d' cmd := by
  obtain ⟨s, log⟩ := d
  obtain ⟨t, log'⟩ := d'
  obtain ⟨hstep, hlog⟩ := Transition.System.withHistory_step_iff.mp hst
  dsimp only at hlog
  subst hlog
  have hm : Moves codec tcr s (.publish newState) t := Desktop.moves_of_step hstep
  cases hm with
  | publish => exact ⟨rfl, rfl, Function.update_self .., fun _ => id⟩

theorem startService_step (hst : (withLog codec tcr).step d .startService = some d') :
    d'.1.process = d.1.process + 1 ∧ d'.1.appState = d.1.appState := by
  obtain ⟨s, log⟩ := d
  obtain ⟨t, log'⟩ := d'
  obtain ⟨hstep, -⟩ := Transition.System.withHistory_step_iff.mp hst
  have hm : Moves codec tcr s .startService t := Desktop.moves_of_step hstep
  cases hm with
  | startService => exact ⟨rfl, rfl⟩

/-- A process that is yet to come has published its first state. -/
theorem published_fresh (hcodec : codec.Lawful) (h : (withLog codec tcr).Reachable d) {n : ℕ}
    (hn : d.1.appState n = ⟨AppState.initial, 0⟩) : d.2.published n = [AppState.initial] := by
  obtain ⟨hlength, hvalue⟩ := (statesKept_of_reachable hcodec h).published n
  rw [hn] at hlength hvalue
  obtain ⟨app, hpublished⟩ := List.length_eq_one_iff.mp hlength
  rw [hpublished] at hvalue ⊢
  exact congrArg (fun app => [app]) (Option.some.inj hvalue)

/-- The command of a connection arrives in the channel. The connection is one to the running
process. -/
theorem enqueue_step {cmd : AppCommand} (hwell : d.1.WellFormed)
    (hcmd : d.1.enqueueing = some cmd) (hopen : d'.1.commandsOpen = true)
    (hst : (withLog codec tcr).step d (.serve .enqueue) = some d') : Arrived d' cmd := by
  obtain ⟨s, log⟩ := d
  obtain ⟨t, log'⟩ := d'
  obtain ⟨hstep, hlog⟩ := Transition.System.withHistory_step_iff.mp hst
  dsimp only at hlog
  subst hlog
  have hm : Moves codec tcr s (.serve .enqueue) t := Desktop.moves_of_step hstep
  have hmoves := hm
  cases hm with
  | @serve c conn _ _ hserver hconn =>
    have hphase : conn.phase.command = some cmd := by
      rw [enqueueing, hserver] at hcmd
      dsimp only at hcmd
      rwa [hconn] at hcmd
    obtain ⟨-, conn', hconn', hprocess⟩ := hwell.handled c hserver
    obtain rfl := Option.some.inj (hconn.symm.trans hconn')
    obtain ⟨after, hafter, -, hsame⟩ := exists_connection_of_moves hmoves hconn
    refine ⟨c, after, ?_, hafter, hsame.trans hprocess⟩
    rw [log_after_serve hserver hconn]
    refine List.mem_append_right _ (List.mem_map_of_mem ?_)
    have hlink : (s.link conn).connection.command = some cmd := hphase
    have hopen' : (s.link conn).commandsOpen = true := hopen
    simp [news, Ipc.LinkLog.after, hlink, hopen']

end Clients

/-! ## Runs -/

/-- The condition on a step: the peripherals of a scan report their addresses. -/
def Action.ScansTruly (addr : Peripheral → String) : Action ι SK → Prop
  | .rpc a => a.ScansTruly addr
  | _ => True

/-- Each part is in a state that it reaches on its own. -/
structure Parts (codec : Ipc.IpcCodec) (tcr : Tui.TuiCrates) (cr : Crates SK PK) (pb : Prost)
    (p : Program ι SK) : Prop where
  desktop : (Desktop.withLog codec tcr).Reachable p.desktop
  rpc : (withRpcLog cr pb).Reachable p.rpc
  autoConnect : AutoConnect.autoConnectTask.Reachable p.autoConnect

/-- The state of the BLE task is the one that the clients and `auto_connect_task` watch. -/
structure Watched (p : Program ι SK) : Prop where
  clients : (p.desktop.1.appState p.desktop.1.process).value = p.rpc.1.service.task.iface.appState
  task : p.autoConnect.appState.value = p.rpc.1.service.task.iface.appState

/-- What holds in every run that meets the condition. -/
structure Kept (addr : Peripheral → String) (codec : Ipc.IpcCodec) (tcr : Tui.TuiCrates)
    (cr : Crates SK PK) (pb : Prost) (p : Program ι SK) : Prop where
  parts : Parts codec tcr cr pb p
  watched : Watched p
  /-- The processes that are yet to come. -/
  fresh : ∀ n, p.desktop.1.process < n → p.desktop.1.appState n = ⟨AppState.initial, 0⟩
  asked : Asked addr (p.desktop.2.published p.desktop.1.process) (Desktop.Arrived p.desktop) p.rpc
    p.autoConnect

variable {p q : Program ι SK}

theorem kept_start (storage : StorageService) (now : ℤ) (start : Nanos) :
    Kept addr codec tcr cr pb
      (⟨(Desktop.start, .start), newProcess storage now, newTask start⟩ : Program ι SK) where
  parts := ⟨.init ⟨rfl, rfl⟩, .init ⟨⟨⟨storage, now, rfl⟩, rfl⟩, rfl⟩, .init ⟨rfl, le_rfl⟩⟩
  watched := ⟨rfl, rfl⟩
  fresh _ _ := rfl
  asked := asked_start storage now start _

/-- The state of the BLE task is published. -/
theorem kept_publish {newState : AppState} (hparts : Parts codec tcr cr pb p)
    (hfresh : ∀ n, p.desktop.1.process < n → p.desktop.1.appState n = ⟨AppState.initial, 0⟩)
    (hasked : Asked addr (p.desktop.2.published p.desktop.1.process ++ [newState])
      (Desktop.Arrived p.desktop) p.rpc p.autoConnect)
    (hstate : newState = p.rpc.1.service.task.iface.appState)
    (hst : p.publish codec tcr newState = some q) : Kept addr codec tcr cr pb q := by
  obtain ⟨desktop, hdesktop, hrest⟩ := Option.bind_eq_some_iff.mp hst
  obtain ⟨task, htask, rfl⟩ := Option.map_eq_some_iff.mp hrest
  obtain ⟨hprocess, happ, hpublished, harrived⟩ := publish_step hdesktop
  have hreach : AutoConnect.autoConnectTask.Reachable task :=
    hparts.autoConnect.step (a := .publish newState) htask
  obtain rfl := Option.some.inj htask
  refine ⟨⟨hparts.desktop.step hdesktop, hparts.rpc, hreach⟩, ⟨?_, hstate⟩, fun n hn => ?_, ?_⟩
  · rw [hprocess, happ, Function.update_self]
    exact hstate
  · rw [hprocess] at hn
    rw [happ, Function.update_of_ne hn.ne']
    exact hfresh n hn
  · rw [hprocess, hpublished]
    have hkept := hasked.mono hasked.wellFormed hasked.listed hasked.current
      (List.Subset.refl _) harrived
    exact { hkept with watched := List.mem_append_right _ (List.mem_singleton_self _) }

/-- A command is sent, if the channel has its receiver. -/
theorem kept_send (hcr : cr.Lawful) (h : Kept addr codec tcr cr pb p) {cmd : AppCommand}
    (hcmd : p.desktop.1.commandsOpen = true → ∀ device, cmd = .connectToDevice device →
      Lists (p.desktop.2.published p.desktop.1.process) device ∨
        Desktop.Arrived p.desktop (.connectToDevice device))
    (hst : p.send cr pb cmd = some q) : Kept addr codec tcr cr pb q := by
  unfold send at hst
  split_ifs at hst with hopen
  · obtain ⟨rpc, hrpc, rfl⟩ := Option.map_eq_some_iff.mp hst
    obtain ⟨happ, hasked⟩ := asked_send hcr h.asked (hcmd hopen) hrpc
    exact ⟨⟨h.parts.desktop, h.parts.rpc.step hrpc, h.parts.autoConnect⟩,
      ⟨h.watched.clients.trans happ.symm, h.watched.task.trans happ.symm⟩, h.fresh, hasked⟩
  · obtain rfl := Option.some.inj hst
    exact h

/-- A step of the clients or of the server. -/
theorem kept_quiet (h : Kept addr codec tcr cr pb p) {a : Desktop.Action ι}
    (hpublish : ∀ app, a ≠ .publish app) (hstart : a ≠ .startService)
    {desktop : Desktop ι × Desktop.Log ι}
    (hst : (Desktop.withLog codec tcr).step p.desktop a = some desktop) :
    Kept addr codec tcr cr pb { p with desktop } := by
  obtain ⟨hprocess, happ, hpublished, harrived⟩ := quiet_step hpublish hstart hst
  refine ⟨⟨h.parts.desktop.step hst, h.parts.rpc, h.parts.autoConnect⟩, ⟨?_, h.watched.task⟩,
    ?_, ?_⟩
  · rw [hprocess, happ]
    exact h.watched.clients
  · rw [hprocess, happ]
    exact h.fresh
  · rw [hprocess, hpublished]
    exact h.asked.mono h.asked.wellFormed h.asked.listed h.asked.current (List.Subset.refl _)
      harrived

/-- The state after a step of the process is published, unless it is the same. -/
theorem kept_rpc (hcr : cr.Lawful) (h : Kept addr codec tcr cr pb p) {a : RpcAction SK}
    (htruly : a.ScansTruly addr) (hst : step codec tcr cr pb p (.rpc a) = some q) :
    Kept addr codec tcr cr pb q := by
  rw [step] at hst
  split_ifs at hst with hside
  obtain ⟨rpc, hrpc, hst⟩ := Option.bind_eq_some_iff.mp hst
  obtain ⟨u, hu, hclose⟩ := Option.bind_eq_some_iff.mp hst
  have hasked := asked_rpc hcr h.asked hside.2 htruly hrpc
  have hparts : Parts codec tcr cr pb { p with rpc } :=
    ⟨h.parts.desktop, h.parts.rpc.step hrpc, h.parts.autoConnect⟩
  have hkept : Kept addr codec tcr cr pb u := by
    split_ifs at hu with hsame
    · obtain rfl := Option.some.inj hu
      refine ⟨hparts, ⟨h.watched.clients.trans hsame.symm, h.watched.task.trans hsame.symm⟩,
        h.fresh, ?_⟩
      rw [hsame] at hasked
      -- it has been published before
      have hless : p.desktop.2.published p.desktop.1.process ++
          [p.rpc.1.service.task.iface.appState] ⊆ p.desktop.2.published p.desktop.1.process :=
        List.append_subset.mpr
          ⟨List.Subset.refl _, List.cons_subset.mpr ⟨h.asked.current, List.nil_subset _⟩⟩
      exact hasked.mono hasked.wellFormed ⟨hasked.listed.current, hasked.listed.read,
        fun app happ => hasked.listed.past app (List.mem_append_left _ happ)⟩
        (hless hasked.current) hless fun _ => id
    · exact kept_publish hparts h.fresh hasked rfl hu
  split_ifs at hclose
  · obtain ⟨desktop, hdesktop, rfl⟩ := Option.map_eq_some_iff.mp hclose
    exact kept_quiet hkept (fun _ h => by cases h) (fun h => by cases h) hdesktop
  · obtain rfl := Option.some.inj hclose
    exact hkept

theorem kept_autoConnect (hcr : cr.Lawful) (h : Kept addr codec tcr cr pb p)
    {a : AutoConnectAction} (hst : step codec tcr cr pb p (.autoConnect a) = some q) :
    Kept addr codec tcr cr pb q := by
  rw [step] at hst
  split_ifs at hst with hside
  obtain ⟨task, htask, hst⟩ := Option.bind_eq_some_iff.mp hst
  obtain ⟨hvalue, hconnecting⟩ := connecting_step hside.2 (AutoConnect.moves_of_step htask)
  have hreach : AutoConnect.autoConnectTask.Reachable task :=
    h.parts.autoConnect.step (a := a) htask
  have hkept : Kept addr codec tcr cr pb { p with autoConnect := task } := by
    refine ⟨⟨h.parts.desktop, h.parts.rpc, hreach⟩, ⟨h.watched.clients,
      hvalue.trans h.watched.task⟩, h.fresh, { h.asked with
        watched := hvalue ▸ h.asked.watched
        connecting := fun device hphase => ?_ }⟩
    rcases hconnecting device hphase with hbefore | hlisted
    · exact h.asked.connecting device hbefore
    · exact ⟨_, h.asked.watched, hlisted⟩
  cases hputs : p.autoConnect.puts a with
  | none =>
    simp only [hputs, Option.some.injEq] at hst
    exact hst ▸ hkept
  | some cmd =>
    simp only [hputs] at hst
    refine kept_send hcr hkept (fun _ device hcmd => .inl ?_) hst
    -- it was about to send this one
    subst hcmd
    unfold AutoConnect.puts at hputs
    split at hputs
    · cases hputs
    · split at hputs
      case h_1 device' hphase =>
        obtain rfl := AppCommand.connectToDevice.inj (Option.some.inj hputs)
        exact h.asked.connecting _ hphase
      · cases hputs
    · cases hputs

theorem kept_step (hcr : cr.Lawful) (hcodec : codec.Lawful) (h : Kept addr codec tcr cr pb p)
    {a : Action ι SK} (htruly : a.ScansTruly addr) (hst : step codec tcr cr pb p a = some q) :
    Kept addr codec tcr cr pb q := by
  cases a with
  | desktop a =>
    rw [step] at hst
    split_ifs at hst with hside
    obtain ⟨desktop, hdesktop, hst⟩ := Option.bind_eq_some_iff.mp hst
    obtain ⟨task, htask, rfl⟩ := Option.map_eq_some_iff.mp hst
    have hkept := kept_quiet h (a := a) (by rintro app rfl; cases hside)
      (by rintro rfl; cases hside) hdesktop
    have hreach : AutoConnect.autoConnectTask.Reachable task :=
      h.parts.autoConnect.step (a := .setTuiConnected _) htask
    obtain rfl := Option.some.inj htask
    exact ⟨⟨hkept.parts.desktop, hkept.parts.rpc, hreach⟩,
      ⟨hkept.watched.clients, hkept.watched.task⟩, hkept.fresh,
      { hkept.asked with watched := hkept.asked.watched, connecting := hkept.asked.connecting }⟩
  | enqueue =>
    rw [step] at hst
    obtain ⟨cmd, hcmd, hst⟩ := Option.bind_eq_some_iff.mp hst
    obtain ⟨desktop, hdesktop, hsend⟩ := Option.bind_eq_some_iff.mp hst
    have hkept := kept_quiet h (fun _ h => by cases h) (fun h => by cases h) hdesktop
    refine kept_send hcr hkept (fun hopen device hconnects => .inr ?_) hsend
    subst hconnects
    exact enqueue_step (Desktop.wellFormed_of_reachable h.parts.desktop.of_withHistory) hcmd hopen
      hdesktop
  | rpc a => exact kept_rpc hcr h htruly hst
  | publishAgain =>
    have hlisted :=
      h.asked.listed.step (List.Subset.refl _) h.asked.listed.current h.asked.listed.read
    exact kept_publish h.parts h.fresh (h.asked.mono h.asked.wellFormed hlisted
      (List.mem_append_left _ h.asked.current) (List.subset_append_left _ _) fun _ => id) rfl hst
  | autoConnect a => exact kept_autoConnect hcr h hst
  | startService storage now =>
    obtain ⟨desktop, hdesktop, rfl⟩ := Option.map_eq_some_iff.mp hst
    -- of the process before only its states are left, and the new one lists none of them
    obtain ⟨hprocess, happ⟩ := startService_step hdesktop
    have hnew := h.fresh (p.desktop.1.process + 1) (Nat.lt_succ_self _)
    have hreach := h.parts.desktop.step hdesktop
    refine ⟨⟨hreach, .init ⟨⟨⟨storage, now, rfl⟩, rfl⟩, rfl⟩, .init ⟨rfl, le_rfl⟩⟩,
      ⟨?_, rfl⟩, fun n hn => ?_, ?_⟩
    · rw [hprocess, happ, hnew]
      rfl
    · dsimp only at hn ⊢
      rw [happ]
      exact h.fresh n (by omega)
    · rw [hprocess, published_fresh hcodec hreach (by rw [happ, hnew])]
      exact asked_start storage now _ _

theorem kept_of_reachable (hcr : cr.Lawful) (hcodec : codec.Lawful)
    (h : (program codec tcr cr pb).ReachableVia (fun _ a => a.ScansTruly addr) p) :
    Kept addr codec tcr cr pb p :=
  h.invariant (by rintro _ ⟨storage, now, start, rfl⟩; exact kept_start storage now start)
    fun _ _ _ hp htruly hst => kept_step hcr hcodec hp htruly hst

/-- The device was chosen by a client, from a state of an earlier process that came to the client,
and the command was put in the channel for a connection of this client to the running process. -/
def ChosenBefore (p : Program ι SK) (device : Device) : Prop :=
  ∃ c conn app n, (c, .connectToDevice device) ∈ p.desktop.2.channel ∧
    p.desktop.1.connections[c]? = some conn ∧ conn.process = p.desktop.1.process ∧
    p.desktop.2.Came p.desktop.1 conn.client app ∧
    device ∈ app.devices ∧ app ∈ p.desktop.2.published n ∧ n < p.desktop.1.process

/-- In every run in which the peripherals report their addresses, with any number of clients, of
requests and of processes that follow each other: each part runs as its own system does, and the
clients and `auto_connect_task` watch the state that the BLE task has. Each connection that was put
in the command channel of the process, by whichever of them, is to a device that the process has
listed, and a peripheral with its address was found; or it came over a connection to the process,
from a client that chose it from what an earlier process had listed. -/
theorem connections_listed (hcr : cr.Lawful) (hcodec : codec.Lawful)
    (h : (program codec tcr cr pb).ReachableVia (fun _ a => a.ScansTruly addr) p) :
    Parts codec tcr cr pb p ∧ Watched p ∧
      ∀ x ∈ p.rpc.2.put, ∀ device, x.2 = .command (.connectToDevice device) →
        Lists (p.desktop.2.published p.desktop.1.process) device ∧
            (∃ q ∈ p.rpc.1.service.task.iface.ble.foundPeripherals, addr q = device.address) ∨
          x.1 = none ∧ p.ChosenBefore device := by
  have hkept := kept_of_reachable hcr hcodec h
  refine ⟨hkept.parts, hkept.watched, fun x hx device hcmd => ?_⟩
  have hfound : Lists (p.desktop.2.published p.desktop.1.process) device →
      ∃ q ∈ p.rpc.1.service.task.iface.ble.foundPeripherals, addr q = device.address := by
    rintro ⟨app, happ, hdevice⟩
    exact hkept.asked.listed.past app happ device hdevice
  rcases hkept.asked.put x hx device hcmd with
    hlists | ⟨hnone, c, conn, hc, hconn, hrunning⟩
  · exact .inl ⟨hlists, hfound hlists⟩
  obtain ⟨_, hconn', hchosen⟩ := Desktop.exists_chosen_of_channel hcodec hkept.parts.desktop hc
  obtain rfl := Option.some.inj (hconn.symm.trans hconn')
  cases hchosen with
  | @connect app _ hcame hdevice =>
    obtain ⟨-, conn', -, -, -, hpublished⟩ := id hcame
    -- the process whose state the client chose from
    rcases lt_trichotomy conn'.process p.desktop.1.process with hlt | heq | hgt
    · exact .inr ⟨hnone, c, conn, app, _, hc, hconn, hrunning, hcame, hdevice, hpublished, hlt⟩
    · have hlists : Lists (p.desktop.2.published p.desktop.1.process) device :=
        ⟨app, heq ▸ hpublished, hdevice⟩
      exact .inl ⟨hlists, hfound hlists⟩
    -- a process that is yet to come lists nothing
    · rw [published_fresh hcodec hkept.parts.desktop (hkept.fresh _ hgt)] at hpublished
      obtain rfl := List.mem_singleton.mp hpublished
      cases hdevice

/-- No client is there after five seconds, and `auto_connect_task` scans. A request to connect comes
when the device that was found is listed. -/
def scanRun : List (Action Unit UInt8) :=
  [.startService Sample.startTask.iface.ecdh.storage 0, .autoConnect (.tick (fromSecs 5)),
    .autoConnect .wake, .autoConnect (.scanSent true),
    .rpc (.service (.task (.recvCommand { Sample.commandEnv 5 with
      scan := ⟨.ok (), .ok [⟨0⟩], Sample.advertised⟩ }))),
    .autoConnect .changed, .autoConnect .look, .autoConnect (.connectSent true),
    .rpc (.receive (callRequest 7 "connect" (.object [])) ⟨0, 0⟩), .rpc (.go 0), .rpc (.go 0)]

theorem scansTruly_scanRun : ∀ a ∈ scanRun, a.ScansTruly Sample.addressOf := by
  simp only [scanRun, List.forall_mem_cons]
  exact ⟨trivial, trivial, trivial, trivial, Sample.reports_advertised, trivial, trivial, trivial,
    trivial, trivial, trivial, List.forall_mem_nil _⟩

/-- Both of them connect to the device, of which the peripheral was found. -/
theorem connections_listed_sample : ∃ p : Program Unit UInt8,
    p.rpc.2.put = [(none, .command .scanForDevices),
      (none, .command (.connectToDevice Sample.device)),
      (some 0, .command (.connectToDevice Sample.device))] ∧ Watched p ∧
    ∃ q ∈ p.rpc.1.service.task.iface.ble.foundPeripherals,
      Sample.addressOf q = Sample.device.address := by
  have hrun : ((program Ipc.Sample.codec Tui.sampleTuiCrates sampleCrates Sample.prost).replay
      (fun _ _ => True) ⟨(Desktop.start, .start), newProcess Sample.startTask.iface.ecdh.storage 0,
        newTask 0⟩ scanRun).map (fun p => p.rpc.2.put) =
      some [(none, .command .scanForDevices),
        (none, .command (.connectToDevice Sample.device)),
        (some 0, .command (.connectToDevice Sample.device))] := by
    rfl
  obtain ⟨p, hp, hput⟩ := Option.map_eq_some_iff.mp hrun
  obtain ⟨-, hwatched, hlisted⟩ := connections_listed sampleCrates_lawful Ipc.Sample.codec_lawful
    (.of_replay_forall scanRun scansTruly_scanRun (.init ⟨_, _, _, rfl⟩) hp)
  have hmem : (some 0, .command (.connectToDevice Sample.device)) ∈ p.rpc.2.put := by
    rw [hput]
    exact List.mem_cons_of_mem _ (List.mem_cons_of_mem _ List.mem_cons_self)
  rcases hlisted _ hmem Sample.device rfl with ⟨-, hfound⟩ | ⟨hnone, -⟩
  · exact ⟨p, hput, hwatched, hfound⟩
  · cases hnone

end Program

end ToothPaste
