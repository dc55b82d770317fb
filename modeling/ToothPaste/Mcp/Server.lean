import ToothPaste.Lib.Tagged
import ToothPaste.Mcp.Connect

/-!
# The MCP server

`handle_mcp` answers each request on its own: a notification at once, a call when its tool is done.
Any number of requests are handled at the same time, beside the TUI, the hotkeys and the task that
connects automatically, which put commands and events in the same two channels. What a client no
longer waits for just takes no further step.

* `requests_served`: in every run, the BLE task takes from each channel what was put in it, in that
  order. Each request puts there the first part of what its tool sends, all of it if the reply is a
  success, and nothing if the method or the parameters are rejected.
-/

namespace ToothPaste

namespace Mcp

open Tagged

/-! ## Requests -/

/-- `JsonRpcRequest`, without the version that nothing reads. An `id` or `params` that is `null` is
as if it were not there. -/
structure JsonRpcRequest where
  id : Option Json
  method : String
  params : Option Json

/-- The result of a request, before it is printed. -/
inductive RpcResult where
  | value (value : Json)
  | tools (tools : List Tool)
  | tool (result : ToolResult)

/-- The response: empty, or with the id of the request and its result. -/
inductive RpcResponse where
  | ok
  | body (id : Json) (result : Except RpcError RpcResult)

/-- What `handle_mcp` has yet to do: to respond, or to run the tool of a call first. -/
inductive RpcRun where
  | respond (response : RpcResponse)
  | call (id : Json) (run : ToolRun)

/-- What `initialize` returns. -/
def initialized : Json :=
  .object [("protocolVersion", .string "2024-11-05"),
    ("capabilities", .object [("tools", .object [])]),
    ("serverInfo", .object [("name", .string "ToothPaste Desktop"), ("version", .string "0.1.0")])]

/-- The error of a method that there is not. -/
def methodNotFound : RpcError := ⟨-32601, "Method not found"⟩

/-- `handle_mcp`. -/
def handleMcp (clock : Clock) (req : JsonRpcRequest) : RpcRun :=
  match req.id with
  -- a notification is acknowledged
  | none => .respond .ok
  | some id =>
    match req.method with
    | "initialize" => .respond (.body id (.ok (.value initialized)))
    | "tools/list" => .respond (.body id (.ok (.tools toolsList)))
    | "tools/call" =>
      match req.params with
      | some params => .call id (toolsCall clock params)
      | none => .respond (.body id (.error (invalidParams "params required")))
    | _ => .respond (.body id (.error methodNotFound))

/-- The response, once it is there. -/
def RpcRun.response : RpcRun → Option RpcResponse
  | .respond response => some response
  | .call id (.ret result) => some (.body id (result.map .tool))
  | .call .. => none

/-- A request that was received, with the times at which its tool makes events and what is yet to
do. -/
structure RpcExchange where
  request : JsonRpcRequest
  clock : Clock
  run : RpcRun

/-- The service and the requests that were received. -/
structure RpcServer (SK : Type) where
  service : Service SK
  exchanges : List RpcExchange

/-- The steps. -/
inductive RpcAction (SK : Type) where
  | service (a : ServiceAction SK)
  | receive (request : JsonRpcRequest) (clock : Clock)
  /-- The tool of a request takes its next step. -/
  | go (k : ℕ)
  /-- The wait of its tool times out. -/
  | timeout (k : ℕ)

variable {SK PK : Type}

/-- One step of the service or of a request. -/
def RpcServer.step (cr : Crates SK PK) (pb : Prost) (m : RpcServer SK) :
    RpcAction SK → Option (RpcServer SK)
  | .service a => (Service.step cr pb m.service a).map fun service => { m with service }
  | .receive request clock =>
    some { m with exchanges := m.exchanges ++ [⟨request, clock, handleMcp clock request⟩] }
  | .go k =>
    match m.exchanges[k]? with
    | some ⟨request, clock, .call id run⟩ => (run.step cr pb m.service).map fun next =>
      ⟨next.1, m.exchanges.set k ⟨request, clock, .call id next.2⟩⟩
    | _ => none
  | .timeout k =>
    match m.exchanges[k]? with
    | some ⟨request, clock, .call id run⟩ => run.timeout.map fun next =>
      { m with exchanges := m.exchanges.set k ⟨request, clock, .call id next⟩ }
    | _ => none

/-- The service with the requests. -/
def rpcServer (cr : Crates SK PK) (pb : Prost) :
    Transition.System (RpcServer SK) (RpcAction SK) where
  Init m := (service cr pb).Init m.service ∧ m.exchanges = []
  step := RpcServer.step cr pb

/-! ## The channels -/

/-- What the next step of a tool puts in a channel: nothing if that is closed. -/
def ToolRun.puts (s : Service SK) : ToolRun → List ChannelSend
  | .sendCommand cmd _ => if s.task.phase = .stopped then [] else [.command cmd]
  | .sendEvent event _ => if s.task.phase = .stopped then [] else [.event event]
  | _ => []

/-- What a step of the service puts in a channel. -/
def servicePuts (s : Service SK) : ServiceAction SK → List ChannelSend
  | .task (.putInput event) => [.event event]
  | .task (.putCommand cmd) => [.command cmd]
  | .output =>
    match s.pending with
    | .trySend event :: _ => if s.task.HasRoom then [.event event] else []
    | _ => []
  | _ => []

/-- What the BLE task takes from a channel. -/
def serviceTakes (s : Service SK) : ServiceAction SK → List ChannelSend
  | .task (.recvCommand _) => (s.task.commands.take 1).map .command
  | .task (.recvInput _) => (s.task.inputs.take 1).map .event
  | _ => []

/-- What was put in the channels, each with the request that put it there if it was one, and what
was taken from them. -/
structure RpcLog where
  put : List (Option ℕ × ChannelSend)
  taken : List ChannelSend

/-- The log after a step. -/
def RpcLog.after (log : RpcLog) (m : RpcServer SK) : RpcAction SK → RpcLog
  | .service a => ⟨log.put ++ tagged none (servicePuts m.service a),
    log.taken ++ serviceTakes m.service a⟩
  | .go k =>
    match m.exchanges[k]? with
    | some ⟨_, _, .call _ run⟩ =>
      { log with put := log.put ++ tagged (some k) (run.puts m.service) }
    | _ => log
  | .receive .. | .timeout _ => log

/-- The service and the requests with the log. -/
def withRpcLog (cr : Crates SK PK) (pb : Prost) :
    Transition.System (RpcServer SK × RpcLog) (RpcAction SK) :=
  (rpcServer cr pb).withHistory ⟨[], []⟩ fun log m a _ => log.after m a

variable {cr : Crates SK PK} {pb : Prost} {s t : Service SK} {log : RpcLog}

@[simp]
theorem isEvent_command (cmd : AppCommand) : (ChannelSend.command cmd).isEvent = false := rfl

@[simp]
theorem isEvent_event (event : InputEvent) : (ChannelSend.event event).isEvent = true := rfl

/-- Each channel keeps what was put in it until it is taken. -/
structure ChannelsKept (s : Service SK) (log : RpcLog) : Prop where
  commands : (log.put.map Prod.snd).filter (!·.isEvent) =
    log.taken.filter (!·.isEvent) ++ s.task.commands.map .command
  inputs : (log.put.map Prod.snd).filter ChannelSend.isEvent =
    log.taken.filter ChannelSend.isEvent ++ s.task.inputs.map .event

/-- What a step adds to the log, and what it does to the channels. -/
structure ChannelsMove (s t : Service SK) (puts takes : List ChannelSend) : Prop where
  commands : s.task.commands.map .command ++ puts.filter (!·.isEvent) =
    takes.filter (!·.isEvent) ++ t.task.commands.map .command
  inputs : s.task.inputs.map .event ++ puts.filter ChannelSend.isEvent =
    takes.filter ChannelSend.isEvent ++ t.task.inputs.map .event

/-- A step that moves the channels as it says keeps them. -/
theorem ChannelsKept.move (h : ChannelsKept s log) {puts takes : List ChannelSend}
    (hmove : ChannelsMove s t puts takes) (who : Option ℕ) :
    ChannelsKept t ⟨log.put ++ tagged who puts, log.taken ++ takes⟩ where
  commands := by
    rw [List.map_append, map_snd_tagged, List.filter_append, List.filter_append, h.commands,
      List.append_assoc, List.append_assoc, hmove.commands]
  inputs := by
    rw [List.map_append, map_snd_tagged, List.filter_append, List.filter_append, h.inputs,
      List.append_assoc, List.append_assoc, hmove.inputs]

/-- The channels are as they were. -/
theorem channelsMove_same (hcommands : t.task.commands = s.task.commands)
    (hinputs : t.task.inputs = s.task.inputs) : ChannelsMove s t [] [] := by
  constructor
  · rw [hcommands]; simp
  · rw [hinputs]; simp

/-- An event is put in the input channel. -/
theorem channelsMove_putInput {event : InputEvent} (hcommands : t.task.commands = s.task.commands)
    (hinputs : t.task.inputs = s.task.inputs ++ [event]) :
    ChannelsMove s t [.event event] [] := by
  constructor
  · rw [hcommands]; simp
  · rw [hinputs]; simp

/-- A command is put in the command channel. -/
theorem channelsMove_putCommand {cmd : AppCommand}
    (hcommands : t.task.commands = s.task.commands ++ [cmd])
    (hinputs : t.task.inputs = s.task.inputs) : ChannelsMove s t [.command cmd] [] := by
  constructor
  · rw [hcommands]; simp
  · rw [hinputs]; simp

/-- The first command is taken. -/
theorem channelsMove_takeCommand {cmd : AppCommand} {rest : List AppCommand}
    (hcmd : s.task.commands = cmd :: rest) (hcommands : t.task.commands = rest)
    (hinputs : t.task.inputs = s.task.inputs) :
    ChannelsMove s t [] ((s.task.commands.take 1).map .command) := by
  constructor
  · rw [hcmd, hcommands]; simp
  · rw [hcmd, hinputs]; simp

/-- The first event is taken. -/
theorem channelsMove_takeInput {event : InputEvent} {rest : List InputEvent}
    (hevent : s.task.inputs = event :: rest) (hinputs : t.task.inputs = rest)
    (hcommands : t.task.commands = s.task.commands) :
    ChannelsMove s t [] ((s.task.inputs.take 1).map .event) := by
  constructor
  · rw [hevent, hcommands]; simp
  · rw [hevent, hinputs]
    simp [List.filter_cons]

/-- What a step of the service does to the channels. -/
theorem channelsMove_service {a : ServiceAction SK} (hm : Service.Moves cr pb s a t) :
    ChannelsMove s t (servicePuts s a) (serviceTakes s a) := by
  cases hm with
  | handleEvent => exact channelsMove_same rfl rfl
  | updateState hpending =>
    rw [servicePuts, hpending]
    exact channelsMove_same rfl rfl
  | @trySend event pending hpending =>
    rw [servicePuts, hpending]
    dsimp only
    split_ifs with hroom
    · have hsent : s.task.trySend event = { s.task with inputs := s.task.inputs ++ [event] } :=
        if_pos hroom
      exact channelsMove_putInput (by rw [hsent]) (by rw [hsent])
    -- an event that finds no room is dropped
    · have hdropped : s.task.trySend event = s.task := if_neg hroom
      exact channelsMove_same (by rw [hdropped]) (by rw [hdropped])
  | task hm =>
    cases hm with
    | putInput => exact channelsMove_putInput rfl rfl
    | putCommand => exact channelsMove_putCommand rfl rfl
    | idleCommand hphase hcmd =>
      obtain ⟨hcommands, hinputs⟩ :=
        BleTask.channels_idleCommand cr pb { s.task with commands := _ } _ _
      exact channelsMove_takeCommand hcmd hcommands hinputs
    | command hphase hcmd =>
      exact channelsMove_takeCommand hcmd (BleTask.after_commands ..) (BleTask.after_inputs ..)
    | recvInput hphase hevent =>
      exact channelsMove_takeInput hevent (BleTask.after_inputs ..) (BleTask.after_commands ..)
    | greet | recvNotification =>
      exact channelsMove_same (BleTask.after_commands ..) (BleTask.after_inputs ..)
    | notify | notifyLost | endStream | publish | publishNone | subscribe | subscribeFails
    | openStream | openStreamFails => exact channelsMove_same rfl rfl

/-! ## Tools -/

/-- What a tool has put in the channels. -/
def enqueued (effects : List ToolEffect) : List ChannelSend :=
  effects.filterMap fun
    | .enqueued x => some x
    | .locked .. => none

@[simp]
theorem enqueued_nil : enqueued [] = [] := rfl

@[simp]
theorem enqueued_cons (x : ChannelSend) (effects : List ToolEffect) :
    enqueued (.enqueued x :: effects) = x :: enqueued effects := rfl

@[simp]
theorem enqueued_append (effects effects' : List ToolEffect) :
    enqueued (effects ++ effects') = enqueued effects ++ enqueued effects' :=
  List.filterMap_append

namespace ToolRun

/-- The tool has done `effects` and goes on as `run`. -/
def Continues (tool : ToolRun) (effects : List ToolEffect) (run : ToolRun) : Prop :=
  ∀ rest result, run.Returns rest result → tool.Returns (effects ++ rest) result

/-- A tool that has done nothing yet. -/
theorem continues_self (tool : ToolRun) : tool.Continues [] tool := fun _ _ h => h

/-- What a tool has done adds up. -/
theorem Continues.trans {tool run next : ToolRun} {effects effects' : List ToolEffect}
    (h : tool.Continues effects run) (h' : run.Continues effects' next) :
    tool.Continues (effects ++ effects') next := fun rest result hrest => by
  rw [List.append_assoc]
  exact h _ _ (h' rest result hrest)

/-- A run can be answered so that it returns. -/
theorem exists_returns (run : ToolRun) : ∃ effects result, run.Returns effects result := by
  induction run with
  | ret result => exact ⟨[], result, .ret result⟩
  | sendCommand cmd next ih =>
    obtain ⟨effects, result, h⟩ := ih false
    exact ⟨effects, result, .commandRefused h⟩
  | sendEvent event next ih =>
    obtain ⟨effects, result, h⟩ := ih false
    exact ⟨effects, result, .eventRefused h⟩
  | borrow next ih =>
    obtain ⟨effects, result, h⟩ := ih AppState.initial
    exact ⟨effects, result, .borrow _ h⟩
  | awaitDevice next ih =>
    obtain ⟨effects, result, h⟩ := ih none
    exact ⟨effects, result, .awaitDevice _ h⟩
  | awaitConnected device next ih =>
    obtain ⟨effects, result, h⟩ := ih false
    exact ⟨effects, result, .awaitConnected _ h⟩
  | lockSerial clear next ih =>
    obtain ⟨effects, result, h⟩ := ih []
    exact ⟨_, result, .lockSerial [] h⟩

/-- The steps of a run: the service after each, and what the run has yet to do. -/
inductive Moves (cr : Crates SK PK) (pb : Prost) (s : Service SK) :
    ToolRun → Service SK → ToolRun → Prop
  | borrow {next : AppState → ToolRun} :
      Moves cr pb s (.borrow next) s (next s.task.iface.appState)
  | commandRefused {cmd : AppCommand} {next : Bool → ToolRun}
      (hstopped : s.task.phase = .stopped) : Moves cr pb s (.sendCommand cmd next) s (next false)
  | commandSent {cmd : AppCommand} {next : Bool → ToolRun} {t : Service SK}
      (hopen : s.task.phase ≠ .stopped)
      (hm : Service.Moves cr pb s (.task (.putCommand cmd)) t) :
      Moves cr pb s (.sendCommand cmd next) t (next true)
  | eventRefused {event : InputEvent} {next : Bool → ToolRun}
      (hstopped : s.task.phase = .stopped) : Moves cr pb s (.sendEvent event next) s (next false)
  | eventSent {event : InputEvent} {next : Bool → ToolRun} {t : Service SK}
      (hopen : s.task.phase ≠ .stopped)
      (hm : Service.Moves cr pb s (.task (.putInput event)) t) :
      Moves cr pb s (.sendEvent event next) t (next true)
  | awaitDevice {next : Option Device → ToolRun} {device : Device}
      (hdevice : s.task.iface.appState.devices.head? = some device) :
      Moves cr pb s (.awaitDevice next) s (next (some device))
  | awaitConnected {device : Device} {next : Bool → ToolRun} :
      Moves cr pb s (.awaitConnected device next) s (next true)
  | lockSerial {clear : Bool} {next : List String → ToolRun} :
      Moves cr pb s (.lockSerial clear next)
        { s with task := { s.task with iface := { s.task.iface with
          serialBuffer := (toolReadSerial clear s.task.iface.serialBuffer).2 } } }
        (next (toolReadSerial clear s.task.iface.serialBuffer).1)

/-- Every step is one of the cases. -/
theorem moves_of_step {run next : ToolRun} (h : run.step cr pb s = some (t, next)) :
    run.Moves cr pb s t next := by
  cases run with
  | ret result => cases h
  | borrow next =>
    obtain ⟨rfl, rfl⟩ := Prod.mk.inj (Option.some.inj h)
    exact .borrow
  | sendCommand cmd next =>
    rw [ToolRun.step] at h
    split_ifs at h with hstopped
    · obtain ⟨rfl, rfl⟩ := Prod.mk.inj (Option.some.inj h)
      exact .commandRefused hstopped
    · obtain ⟨t, hput, heq⟩ := Option.map_eq_some_iff.mp h
      obtain ⟨rfl, rfl⟩ := Prod.mk.inj heq
      exact .commandSent hstopped (Service.moves_of_step hput)
  | sendEvent event next =>
    rw [ToolRun.step] at h
    split_ifs at h with hstopped
    · obtain ⟨rfl, rfl⟩ := Prod.mk.inj (Option.some.inj h)
      exact .eventRefused hstopped
    · obtain ⟨t, hput, heq⟩ := Option.map_eq_some_iff.mp h
      obtain ⟨rfl, rfl⟩ := Prod.mk.inj heq
      exact .eventSent hstopped (Service.moves_of_step hput)
  | awaitDevice next =>
    obtain ⟨device, hdevice, heq⟩ := Option.map_eq_some_iff.mp h
    obtain ⟨rfl, rfl⟩ := Prod.mk.inj heq
    exact .awaitDevice hdevice
  | awaitConnected device next =>
    rw [ToolRun.step] at h
    split_ifs at h
    obtain ⟨rfl, rfl⟩ := Prod.mk.inj (Option.some.inj h)
    exact .awaitConnected
  | lockSerial clear next =>
    rw [ToolRun.step, serialStep, Option.map_some] at h
    obtain ⟨rfl, rfl⟩ := Prod.mk.inj (Option.some.inj h)
    exact .lockSerial

/-- One step: what the tool does, what is in the channels after it, and how the tool goes on. -/
theorem continues_of_step {run next : ToolRun} (h : run.step cr pb s = some (t, next)) :
    ChannelsMove s t (run.puts s) [] ∧
      ∃ effects, enqueued effects = run.puts s ∧ run.Continues effects next := by
  cases moves_of_step h with
  | borrow => exact ⟨channelsMove_same rfl rfl, [], rfl, fun _ _ hrest => .borrow _ hrest⟩
  | commandRefused hstopped =>
    rw [ToolRun.puts, if_pos hstopped]
    exact ⟨channelsMove_same rfl rfl, [], rfl, fun _ _ hrest => .commandRefused hrest⟩
  | @commandSent cmd _ _ hopen hm =>
    rw [ToolRun.puts, if_neg hopen]
    exact ⟨channelsMove_service hm, [.enqueued (.command cmd)], rfl,
      fun _ _ hrest => .commandSent hrest⟩
  | eventRefused hstopped =>
    rw [ToolRun.puts, if_pos hstopped]
    exact ⟨channelsMove_same rfl rfl, [], rfl, fun _ _ hrest => .eventRefused hrest⟩
  | @eventSent event _ _ hopen hm =>
    rw [ToolRun.puts, if_neg hopen]
    exact ⟨channelsMove_service hm, [.enqueued (.event event)], rfl,
      fun _ _ hrest => .eventSent hrest⟩
  | awaitDevice =>
    exact ⟨channelsMove_same rfl rfl, [], rfl, fun _ _ hrest => .awaitDevice _ hrest⟩
  | awaitConnected =>
    exact ⟨channelsMove_same rfl rfl, [], rfl, fun _ _ hrest => .awaitConnected _ hrest⟩
  | lockSerial =>
    exact ⟨channelsMove_same rfl rfl, [.locked _ _], rfl, fun _ _ hrest => .lockSerial _ hrest⟩

/-- A wait that times out. -/
theorem continues_of_timeout {run next : ToolRun} (h : run.timeout = some next) :
    run.Continues [] next := by
  cases run with
  | awaitDevice next =>
    obtain rfl := Option.some.inj h
    exact fun _ _ hrest => .awaitDevice _ hrest
  | awaitConnected device next =>
    obtain rfl := Option.some.inj h
    exact fun _ _ hrest => .awaitConnected _ hrest
  | ret | borrow | sendCommand | sendEvent | lockSerial => cases h

/-- What is sent one after the other: the first part, and all of it if the reply is a success. -/
theorem returns_sendAll {result : ToolResult} {sends : List ChannelSend} {effects : List ToolEffect}
    {r : Except RpcError ToolResult} (h : (sendAll result sends).Returns effects r) :
    enqueued effects <+: sends ∧ ∀ reply, r = .ok reply → enqueued effects = sends ∧
      reply = result := by
  induction sends generalizing effects with
  | nil =>
    cases h
    exact ⟨List.prefix_rfl, fun reply hreply => ⟨rfl, (Except.ok.inj hreply).symm⟩⟩
  | cons x rest ih =>
    have hrefused : ∀ {e : RpcError}, (ToolRun.ret (.error e)).Returns effects r →
        enqueued effects <+: x :: rest ∧ ∀ reply, r = .ok reply → enqueued effects = x :: rest ∧
          reply = result := fun h => by
      cases h
      exact ⟨List.nil_prefix, nofun⟩
    cases x with
    | command cmd =>
      cases h with
      | commandSent hnext =>
        obtain ⟨hfirst, hall⟩ := ih hnext
        exact ⟨(List.prefix_cons_inj _).mpr hfirst, fun reply hreply =>
          ⟨congrArg _ (hall reply hreply).1, (hall reply hreply).2⟩⟩
      | commandRefused hnext => exact hrefused hnext
    | event event =>
      cases h with
      | eventSent hnext =>
        obtain ⟨hfirst, hall⟩ := ih hnext
        exact ⟨(List.prefix_cons_inj _).mpr hfirst, fun reply hreply =>
          ⟨congrArg _ (hall reply hreply).1, (hall reply hreply).2⟩⟩
      | eventRefused hnext => exact hrefused hnext

/-- What `do_connect` sends: its command, and it succeeds once that is sent. -/
theorem returns_doConnect {device : Device} {effects : List ToolEffect}
    {r : Except RpcError ToolResult} (h : (doConnect device).Returns effects r) :
    (enqueued effects = [] ∧ (∃ e, r = .error e) ∨
      enqueued effects = [.command (.connectToDevice device)]) ∧
        ∀ reply, r = .ok reply → reply = .connectedTo device.name := by
  cases h with
  | commandRefused hnext =>
    cases hnext
    exact ⟨.inl ⟨rfl, _, rfl⟩, nofun⟩
  | commandSent hnext =>
    cases hnext with
    | awaitConnected connected hnext =>
      cases hnext
      refine ⟨.inr rfl, fun reply hreply => ?_⟩
      cases connected with
      | false => cases hreply
      | true => exact (Except.ok.inj hreply).symm

/-- Everything `tool_connect` sends for a device: the device is listed, or a scan has to come
first. -/
def ConnectSends (device : Device) (sends : List ChannelSend) : Prop :=
  sends = [.command (.connectToDevice device)] ∨
    sends = [.command .scanForDevices, .command (.connectToDevice device)]

/-- The first part of it. -/
def ConnectBegins (sends : List ChannelSend) : Prop :=
  sends = [] ∨ sends = [.command .scanForDevices] ∨ ∃ device, ConnectSends device sends

/-- A beginning of a beginning is one. -/
theorem ConnectBegins.of_append {sends rest : List ChannelSend}
    (h : ConnectBegins (sends ++ rest)) : ConnectBegins sends := by
  rcases sends with _ | ⟨x, _ | ⟨y, sends⟩⟩
  · exact .inl rfl
  · rcases h with h | h | ⟨device, h | h⟩
    · cases h
    · obtain ⟨rfl, -⟩ := List.cons.inj h
      exact .inr (.inl rfl)
    · obtain ⟨rfl, -⟩ := List.cons.inj h
      exact .inr (.inr ⟨device, .inl rfl⟩)
    · obtain ⟨rfl, -⟩ := List.cons.inj h
      exact .inr (.inl rfl)
  -- two commands are all of it
  · rcases h with h | h | ⟨device, h | h⟩
    · cases h
    · cases h
    · cases h
    · obtain ⟨rfl, hrest⟩ := List.cons.inj h
      obtain ⟨rfl, hnil⟩ := List.cons.inj hrest
      obtain ⟨rfl, -⟩ := List.append_eq_nil_iff.mp hnil
      exact .inr (.inr ⟨device, .inr rfl⟩)

/-- What `tool_connect` sends. -/
theorem returns_toolConnect {effects : List ToolEffect} {r : Except RpcError ToolResult}
    (h : toolConnect.Returns effects r) :
    ConnectBegins (enqueued effects) ∧ ∀ reply, r = .ok reply →
        (∃ name, reply = .alreadyConnected name ∧ enqueued effects = []) ∨
        ∃ device, reply = .connectedTo device.name ∧ ConnectSends device (enqueued effects) := by
  cases h with
  | borrow s hnext =>
    dsimp only at hnext
    split at hnext
    -- a device is connected, or one is listed
    case h_1 =>
      cases hnext
      exact ⟨.inl rfl, fun reply hreply => .inl ⟨_, (Except.ok.inj hreply).symm, rfl⟩⟩
    case h_2 =>
      obtain ⟨⟨hnone, e, rfl⟩ | hsent, hreply⟩ := returns_doConnect hnext
      · exact ⟨.inl hnone, nofun⟩
      · exact ⟨.inr (.inr ⟨_, .inl hsent⟩), fun reply hr =>
          .inr ⟨_, hreply reply hr, .inl hsent⟩⟩
    case h_3 =>
      cases hnext with
      | commandRefused hnext =>
        cases hnext
        exact ⟨.inl rfl, nofun⟩
      | commandSent hnext =>
        cases hnext with
        | awaitDevice found hnext =>
          cases found with
          | none =>
            cases hnext
            exact ⟨.inr (.inl rfl), nofun⟩
          | some device =>
            rw [enqueued_cons]
            obtain ⟨⟨hnone, e, rfl⟩ | hsent, hreply⟩ := returns_doConnect hnext
            · exact ⟨.inr (.inl (by rw [hnone])), nofun⟩
            · exact ⟨.inr (.inr ⟨device, .inr (by rw [hsent])⟩), fun reply hr =>
                .inr ⟨device, hreply reply hr, .inr (by rw [hsent])⟩⟩

/-- A tool that is neither `tool_connect` nor one that sends what it has to send, all of it, sends
nothing. -/
theorem sends_nothing (clock : Clock) (params : Json) :
    (∃ result sends, toolsCall clock params = sendAll result sends) ∨
      toolsCall clock params = toolConnect ∨
        ∀ effects r, (toolsCall clock params).Returns effects r → enqueued effects = [] := by
  have hrejected : ∀ e : RpcError, ∀ effects r, (ToolRun.ret (.error e)).Returns effects r →
      enqueued effects = [] := fun e effects r h => by
    cases h
    rfl
  have htool : ∀ c : ToolCall, (∃ result sends, c.toolRun clock = sendAll result sends) ∨
      c.toolRun clock = toolConnect ∨
        ∀ effects r, (c.toolRun clock).Returns effects r → enqueued effects = [] := fun c => by
    rw [ToolCall.toolRun]
    cases c.run clock with
    | error e => exact .inr (.inr (hrejected e))
    | ok outcome => exact .inl ⟨_, _, rfl⟩
  unfold toolsCall
  split
  · exact .inr (.inr (hrejected _))
  dsimp only
  -- the tools in the order of the dispatcher
  split
  · exact .inr (.inl rfl)
  · exact .inl ⟨_, _, rfl⟩
  · refine .inr (.inr fun effects r h => ?_)
    cases h with
    | borrow s hnext => cases hnext; rfl
  · split
    · exact .inr (.inr (hrejected _))
    · exact htool _
  · split
    · exact .inr (.inr (hrejected _))
    · exact htool _
  · split
    · exact .inr (.inr (hrejected _))
    · exact .inr (.inr (hrejected _))
    · exact htool _
  · exact htool _
  · split
    · exact .inr (.inr (hrejected _))
    · exact htool _
  · split
    · exact .inr (.inr (hrejected _))
    · exact htool _
  · refine .inr (.inr fun effects r h => ?_)
    cases h with
    | lockSerial buf hnext => cases hnext; rfl
  · exact .inr (.inr (hrejected _))

end ToolRun

/-! ## Requests in runs -/

namespace RpcServer

/-- The steps from `m`, and the state after each. -/
inductive Moves (cr : Crates SK PK) (pb : Prost) (m : RpcServer SK) :
    RpcAction SK → RpcServer SK → Prop
  | service {a : ServiceAction SK} {t : Service SK} (hm : Service.Moves cr pb m.service a t) :
      Moves cr pb m (.service a) { m with service := t }
  | receive {request : JsonRpcRequest} {clock : Clock} :
      Moves cr pb m (.receive request clock)
        { m with exchanges := m.exchanges ++ [⟨request, clock, handleMcp clock request⟩] }
  | go {k : ℕ} {request : JsonRpcRequest} {clock : Clock} {id : Json} {run next : ToolRun}
      {t : Service SK} (hk : m.exchanges[k]? = some ⟨request, clock, .call id run⟩)
      (hst : run.step cr pb m.service = some (t, next)) :
      Moves cr pb m (.go k) ⟨t, m.exchanges.set k ⟨request, clock, .call id next⟩⟩
  | timeout {k : ℕ} {request : JsonRpcRequest} {clock : Clock} {id : Json} {run next : ToolRun}
      (hk : m.exchanges[k]? = some ⟨request, clock, .call id run⟩)
      (hst : run.timeout = some next) :
      Moves cr pb m (.timeout k)
        { m with exchanges := m.exchanges.set k ⟨request, clock, .call id next⟩ }

/-- Every step is one of the cases. -/
theorem moves_of_step {m n : RpcServer SK} {a : RpcAction SK} (h : m.step cr pb a = some n) :
    m.Moves cr pb a n := by
  cases a with
  | service a =>
    obtain ⟨t, hst, rfl⟩ := Option.map_eq_some_iff.mp h
    exact .service (Service.moves_of_step hst)
  | receive request clock =>
    obtain rfl := Option.some.inj h
    exact .receive
  | go k =>
    rw [step] at h
    split at h
    case h_1 hk =>
      obtain ⟨⟨t, next⟩, hst, rfl⟩ := Option.map_eq_some_iff.mp h
      exact .go hk hst
    case h_2 => cases h
  | timeout k =>
    rw [step] at h
    split at h
    case h_1 hk =>
      obtain ⟨next, hst, rfl⟩ := Option.map_eq_some_iff.mp h
      exact .timeout hk hst
    case h_2 => cases h

end RpcServer

/-- What holds of a request and of what it has put in the channels: it was answered without a tool,
or its tool goes on from what it has done. -/
inductive ExchangeKept (e : RpcExchange) (sent : List ChannelSend) : Prop
  | responded {response : RpcResponse} (hrun : e.run = .respond response)
      (hstart : handleMcp e.clock e.request = .respond response) (hsent : sent = [])
  | called {id : Json} {tool run : ToolRun} {effects : List ToolEffect}
      (hrun : e.run = .call id run) (hstart : handleMcp e.clock e.request = .call id tool)
      (hsent : sent = enqueued effects) (hgoes : tool.Continues effects run)

/-- What holds in every run. -/
structure RpcKept (m : RpcServer SK) (log : RpcLog) : Prop where
  channels : ChannelsKept m.service log
  numbered : ∀ x ∈ log.put, ∀ k ∈ x.1, k < m.exchanges.length
  exchanges : ∀ k e, m.exchanges[k]? = some e → ExchangeKept e (of (some k) log.put)

/-- A request that is received has sent nothing. -/
theorem exchangeKept_receive (request : JsonRpcRequest) (clock : Clock) :
    ExchangeKept ⟨request, clock, handleMcp clock request⟩ [] := by
  cases hstart : handleMcp clock request with
  | respond response => exact .responded rfl hstart rfl
  | call id tool => exact .called rfl hstart enqueued_nil.symm tool.continues_self

/-- The tool of a request goes on. -/
theorem ExchangeKept.goesOn {request : JsonRpcRequest} {clock : Clock} {id : Json}
    {run next : ToolRun} {sent : List ChannelSend}
    (h : ExchangeKept ⟨request, clock, .call id run⟩ sent) {effects : List ToolEffect}
    (hgoes : run.Continues effects next) :
    ExchangeKept ⟨request, clock, .call id next⟩ (sent ++ enqueued effects) := by
  cases h with
  | responded hrun => cases hrun
  | called hrun hstart hsent hbefore =>
    obtain ⟨rfl, rfl⟩ := RpcRun.call.inj hrun
    subst hsent
    exact .called rfl hstart (enqueued_append ..).symm (hbefore.trans hgoes)

/-- A request goes on, and no other one does. -/
theorem RpcKept.set {m : RpcServer SK} (h : RpcKept m log) {k : ℕ} {e e' : RpcExchange}
    (hk : m.exchanges[k]? = some e) {puts : List ChannelSend}
    (hmove : ChannelsMove m.service t puts [])
    (hkept : ExchangeKept e' (of (some k) log.put ++ puts)) :
    RpcKept ⟨t, m.exchanges.set k e'⟩ { log with put := log.put ++ tagged (some k) puts } where
  channels := by simpa using h.channels.move hmove (some k)
  numbered x hx j hj := by
    rw [List.length_set]
    rcases List.mem_append.mp hx with hx | hx
    · exact h.numbered x hx j hj
    · rw [fst_of_mem_tagged hx] at hj
      obtain rfl := Option.some.inj hj
      exact (List.getElem?_eq_some_iff.mp hk).1
  exchanges j e'' hj := by
    dsimp only at hj ⊢
    by_cases hne : k = j
    · subst hne
      rw [List.getElem?_set_self (List.getElem?_eq_some_iff.mp hk).1] at hj
      obtain rfl := Option.some.inj hj
      rw [of_append, of_tagged_self]
      exact hkept
    · rw [List.getElem?_set_ne hne] at hj
      rw [of_append, of_tagged_of_ne fun heq => hne (Option.some.inj heq), List.append_nil]
      exact h.exchanges j e'' hj

/-- Every step keeps the account of the requests. -/
theorem rpcKept_step {m n : RpcServer SK} (h : RpcKept m log) {a : RpcAction SK}
    (hm : m.Moves cr pb a n) : RpcKept n (log.after m a) := by
  cases hm with
  | @service a t hm =>
    refine ⟨h.channels.move (channelsMove_service hm) none, fun x hx k hk => ?_,
      fun k e hke => ?_⟩
    · rcases List.mem_append.mp hx with hx | hx
      · exact h.numbered x hx k hk
      · rw [fst_of_mem_tagged hx] at hk
        cases hk
    · rw [RpcLog.after, of_append, of_tagged_of_ne (Option.some_ne_none k).symm, List.append_nil]
      exact h.exchanges k e hke
  | @receive request clock =>
    refine ⟨h.channels, fun x hx k hk => ?_, fun k e hke => ?_⟩
    · rw [List.length_append]
      exact Nat.lt_add_right 1 (h.numbered x hx k hk)
    · rw [RpcLog.after]
      rcases Nat.lt_or_ge k m.exchanges.length with hlt | hge
      · rw [List.getElem?_append_left hlt] at hke
        exact h.exchanges k e hke
      -- the new one
      · rw [List.getElem?_append_right hge, List.getElem?_singleton] at hke
        split_ifs at hke
        obtain rfl := Option.some.inj hke
        have hnone : of (some k) log.put = [] :=
          of_eq_nil_iff.mpr fun x hx heq => absurd (h.numbered x hx k heq) (Nat.not_lt.mpr hge)
        rw [hnone]
        exact exchangeKept_receive request clock
  | @go k request clock id run next t hk hst =>
    obtain ⟨hmove, effects, hputs, hgoes⟩ := ToolRun.continues_of_step hst
    rw [RpcLog.after, hk]
    refine h.set hk hmove ?_
    rw [← hputs]
    exact (h.exchanges k _ hk).goesOn hgoes
  | @timeout k request clock id run next hk hst =>
    have hgoes := (h.exchanges k _ hk).goesOn (ToolRun.continues_of_timeout hst)
    have hset := h.set hk (channelsMove_same rfl rfl) hgoes
    rw [RpcLog.after]
    simpa [tagged] using hset

/-- What a request has put in the channels, and what its response says about it. -/
structure ExchangeServed (e : RpcExchange) (sent : List ChannelSend) : Prop where
  /-- The response has the id of the request. -/
  id : ∀ id result, e.run.response = some (.body id result) → e.request.id = some id
  /-- A tool that sends everything and then returns. -/
  sends : ∀ id result sends, handleMcp e.clock e.request = .call id (sendAll result sends) →
    sent <+: sends ∧ ∀ reply, e.run.response = some (.body id (.ok reply)) →
      sent = sends ∧ reply = .tool result
  /-- `tool_connect`. -/
  connects : ∀ id, handleMcp e.clock e.request = .call id toolConnect →
    ToolRun.ConnectBegins sent ∧
      ∀ reply, e.run.response = some (.body id (.ok reply)) →
        (∃ name, reply = .tool (.alreadyConnected name) ∧ sent = []) ∨
        ∃ device, reply = .tool (.connectedTo device.name) ∧ ToolRun.ConnectSends device sent
  /-- Every other request. -/
  others : (∀ id result sends, handleMcp e.clock e.request ≠ .call id (sendAll result sends)) →
    (∀ id, handleMcp e.clock e.request ≠ .call id toolConnect) → sent = []

/-- The id that the response will have. -/
def RpcRun.id : RpcRun → Option Json
  | .respond .ok => none
  | .respond (.body id _) | .call id _ => some id

/-- The response has the id of the request. -/
theorem id_handleMcp (clock : Clock) (request : JsonRpcRequest) :
    (handleMcp clock request).id = request.id := by
  unfold handleMcp
  cases request.id with
  | none => rfl
  | some id =>
    dsimp only
    split
    · rfl
    · rfl
    · cases request.params <;> rfl
    · rfl

/-- The tool of a request is that of its parameters. -/
theorem tool_of_handleMcp {clock : Clock} {request : JsonRpcRequest} {id : Json} {tool : ToolRun}
    (h : handleMcp clock request = .call id tool) :
    ∃ params, request.params = some params ∧ tool = toolsCall clock params := by
  unfold handleMcp at h
  split at h
  · cases h
  split at h
  · cases h
  · cases h
  · split at h
    case h_1 params hparams =>
      obtain ⟨-, rfl⟩ := RpcRun.call.inj h
      exact ⟨params, hparams, rfl⟩
    case h_2 => cases h
  · cases h

/-- A request that is kept account of is served. -/
theorem served_of_kept {e : RpcExchange} {sent : List ChannelSend} (h : ExchangeKept e sent) :
    ExchangeServed e sent := by
  obtain ⟨request, clock, run⟩ := e
  cases h with
  | @responded response hrun hstart hsent =>
    dsimp only at hrun hstart
    subst hrun hsent
    refine ⟨fun id result hresponse => ?_, fun id result sends hcall => ?_, fun id hcall => ?_,
      fun _ _ => rfl⟩
    · obtain rfl := Option.some.inj hresponse
      rw [← id_handleMcp clock, hstart, RpcRun.id]
    · cases hstart.symm.trans hcall
    · cases hstart.symm.trans hcall
  | @called id tool run effects hrun hstart hsent hgoes =>
    dsimp only at hrun hstart
    subst hrun hsent
    -- whatever is yet to come, the first part of what the tool does is done
    obtain ⟨rest, r, hrest⟩ := run.exists_returns
    have hreturns := hgoes rest r hrest
    -- and a tool that has returned has done it all
    have hdone : ∀ id' reply, RpcRun.response (.call id run) = some (.body id' (.ok reply)) →
        ∃ result, reply = .tool result ∧ tool.Returns effects (.ok result) := by
      intro id' reply hresponse
      cases run with
      | ret result =>
        obtain ⟨-, hreply⟩ := RpcResponse.body.inj (Option.some.inj hresponse)
        cases result with
        | error => cases hreply
        | ok result =>
          refine ⟨result, (Except.ok.inj hreply).symm, ?_⟩
          simpa using hgoes [] _ (.ret (.ok result))
      | _ => cases hresponse
    refine ⟨fun id' result hresponse => ?_, fun id' result sends hcall => ?_,
      fun id' hcall => ?_, fun hsends hconnects => ?_⟩
    · cases run with
      | ret =>
        obtain ⟨rfl, -⟩ := RpcResponse.body.inj (Option.some.inj hresponse)
        rw [← id_handleMcp clock, hstart, RpcRun.id]
      | _ => cases hresponse
    · obtain ⟨rfl, rfl⟩ := RpcRun.call.inj (hstart.symm.trans hcall)
      refine ⟨?_, fun reply hresponse => ?_⟩
      · have hprefix := (ToolRun.returns_sendAll hreturns).1
        rw [enqueued_append] at hprefix
        exact (List.prefix_append _ _).trans hprefix
      · obtain ⟨result', rfl, hok⟩ := hdone id reply hresponse
        obtain ⟨hall, rfl⟩ := (ToolRun.returns_sendAll hok).2 result' rfl
        exact ⟨hall, rfl⟩
    · obtain ⟨rfl, rfl⟩ := RpcRun.call.inj (hstart.symm.trans hcall)
      refine ⟨?_, fun reply hresponse => ?_⟩
      · have hpart := (ToolRun.returns_toolConnect hreturns).1
        rw [enqueued_append] at hpart
        exact hpart.of_append
      · obtain ⟨result, rfl, hok⟩ := hdone id reply hresponse
        rcases (ToolRun.returns_toolConnect hok).2 result rfl with
          ⟨name, rfl, hnone⟩ | ⟨device, rfl, hsent⟩
        · exact .inl ⟨name, rfl, hnone⟩
        · exact .inr ⟨device, rfl, hsent⟩
    · obtain ⟨params, -, rfl⟩ := tool_of_handleMcp hstart
      rcases ToolRun.sends_nothing clock params with ⟨result, sends, hcall⟩ | hcall | hnone
      · exact absurd (hcall ▸ hstart) (hsends id result sends)
      · exact absurd (hcall ▸ hstart) (hconnects id)
      · have hall := hnone _ r hreturns
        rw [enqueued_append] at hall
        exact (List.append_eq_nil_iff.mp hall).1

/-- In every run, with any number of requests at a time: the BLE task takes from each of the two
channels what was put in it, in that order. A tool that sends several things puts the first part of
them in its channel, and all of them if its reply is a success; `connect` puts at most a scan and
then one connection there, and its reply names the device of that one; every other request, one that
is rejected included, puts nothing there. The response has the id of its request. -/
theorem requests_served {p : RpcServer SK × RpcLog} (h : (withRpcLog cr pb).Reachable p) :
    ChannelsKept p.1.service p.2 ∧
      ∀ k e, p.1.exchanges[k]? = some e → ExchangeServed e (of (some k) p.2.put) := by
  have hkept : RpcKept p.1 p.2 := by
    refine h.invariant_withHistory (I := RpcKept) ?_ fun m log a n hm _ hst =>
      rpcKept_step hm (RpcServer.moves_of_step hst)
    rintro m ⟨⟨storage, now, hstart⟩, hnone⟩
    refine ⟨?_, nofun, fun k e hk => ?_⟩
    · rw [hstart]
      exact ⟨rfl, rfl⟩
    · rw [hnone] at hk
      cases hk
  exact ⟨hkept.channels, fun k e hk => served_of_kept (hkept.exchanges k e hk)⟩

/-- A call as a request. -/
def callRequest (id : ℕ) (name : String) (arguments : Json) : JsonRpcRequest where
  id := some (.number (.posInt (.ofNat id)))
  method := "tools/call"
  params := some (callParams name arguments)

/-- Two calls and a command of the TUI; the second call sends its command first. -/
def requestsRun : List (RpcAction UInt8) :=
  [.receive (callRequest 7 "type_text" (.object [("text", .string "hi")])) ⟨0, 0⟩,
    .receive (callRequest 8 "disconnect" .null) ⟨0, 0⟩, .go 1,
    .service (.task (.putCommand .scanForDevices)), .go 0,
    .service (.task (.recvCommand (Sample.commandEnv 5)))]

/-- The commands are in the channel in the order in which they were sent, and the task has taken the
first one. -/
theorem requests_served_sample : ∃ p : RpcServer UInt8 × RpcLog,
    p.2.put.map Prod.fst = [some 1, none, some 0] ∧ p.2.taken.length = 1 ∧
    ChannelsKept p.1.service p.2 ∧
      ∀ k e, p.1.exchanges[k]? = some e → ExchangeServed e (of (some k) p.2.put) := by
  have hrun : ((withRpcLog sampleCrates Sample.prost).replay (fun _ _ => True)
      (⟨Sample.startService, []⟩, ⟨[], []⟩) requestsRun).map
        (fun p => (p.2.put.map Prod.fst, p.2.taken.length)) =
      some ([some 1, none, some 0], 1) := by decide +kernel
  obtain ⟨p, hp, hlog⟩ := Option.map_eq_some_iff.mp hrun
  obtain ⟨hput, htaken⟩ := Prod.mk.inj hlog
  exact ⟨p, hput, htaken, requests_served (.of_replay _ (.init ⟨⟨⟨_, 0, rfl⟩, rfl⟩, rfl⟩) hp)⟩

end Mcp

end ToothPaste
