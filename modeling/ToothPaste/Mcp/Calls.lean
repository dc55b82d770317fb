import ToothPaste.Lib.Lanes
import ToothPaste.Mcp.Tools
import ToothPaste.Service.System

/-!
# Calls made one after the other

A client that calls the tools of the MCP server, each after the previous reply, beside everything
else the service does. A call waits where its channel is full, and replies once the channel has
taken all it sends; the BLE task has not taken it then. Text goes through the command channel and
everything else through the input channel, and `run` takes from either.

`CallLog` follows what each call has sent through the two channels to the device.

* `calls_in_order`: in every run in which a call finds nothing of an earlier call in the channel it
  does not use, what the calls send reaches the device in the order of the calls, complete and
  without repetition.
* `pressed_before_typed`: a text is typed and then a key is pressed, and the key reaches the device
  first.
-/

namespace ToothPaste

namespace Mcp

/-- The service and a tool that is running: what it has yet to send. -/
structure McpServer (SK : Type) where
  service : Service SK
  sending : List ChannelSend

/-- The steps. -/
inductive McpAction (SK : Type) where
  | service (a : ServiceAction SK)
  /-- The client makes the next call: the previous one has replied. -/
  | call (c : ToolCall) (clock : Clock)
  /-- The tool sends what it has to send next. -/
  | send

/-- The step of the channel that takes what is sent. -/
def ChannelSend.action {SK : Type} : ChannelSend → BleAction SK
  | .command cmd => .putCommand cmd
  | .event input => .putInput input

/-- One step of the service or of the tool. -/
def McpServer.step {SK PK : Type} (cr : Crates SK PK) (pb : Prost) (m : McpServer SK) :
    McpAction SK → Option (McpServer SK)
  | .service a => (Service.step cr pb m.service a).map fun service => { m with service }
  | .call c clock =>
    match m.sending with
    | [] => some { m with sending := c.sends clock }
    | _ :: _ => none
  | .send =>
    match m.sending with
    | [] => none
    | x :: rest =>
      -- with its receiver gone the channel refuses, and the tool replies with an error
      if m.service.task.phase = .stopped then some { m with sending := [] }
      else
        (Service.step cr pb m.service (.task x.action)).map fun service =>
          { service, sending := rest }

/-- The service with the MCP server. -/
def mcp {SK PK : Type} (cr : Crates SK PK) (pb : Prost) :
    Transition.System (McpServer SK) (McpAction SK) where
  Init m := (service cr pb).Init m.service ∧ m.sending = []
  step := McpServer.step cr pb

/-! ## Following the calls -/

/-- What the calls have sent. Calls are numbered from 0. -/
structure CallLog where
  /-- The calls made so far. -/
  calls : List ToolCall
  /-- The input channel: each event, and the call that has sent it if one has. -/
  inputs : List (InputEvent × Option ℕ)
  /-- The command channel. -/
  commands : List (AppCommand × Option ℕ)
  /-- The payloads that were sent to the device for a call. -/
  written : List (ℕ × EncryptedData)

/-- The payloads that something in a channel is sent as, if a call has sent it. -/
def packetsOf {α : Type} (payloads : α → List EncryptedData) :
    α × Option ℕ → List (ℕ × EncryptedData)
  | (x, some call) => (payloads x).map (call, ·)
  | (_, none) => []

/-- The payloads that were sent to the device for the call `call`, if there is one. -/
def sentFor (call : Option ℕ) (attempted : List (EncryptedData × Bool)) :
    List (ℕ × EncryptedData) :=
  match call with
  | some call => (attempted.filter Prod.snd).map fun x => (call, x.1)
  | none => []

namespace CallLog

/-- Before the first call. -/
def start {SK : Type} (b : BleTask SK) : CallLog where
  calls := []
  inputs := b.inputs.map (·, none)
  commands := b.commands.map (·, none)
  written := []

/-- A step of the service; `call` has sent what it puts in a channel. -/
def update {SK PK : Type} (cr : Crates SK PK) (pb : Prost) (call : Option ℕ) (h : CallLog)
    (s : Service SK) : ServiceAction SK → CallLog
  | .task (.putInput event) => { h with inputs := h.inputs ++ [(event, call)] }
  | .task (.putCommand cmd) => { h with commands := h.commands ++ [(cmd, call)] }
  | .task (.recvInput envs) =>
    { h with
      inputs := h.inputs.tail
      written := h.written ++
        sentFor (h.inputs.head?.bind Prod.snd) (BleTask.attempts cr pb s.task (.recvInput envs)) }
  | .task (.recvCommand env) =>
    { h with
      commands := h.commands.tail
      written := h.written ++
        sentFor (h.commands.head?.bind Prod.snd)
          (BleTask.attempts cr pb s.task (.recvCommand env)) }
  | .output =>
    match s.pending with
    | .trySend event :: _ =>
      if s.task.HasRoom then { h with inputs := h.inputs ++ [(event, none)] } else h
    | _ => h
  | _ => h

/-- The packets of the calls, in the order of the calls. -/
def expected (calls : List ToolCall) : List (ℕ × EncryptedData) :=
  calls.zipIdx.flatMap fun x => x.1.payloads.map (x.2, ·)

/-- The packets of calls in the input channel. -/
def inputPackets (h : CallLog) : List (ℕ × EncryptedData) :=
  h.inputs.flatMap (packetsOf inputPayloads)

/-- The packets of calls in the command channel. -/
def commandPackets (h : CallLog) : List (ℕ × EncryptedData) :=
  h.commands.flatMap (packetsOf commandPayloads)

/-- The packets that the last call has yet to send. -/
def sendingPackets (h : CallLog) (sending : List ChannelSend) : List (ℕ × EncryptedData) :=
  (sending.flatMap ChannelSend.payloads).map (h.calls.length - 1, ·)

/-- The two channels as lanes that `run` takes from. -/
def lanes (h : CallLog) (sending : List ChannelSend) : Lanes (ℕ × EncryptedData) where
  delivered := h.written
  left := h.inputPackets
  right := h.commandPackets
  pending := h.sendingPackets sending

theorem sendingPackets_cons (h : CallLog) (x : ChannelSend) (rest : List ChannelSend) :
    h.sendingPackets (x :: rest) =
      x.payloads.map (h.calls.length - 1, ·) ++ h.sendingPackets rest := by
  simp [sendingPackets]

/-- The packets of the calls were sent to the device in the order of the calls. -/
def InOrder (h : CallLog) : Prop := (h.written.map Prod.fst).Pairwise (· ≤ ·)

/-- Nothing of an earlier call is in the channel that `x` does not go to. -/
def ClearFor (h : CallLog) : ChannelSend → Prop
  | .command _ => ∀ x ∈ h.inputs, x.2 = none
  | .event _ => ∀ x ∈ h.commands, x.2 = none

instance (h : CallLog) (x : ChannelSend) : Decidable (h.ClearFor x) :=
  match x with
  | .command _ => inferInstanceAs (Decidable (∀ x ∈ h.inputs, x.2 = none))
  | .event _ => inferInstanceAs (Decidable (∀ x ∈ h.commands, x.2 = none))

end CallLog

variable {SK PK : Type} {cr : Crates SK PK} {pb : Prost}

/-- What one step adds. -/
def follow (cr : Crates SK PK) (pb : Prost) (h : CallLog) (m : McpServer SK) :
    McpAction SK → McpServer SK → CallLog
  | .service a, _ => h.update cr pb none m.service a
  | .call c _, _ => { h with calls := h.calls ++ [c] }
  | .send, _ =>
    match m.sending with
    | [] => h
    | x :: _ =>
      if m.service.task.phase = .stopped then h
      else h.update cr pb (some (h.calls.length - 1)) m.service (.task x.action)

/-- The service from the state `m`, with the calls that are made from then on. -/
def withCalls (cr : Crates SK PK) (pb : Prost) (m : McpServer SK) :
    Transition.System (McpServer SK × CallLog) (McpAction SK) :=
  ((mcp cr pb).startingAt m).withHistory (.start m.service.task) (follow cr pb)

/-- The task is in the loop of `run`. -/
def isRunning (b : BleTask SK) : Bool :=
  match b.phase with
  | .running _ => true
  | _ => false

/-- Every send of the step returns `Ok`. -/
def SendsSucceed (cr : Crates SK PK) (pb : Prost) (m : McpServer SK) : McpAction SK → Prop
  | .service (.task a) => (BleTask.attempts cr pb m.service.task a).all Prod.snd = true
  | _ => True

/-- A device is connected and authenticated, and no send fails. -/
def Served (cr : Crates SK PK) (pb : Prost) (m : McpServer SK) (a : McpAction SK) : Prop :=
  isRunning m.service.task = true ∧ m.service.task.iface.appState.isAuthenticated = true ∧
    SendsSucceed cr pb m a

instance (m : McpServer SK) (a : McpAction SK) : Decidable (Served cr pb m a) :=
  match a with
  | .service (.task a) => inferInstanceAs (Decidable (_ ∧ _ ∧
      (BleTask.attempts cr pb m.service.task a).all Prod.snd = true))
  | .service (.handleEvent ..) | .service .output | .call .. | .send =>
    inferInstanceAs (Decidable (_ ∧ _ ∧ True))

/-- The condition on a step: a call finds nothing of an earlier call in the channel it does not
use. -/
def CallsApart (h : CallLog) : McpAction SK → Prop
  | .call c clock => ∀ x ∈ c.sends clock, h.ClearFor x
  | _ => True

instance (h : CallLog) (a : McpAction SK) : Decidable (CallsApart h a) :=
  match a with
  | .call c clock => inferInstanceAs (Decidable (∀ x ∈ c.sends clock, h.ClearFor x))
  | .service _ | .send => inferInstanceAs (Decidable True)

/-! ## The steps -/

/-- The steps from `m`, and the state after each. -/
inductive Moves (cr : Crates SK PK) (pb : Prost) (m : McpServer SK) :
    McpAction SK → McpServer SK → Prop
  | service {a : ServiceAction SK} {service : Service SK}
      (hstep : Service.step cr pb m.service a = some service) :
      Moves cr pb m (.service a) { m with service }
  | call {c : ToolCall} {clock : Clock} (hidle : m.sending = []) :
      Moves cr pb m (.call c clock) { m with sending := c.sends clock }
  | send {x : ChannelSend} {rest : List ChannelSend} {service : Service SK}
      (hsending : m.sending = x :: rest) (hopen : m.service.task.phase ≠ .stopped)
      (hstep : Service.step cr pb m.service (.task x.action) = some service) :
      Moves cr pb m .send ⟨service, rest⟩
  | refused {x : ChannelSend} {rest : List ChannelSend} (hsending : m.sending = x :: rest)
      (hstopped : m.service.task.phase = .stopped) :
      Moves cr pb m .send { m with sending := [] }

theorem moves_of_step {m n : McpServer SK} {a : McpAction SK}
    (h : McpServer.step cr pb m a = some n) : Moves cr pb m a n := by
  cases a with
  | service a =>
    obtain ⟨service, hstep, rfl⟩ := Option.map_eq_some_iff.mp h
    exact .service hstep
  | call c clock =>
    cases hsending : m.sending with
    | nil =>
      simp only [McpServer.step, hsending, Option.some.injEq] at h
      exact h ▸ .call hsending
    | cons x rest => simp [McpServer.step, hsending] at h
  | send =>
    cases hsending : m.sending with
    | nil => simp [McpServer.step, hsending] at h
    | cons x rest =>
      simp only [McpServer.step, hsending] at h
      split_ifs at h with hstopped
      · cases h
        exact .refused hsending hstopped
      · obtain ⟨service, hstep, rfl⟩ := Option.map_eq_some_iff.mp h
        exact .send hsending hstopped hstep

/-- Every run is a run of the service. -/
theorem service_of_mcp {m : McpServer SK} (h : (mcp cr pb).Reachable m) :
    (service cr pb).Reachable m.service := by
  refine h.invariant (I := fun m => (service cr pb).Reachable m.service) (fun _ hinit =>
    .init hinit.1) fun m a n hs hst => ?_
  cases moves_of_step hst with
  | service hstep => exact hs.step hstep
  | send _ _ hstep => exact hs.step (a := .task _) hstep
  | call | refused => exact hs

/-! ## The order -/

/-- What was sent for something taken from a channel is what it is sent as. -/
theorem sentFor_attempts {α : Type} {payloads : α → List EncryptedData} (x : α × Option ℕ)
    {i : BleInterface SK} {envs : ℕ → SendEnv}
    (h : (i.attempts cr pb (payloads x.1) envs).all Prod.snd = true) :
    sentFor x.2 (i.attempts cr pb (payloads x.1) envs) = packetsOf payloads x := by
  obtain ⟨x, _ | call⟩ := x
  · rfl
  · rw [BleInterface.attempts_of_all h]
    simp [sentFor, packetsOf, List.filter_eq_self.mpr]

/-- What no call has sent is sent as nothing. -/
theorem flatMap_packetsOf_eq_nil {α : Type} {payloads : α → List EncryptedData}
    {items : List (α × Option ℕ)} (h : ∀ x ∈ items, x.2 = none) :
    items.flatMap (packetsOf payloads) = [] := by
  rw [List.flatMap_eq_nil_iff]
  rintro ⟨x, call⟩ hx
  rw [show call = none from h _ hx]
  rfl

/-- What holds while the calls are kept apart: their packets are in order, and what the tool has yet
to send goes to one channel. -/
structure Ordered (m : McpServer SK) (h : CallLog) : Prop where
  inputs : m.service.task.inputs = h.inputs.map Prod.fst
  commands : m.service.task.commands = h.commands.map Prod.fst
  lanes : ∃ events, (h.lanes m.sending).Ordered events (CallLog.expected h.calls) ∧
    ∀ x ∈ m.sending, x.isEvent = events

theorem ordered_start {m : McpServer SK} (hidle : m.sending = []) :
    Ordered m (.start m.service.task) where
  inputs := by simp [CallLog.start, Function.comp_def]
  commands := by simp [CallLog.start, Function.comp_def]
  lanes := by
    have hinputs : (CallLog.start m.service.task).inputPackets = [] :=
      flatMap_packetsOf_eq_nil (by simp [CallLog.start])
    have hcommands : (CallLog.start m.service.task).commandPackets = [] :=
      flatMap_packetsOf_eq_nil (by simp [CallLog.start])
    rw [hidle, CallLog.lanes, hinputs, hcommands]
    exact ⟨true, ⟨rfl, rfl⟩, List.forall_mem_nil _⟩

section Service

variable {m : McpServer SK} {h : CallLog} {service : Service SK}

/-- Another producer puts an event in the input channel. -/
theorem Ordered.putInput (hs : Ordered m h) {event : InputEvent}
    (hinputs : service.task.inputs = m.service.task.inputs ++ [event])
    (hcommands : service.task.commands = m.service.task.commands) :
    Ordered { m with service } { h with inputs := h.inputs ++ [(event, none)] } where
  inputs := by simp [hinputs, hs.inputs]
  commands := hcommands.trans hs.commands
  lanes := by
    have hsame : CallLog.inputPackets { h with inputs := h.inputs ++ [(event, none)] } =
        h.inputPackets := by simp [CallLog.inputPackets, packetsOf]
    rw [CallLog.lanes, hsame]
    exact hs.lanes

/-- Another producer puts a command in the command channel. -/
theorem Ordered.putCommand (hs : Ordered m h) {cmd : AppCommand}
    (hinputs : service.task.inputs = m.service.task.inputs)
    (hcommands : service.task.commands = m.service.task.commands ++ [cmd]) :
    Ordered { m with service } { h with commands := h.commands ++ [(cmd, none)] } where
  inputs := hinputs.trans hs.inputs
  commands := by simp [hcommands, hs.commands]
  lanes := by
    have hsame : CallLog.commandPackets { h with commands := h.commands ++ [(cmd, none)] } =
        h.commandPackets := by simp [CallLog.commandPackets, packetsOf]
    rw [CallLog.lanes, hsame]
    exact hs.lanes

/-- `run` takes an event and sends its packets. -/
theorem Ordered.takeInput (hs : Ordered m h) {x : InputEvent × Option ℕ}
    {rest : List (InputEvent × Option ℕ)} (hhead : h.inputs = x :: rest)
    (hinputs : service.task.inputs = rest.map Prod.fst)
    (hcommands : service.task.commands = m.service.task.commands) :
    Ordered { m with service }
      { h with inputs := rest, written := h.written ++ packetsOf inputPayloads x } where
  inputs := hinputs
  commands := hcommands.trans hs.commands
  lanes := by
    obtain ⟨events, hordered, hsends⟩ := hs.lanes
    rw [CallLog.lanes, CallLog.inputPackets, hhead, List.flatMap_cons] at hordered
    exact ⟨events, hordered.takeLeft, hsends⟩

/-- `run` takes a command and sends its packets. -/
theorem Ordered.takeCommand (hs : Ordered m h) {x : AppCommand × Option ℕ}
    {rest : List (AppCommand × Option ℕ)} (hhead : h.commands = x :: rest)
    (hinputs : service.task.inputs = m.service.task.inputs)
    (hcommands : service.task.commands = rest.map Prod.fst) :
    Ordered { m with service }
      { h with commands := rest, written := h.written ++ packetsOf commandPayloads x } where
  inputs := hinputs.trans hs.inputs
  commands := hcommands
  lanes := by
    obtain ⟨events, hordered, hsends⟩ := hs.lanes
    rw [CallLog.lanes, CallLog.commandPackets, hhead, List.flatMap_cons] at hordered
    exact ⟨events, hordered.takeRight, hsends⟩

/-- The channels are as they were. -/
theorem Ordered.keeps (hs : Ordered m h)
    (hinputs : service.task.inputs = m.service.task.inputs)
    (hcommands : service.task.commands = m.service.task.commands) :
    Ordered { m with service } h :=
  ⟨hinputs.trans hs.inputs, hcommands.trans hs.commands, hs.lanes⟩

/-- A step of the service. -/
theorem ordered_service (hs : Ordered m h) {a : ServiceAction SK}
    (hserved : Served cr pb m (.service a)) (hm : Service.Moves cr pb m.service a service) :
    Ordered { m with service } (h.update cr pb none m.service a) := by
  obtain ⟨hrunning, -, hall⟩ := hserved
  -- only what is put in a channel or taken from one changes the lanes
  cases hm with
  | handleEvent => exact hs.keeps rfl rfl
  | updateState hpending =>
    simp only [CallLog.update, hpending]
    exact hs.keeps rfl rfl
  | @trySend event pending hpending =>
    simp only [CallLog.update, hpending]
    split_ifs with hroom
    · have hsent : m.service.task.trySend event =
          { m.service.task with inputs := m.service.task.inputs ++ [event] } := if_pos hroom
      exact hs.putInput (by rw [hsent]) (by rw [hsent])
    · have hdropped : m.service.task.trySend event = m.service.task := if_neg hroom
      exact hs.keeps (by rw [hdropped]) (by rw [hdropped])
  | task hm =>
    cases hm with
    | putInput => exact hs.putInput rfl rfl
    | putCommand => exact hs.putCommand rfl rfl
    | notify | notifyLost | endStream => exact hs.keeps rfl rfl
    | recvNotification => exact hs.keeps (BleTask.after_inputs ..) (BleTask.after_commands ..)
    | @command env deviceId cmd rest hphase hcmd =>
      obtain ⟨x, items, hhead, rfl, rfl⟩ := List.map_eq_cons_iff.mp (hs.commands.symm.trans hcmd)
      have hattempts : BleTask.attempts cr pb m.service.task (.recvCommand env) =
          m.service.task.iface.attempts cr pb (commandPayloads x.1) fun _ => env.send := by
        simp only [BleTask.attempts, hphase, hcmd]
      simp only [SendsSucceed, hattempts] at hall
      simp only [CallLog.update, hattempts, hhead, List.head?_cons, List.tail_cons,
        Option.bind_some, sentFor_attempts x hall]
      exact hs.takeCommand hhead (BleTask.after_inputs ..) (BleTask.after_commands ..)
    | @recvInput envs deviceId event rest hphase hevent =>
      obtain ⟨x, items, hhead, rfl, rfl⟩ := List.map_eq_cons_iff.mp (hs.inputs.symm.trans hevent)
      have hattempts : BleTask.attempts cr pb m.service.task (.recvInput envs) =
          m.service.task.iface.attempts cr pb (inputPayloads x.1) envs := by
        simp only [BleTask.attempts, hphase, hevent]
      simp only [SendsSucceed, hattempts] at hall
      simp only [CallLog.update, hattempts, hhead, List.head?_cons, List.tail_cons,
        Option.bind_some, sentFor_attempts x hall]
      exact hs.takeInput hhead (BleTask.after_inputs ..) (BleTask.after_commands ..)
    -- the task is in the loop of `run`
    | idleCommand hphase | greet hphase | publish hphase | publishNone hphase | subscribe hphase
    | subscribeFails hphase | openStream hphase | openStreamFails hphase =>
      simp [isRunning, hphase] at hrunning

/-- The tool sends an event. -/
theorem Ordered.sendEvent (hs : Ordered m h) {event : InputEvent} {rest : List ChannelSend}
    (hsending : m.sending = .event event :: rest)
    (hinputs : service.task.inputs = m.service.task.inputs ++ [event])
    (hcommands : service.task.commands = m.service.task.commands) :
    Ordered ⟨service, rest⟩
      { h with inputs := h.inputs ++ [(event, some (h.calls.length - 1))] } where
  inputs := by simp [hinputs, hs.inputs]
  commands := hcommands.trans hs.commands
  lanes := by
    obtain ⟨events, hordered, hsends⟩ := hs.lanes
    rw [hsending] at hordered hsends
    -- an event is next, so that the command channel has nothing of a call
    obtain ⟨rfl, hrest⟩ := List.forall_mem_cons.mp hsends
    have hadded : CallLog.inputPackets
        { h with inputs := h.inputs ++ [(event, some (h.calls.length - 1))] } =
          h.inputPackets ++ (inputPayloads event).map (h.calls.length - 1, ·) := by
      simp [CallLog.inputPackets, packetsOf]
    rw [CallLog.lanes, CallLog.sendingPackets_cons] at hordered
    rw [CallLog.lanes, hadded]
    exact ⟨true, hordered.putLeft, hrest⟩

/-- The tool sends a command. -/
theorem Ordered.sendCommand (hs : Ordered m h) {cmd : AppCommand} {rest : List ChannelSend}
    (hsending : m.sending = .command cmd :: rest)
    (hinputs : service.task.inputs = m.service.task.inputs)
    (hcommands : service.task.commands = m.service.task.commands ++ [cmd]) :
    Ordered ⟨service, rest⟩
      { h with commands := h.commands ++ [(cmd, some (h.calls.length - 1))] } where
  inputs := hinputs.trans hs.inputs
  commands := by simp [hcommands, hs.commands]
  lanes := by
    obtain ⟨events, hordered, hsends⟩ := hs.lanes
    rw [hsending] at hordered hsends
    -- a command is next, so that the input channel has nothing of a call
    obtain ⟨rfl, hrest⟩ := List.forall_mem_cons.mp hsends
    have hadded : CallLog.commandPackets
        { h with commands := h.commands ++ [(cmd, some (h.calls.length - 1))] } =
          h.commandPackets ++ (commandPayloads cmd).map (h.calls.length - 1, ·) := by
      simp [CallLog.commandPackets, packetsOf]
    rw [CallLog.lanes, CallLog.sendingPackets_cons] at hordered
    rw [CallLog.lanes, hadded]
    exact ⟨false, hordered.putRight, hrest⟩

/-- The tool sends. -/
theorem ordered_send (hs : Ordered m h) {x : ChannelSend} {rest : List ChannelSend}
    (hsending : m.sending = x :: rest)
    (hm : Service.Moves cr pb m.service (.task x.action) service) :
    Ordered ⟨service, rest⟩
      (h.update cr pb (some (h.calls.length - 1)) m.service (.task x.action)) := by
  cases x with
  | event event =>
    rw [ChannelSend.action] at hm ⊢
    cases hm with
    | task hm => cases hm with
      | putInput => exact hs.sendEvent hsending rfl rfl
  | command cmd =>
    rw [ChannelSend.action] at hm ⊢
    cases hm with
    | task hm => cases hm with
      | putCommand => exact hs.sendCommand hsending rfl rfl

end Service

/-- The packets of one more call. -/
theorem expected_concat (calls : List ToolCall) (c : ToolCall) :
    CallLog.expected (calls ++ [c]) =
      CallLog.expected calls ++ c.payloads.map (calls.length, ·) := by
  simp [CallLog.expected, List.zipIdx_append]

/-- The channel that a call does not use is clear. -/
theorem other_eq_nil {h : CallLog} {x : ChannelSend} (hclear : h.ClearFor x)
    (sending : List ChannelSend) : (h.lanes sending).other x.isEvent = [] := by
  cases x with
  | event event => exact flatMap_packetsOf_eq_nil hclear
  | command cmd => exact flatMap_packetsOf_eq_nil hclear

/-- A call is made that finds the other channel clear. -/
theorem ordered_call {m : McpServer SK} {h : CallLog} (hs : Ordered m h) (hidle : m.sending = [])
    {c : ToolCall} {clock : Clock} (hapart : ∀ x ∈ c.sends clock, h.ClearFor x) :
    Ordered { m with sending := c.sends clock } { h with calls := h.calls ++ [c] } where
  inputs := hs.inputs
  commands := hs.commands
  lanes := by
    obtain ⟨events, hordered, -⟩ := hs.lanes
    have hsent : CallLog.sendingPackets { h with calls := h.calls ++ [c] } (c.sends clock) =
        c.payloads.map (h.calls.length, ·) := by
      simp [CallLog.sendingPackets, c.payloads_sends clock]
    rw [hidle, CallLog.lanes, show h.sendingPackets [] = [] from rfl] at hordered
    rw [CallLog.lanes, hsent, expected_concat]
    -- the channel the call uses, or the one in use before if it sends nothing
    obtain ⟨events', hsends, hempty⟩ : ∃ events', (∀ x ∈ c.sends clock, x.isEvent = events') ∧
        (h.lanes (c.sends clock)).other events' = [] := by
      obtain ⟨used, hused⟩ := c.sends_oneChannel clock
      cases hsends : c.sends clock with
      | nil => exact ⟨events, List.forall_mem_nil _, hordered.empty⟩
      | cons x rest =>
        rw [hsends] at hused hapart
        have hx := (List.forall_mem_cons.mp hused).1
        exact ⟨used, hused, hx ▸ other_eq_nil (List.forall_mem_cons.mp hapart).1 _⟩
    exact ⟨events', hordered.issue hempty, hsends⟩

/-! ## What is written -/

/-- Since `before` was written, each of the packets was written as a value of its own, in order. -/
def OnDevice (cr : Crates SK PK) (pb : Prost) (before after : List Bytes)
    (packets : List (ℕ × EncryptedData)) : Prop :=
  ∃ since values, after = before ++ since ∧ values.Sublist since ∧
    List.Forall₂ (fun packet value => ∃ key, IsDataPacket cr pb key packet.2 value) packets values

theorem OnDevice.of_writesSent {before : List Bytes} {i j : BleInterface SK}
    {packets : List (ℕ × EncryptedData)} {attempted : List (EncryptedData × Bool)}
    (h : OnDevice cr pb before i.ble.written packets)
    (hsent : BleTask.WritesSent cr pb i j attempted) (call : Option ℕ) :
    OnDevice cr pb before j.ble.written (packets ++ sentFor call attempted) := by
  obtain ⟨since, values, hwritten, hsublist, hvalues⟩ := h
  obtain ⟨added, last, hadded, -, hpayloads⟩ := hsent
  have hafter : j.ble.written = before ++ (since ++ (added ++ last)) := by
    rw [hadded, hwritten, List.append_assoc]
  cases call with
  -- sent for no call: the new values are passed over
  | none =>
    refine ⟨_, values, hafter, hsublist.trans (List.sublist_append_left ..), ?_⟩
    simpa only [sentFor, List.append_nil] using hvalues
  | some call =>
    refine ⟨_, values ++ added, hafter,
      hsublist.append (List.sublist_append_left ..), List.rel_append hvalues ?_⟩
    rw [sentFor, List.forall₂_map_left_iff]
    rw [List.forall₂_map_left_iff] at hpayloads
    exact hpayloads.imp fun _ _ ⟨key, _, hvalue⟩ => ⟨key, hvalue⟩

/-- A step of the service writes what the log says. -/
theorem onDevice_service (hcr : cr.Lawful) {before : List Bytes} {h : CallLog} {s t : Service SK}
    {a : ServiceAction SK} (hdevice : OnDevice cr pb before s.task.iface.ble.written h.written)
    (hwf : Service.WellFormed s) (hm : Service.Moves cr pb s a t) (call : Option ℕ) :
    OnDevice cr pb before t.task.iface.ble.written (h.update cr pb call s a).written := by
  cases hm with
  | handleEvent => exact hdevice
  | updateState hpending =>
    simp only [CallLog.update, hpending]
    exact hdevice
  | @trySend event pending hpending =>
    have hsame : (h.update cr pb call s .output).written = h.written := by
      simp only [CallLog.update, hpending]
      split_ifs <;> rfl
    rw [hsame, BleTask.trySend_iface]
    exact hdevice
  | @task a task hm =>
    have hsent := hdevice.of_writesSent (BleTask.writesSent_step hcr hwf.task hm)
    have hnone := hsent none
    -- only the two receiving steps add to the log
    cases a with
    | recvInput envs | recvCommand env => exact hsent _
    | _ =>
      rw [sentFor, List.append_nil] at hnone
      exact hnone

/-! ## Runs -/

/-- The packets of the calls are in the order of the calls. -/
theorem expected_pairwise (calls : List ToolCall) :
    ((CallLog.expected calls).map Prod.fst).Pairwise (· ≤ ·) := by
  induction calls using List.reverseRecOn with
  | nil => exact .nil
  | append_singleton calls c ih =>
    -- the packets of the earlier calls have smaller numbers
    have hbound : ∀ k ∈ (CallLog.expected calls).map Prod.fst, k < calls.length := by
      intro k hk
      obtain ⟨packet, hpacket, rfl⟩ := List.mem_map.mp hk
      obtain ⟨x, hx, hpacket⟩ := List.mem_flatMap.mp hpacket
      obtain ⟨payload, -, rfl⟩ := List.mem_map.mp hpacket
      exact List.snd_lt_of_mem_zipIdx hx
    rw [expected_concat, List.map_append, List.pairwise_append]
    refine ⟨ih, ?_, fun k hk l hl => ?_⟩
    · rw [List.map_map]
      exact List.pairwise_map.mpr (List.pairwise_of_forall fun _ _ => le_rfl)
    · obtain ⟨packet, hpacket, rfl⟩ := List.mem_map.mp hl
      obtain ⟨payload, -, rfl⟩ := List.mem_map.mp hpacket
      exact (hbound k hk).le

/-- What holds in every state reached. -/
theorem ordered_of_reachable (hcr : cr.Lawful) {m : McpServer SK} (hm : (mcp cr pb).Reachable m)
    (hidle : m.sending = []) {p : McpServer SK × CallLog}
    (h : (withCalls cr pb m).ReachableVia
      (fun p a => Served cr pb p.1 a ∧ CallsApart p.2 a) p) :
    Ordered p.1 p.2 ∧ OnDevice cr pb m.service.task.iface.ble.written
      p.1.service.task.iface.ble.written p.2.written := by
  refine (h.invariant_withHistory (I := fun n log => Service.WellFormed n.service ∧
    Ordered n log ∧ OnDevice cr pb m.service.task.iface.ble.written
      n.service.task.iface.ble.written log.written) ?_ fun n log a t hs hcond hst => ?_).2
  · rintro _ rfl
    exact ⟨Service.wellFormed_of_reachable hcr (service_of_mcp hm), ordered_start hidle,
      [], [], (List.append_nil _).symm, .slnil, .nil⟩
  obtain ⟨hwf, hs, hdevice⟩ := hs
  obtain ⟨hserved, hapart⟩ := hcond
  have hmove : Moves cr pb n a t := moves_of_step hst
  cases hmove with
  | service hstep =>
    have hmove := Service.moves_of_step hstep
    exact ⟨Service.wellFormed_step hcr hwf hmove, ordered_service hs hserved hmove,
      onDevice_service hcr hdevice hwf hmove none⟩
  | call hsending => exact ⟨hwf, ordered_call hs hsending hapart, hdevice⟩
  | send hsending hopen hstep =>
    have hmove := Service.moves_of_step hstep
    simp only [follow, hsending, if_neg hopen]
    exact ⟨Service.wellFormed_step hcr hwf hmove, ordered_send hs hsending hmove,
      onDevice_service hcr hdevice hwf hmove _⟩
  -- a task that runs has not dropped its receivers
  | refused hsending hstopped =>
    have hrunning := hserved.1
    simp [isRunning, hstopped] at hrunning

/-- From any state in which no call is running, over every sequence of calls, each made after the
previous reply, and every interleaving in which a device is connected and authenticated, no send
fails and a call finds nothing of an earlier call in the channel it does not use: the packets of the
calls are written to the device in the order of the calls, and as far as they are written none is
left out or repeated. -/
theorem calls_in_order (hcr : cr.Lawful) {m : McpServer SK} (hm : (mcp cr pb).Reachable m)
    (hidle : m.sending = []) {p : McpServer SK × CallLog}
    (h : (withCalls cr pb m).ReachableVia
      (fun p a => Served cr pb p.1 a ∧ CallsApart p.2 a) p) :
    p.2.InOrder ∧ p.2.written <+: CallLog.expected p.2.calls ∧
      OnDevice cr pb m.service.task.iface.ble.written p.1.service.task.iface.ble.written
        p.2.written := by
  obtain ⟨hordered, hdevice⟩ := ordered_of_reachable hcr hm hidle h
  obtain ⟨events, hlanes, -⟩ := hordered.lanes
  have hwritten : p.2.written <+: CallLog.expected p.2.calls := hlanes.isPrefix_issued
  refine ⟨?_, hwritten, hdevice⟩
  exact (expected_pairwise p.2.calls).sublist (hwritten.sublist.map Prod.fst)

/-- A device is connected, paired and challenged. -/
def pairedRun : List (McpAction UInt8) :=
  (Sample.connectRun ++ Sample.pairRun 3 5 ++ Sample.challengeRun [9]).map fun a =>
    .service (.task a)

/-- The server in its initial state. -/
def startServer : McpServer UInt8 := ⟨Sample.startService, []⟩

/-- Calls from the state the run above ends in: the numbers of the calls of the packets that were
written. -/
def callsRun (cond : McpServer UInt8 × CallLog → McpAction UInt8 → Prop)
    [∀ p a, Decidable (cond p a)] (run : List (McpAction UInt8)) : Option (List ℕ) := do
  let m ← (mcp sampleCrates Sample.prost).replay (fun _ _ => True) startServer pairedRun
  guard (m.sending.isEmpty = true)
  let p ← (withCalls sampleCrates Sample.prost m).replay cond (m, .start m.service.task) run
  return p.2.written.map Prod.fst

theorem exists_calls {cond : McpServer UInt8 × CallLog → McpAction UInt8 → Prop}
    [∀ p a, Decidable (cond p a)] {run : List (McpAction UInt8)} {numbers : List ℕ}
    (hrun : callsRun cond run = some numbers) :
    ∃ m p, (mcp sampleCrates Sample.prost).Reachable m ∧ m.sending = [] ∧
      (withCalls sampleCrates Sample.prost m).ReachableVia cond p ∧
      p.2.written.map Prod.fst = numbers := by
  simp only [callsRun, bind, pure, Option.bind_eq_some_iff, Option.guard_eq_some',
    Option.some.injEq] at hrun
  obtain ⟨m, hm, -, hidle, p, hp, hnumbers⟩ := hrun
  have hinit : (withCalls sampleCrates Sample.prost m).ReachableVia cond
      (m, .start m.service.task) := .init ⟨rfl, rfl⟩
  have hstart : (mcp sampleCrates Sample.prost).Init startServer := ⟨⟨_, 0, rfl⟩, rfl⟩
  exact ⟨m, p, .of_replay _ (.init hstart) hm, List.isEmpty_iff.mp hidle, hinit.of_replay _ hp,
    hnumbers⟩

/-- A call is made and puts one thing in its channel. -/
def callRun (c : ToolCall) : List (McpAction UInt8) := [.call c ⟨0, 0⟩, .send]

/-- `run` takes an event. -/
def takeInput : McpAction UInt8 := .service (.task (.recvInput Sample.sendEnvs))

/-- `run` takes a command. -/
def takeCommand : McpAction UInt8 := .service (.task (.recvCommand (Sample.commandEnv 5)))

/-- A text is typed and then a key is pressed, each taken before the next call. -/
theorem calls_in_order_sample :
    ∃ p : McpServer UInt8 × CallLog, p.2.written.map Prod.fst = [0, 1] ∧ p.2.InOrder := by
  have hrun : callsRun (fun p a => Served sampleCrates Sample.prost p.1 a ∧ CallsApart p.2 a)
      (callRun (.typeText "a") ++ [takeCommand] ++ callRun (.pressKey "enter") ++ [takeInput]) =
        some [0, 1] := by decide +kernel
  obtain ⟨m, p, hm, hidle, hp, hnumbers⟩ := exists_calls hrun
  exact ⟨p, hnumbers, (calls_in_order sampleCrates_lawful hm hidle hp).1⟩

/-- A text is typed and then a key is pressed; `run` takes the key first. -/
theorem pressed_before_typed :
    ¬ ∀ m, (mcp sampleCrates Sample.prost).Reachable m → m.sending = [] →
      ∀ p, (withCalls sampleCrates Sample.prost m).ReachableVia
          (fun p a => Served sampleCrates Sample.prost p.1 a) p →
        p.2.InOrder := by
  intro hclaim
  have hrun : callsRun (fun p a => Served sampleCrates Sample.prost p.1 a)
      (callRun (.typeText "a") ++ callRun (.pressKey "enter") ++ [takeInput, takeCommand]) =
        some [1, 0] := by decide +kernel
  obtain ⟨m, p, hm, hidle, hp, hnumbers⟩ := exists_calls hrun
  have horder := hclaim m hm hidle p hp
  rw [CallLog.InOrder, hnumbers] at horder
  revert horder
  decide

end Mcp

end ToothPaste
