import ToothPaste.Ipc.Sample
import ToothPaste.Lib.LineStream
import ToothPaste.Lib.Transition
import ToothPaste.Lib.Watch

/-!
# The link between service and client

One connection: `handle_connection` in the service, `ipc_bridge` in the client, and a stream in each
direction. Both are in their `select!` or do what the branch that was taken awaits; while they are
in it they read. An end that fails is closed, and the other one goes on with what is under way; what
it reads at the end of the stream is left out.

The states that are sent go with the version of the watch channel they were read at. The initial one
is read without marking it as seen, so that it may be sent once more.

* `mirror_faithful`: in every run the states the client receives are published ones, in the order
  of their publication; at rest it has the current one; and the commands that are enqueued come
  first in those that were taken from the client's channel.
-/

namespace ToothPaste

namespace Ipc

/-! ## The two ends -/

/-- Where `handle_connection` is. -/
inductive ConnectionPhase where
  /-- Before the initial snapshot. -/
  | accepted
  /-- In `send_msg`. -/
  | sending
  | selecting
  /-- In `app_command_tx.send`. -/
  | enqueueing (cmd : AppCommand)
  | closed
  deriving DecidableEq

/-- Where `ipc_bridge` is with this connection. -/
inductive BridgePhase where
  | selecting
  /-- In `write_msg`. -/
  | sending
  | closed
  deriving DecidableEq

/-- The link. -/
structure Link where
  /-- The service's watch channel, of which `handle_connection` holds a sender. -/
  appState : Watch AppState
  /-- What the receiver of the connection has seen. -/
  seen : ℕ
  connection : ConnectionPhase
  bridge : BridgePhase
  toClient : LineStream UInt8
  toService : LineStream UInt8
  /-- The client's command channel. -/
  commandQueue : List AppCommand
  /-- The client's watch channel, of which the screens hold receivers. -/
  mirror : Watch AppState
  /-- The service's command channel still has its receiver. -/
  commandsOpen : Bool

/-- The steps. -/
inductive LinkAction where
  /-- Someone publishes a state. -/
  | publish (newState : AppState)
  /-- A screen of the client puts a command in its channel. -/
  | putCommand (cmd : AppCommand)
  /-- The task that takes the commands ends. -/
  | dropReceiver
  | sendInitial
  | sendChanged
  | recvCommand
  | enqueue
  | serviceWrites (n : ℕ)
  | serviceWritten
  | serviceReads (n : ℕ)
  | serviceCloses
  | recvState
  | takeCommand
  | bridgeWrites (n : ℕ)
  | bridgeWritten
  | bridgeReads (n : ℕ)
  | bridgeCloses

variable (codec : IpcCodec)

namespace Link

variable (s : Link)

/-- `send_msg` starts. -/
def sendMsg (message : IpcMessage) : Link :=
  { s with
    connection := .sending
    toClient := s.toClient.write newline (utf8 (codec.toJson message)) }

/-- `write_msg` starts. -/
def writeMsg (message : IpcMessage) : Link :=
  { s with
    bridge := .sending
    toService := s.toService.write newline (utf8 (codec.toJson message)) }

/-- What `handle_connection` does with a line. -/
def handleLine (line : Bytes) : Link :=
  match codec.readLine line with
  | none => { s with connection := .closed }
  | some (.ok (.command cmd)) => { s with connection := .enqueueing cmd }
  | some _ => s

/-- What `ipc_bridge` does with a line. -/
def mirrorLine (line : Bytes) : Link :=
  match codec.readLine line with
  | none => { s with bridge := .closed }
  | some (.ok (.state newState)) => { s with mirror := s.mirror.send newState }
  | some _ => s

/-- One step. -/
def step : LinkAction → Option Link
  | .publish newState => some { s with appState := s.appState.send newState }
  | .putCommand cmd =>
    if s.commandQueue.length < clientCommandCapacity then
      some { s with commandQueue := s.commandQueue ++ [cmd] }
    else none
  | .dropReceiver => some { s with commandsOpen := false }
  | .sendInitial =>
    -- `borrow` does not mark the version as seen
    if s.connection = .accepted then some (s.sendMsg codec (.state s.appState.value)) else none
  | .sendChanged =>
    if s.connection = .selecting ∧ s.appState.HasChanged s.seen then
      some ({ s with seen := s.appState.version }.sendMsg codec (.state s.appState.value))
    else none
  | .recvCommand =>
    if s.connection = .selecting then
      (s.toService.takeLine newline).map fun taken =>
        { s with toService := taken.2 }.handleLine codec taken.1
    else none
  | .enqueue =>
    match s.connection with
    | .enqueueing _ => some { s with connection := .selecting }
    | _ => none
  | .serviceWrites n =>
    if s.connection = .sending then some { s with toClient := s.toClient.push n } else none
  | .serviceWritten =>
    if s.connection = .sending ∧ s.toClient.outgoing = [] then
      some { s with connection := .selecting }
    else none
  | .serviceReads n =>
    if s.connection = .selecting then some { s with toService := s.toService.pull n } else none
  | .serviceCloses => some { s with connection := .closed }
  | .recvState =>
    if s.bridge = .selecting then
      (s.toClient.takeLine newline).map fun taken =>
        { s with toClient := taken.2 }.mirrorLine codec taken.1
    else none
  | .takeCommand =>
    match s.bridge, s.commandQueue with
    | .selecting, cmd :: commands =>
      some ({ s with commandQueue := commands }.writeMsg codec (.command cmd))
    | _, _ => none
  | .bridgeWrites n =>
    if s.bridge = .sending then some { s with toService := s.toService.push n } else none
  | .bridgeWritten =>
    if s.bridge = .sending ∧ s.toService.outgoing = [] then some { s with bridge := .selecting }
    else none
  | .bridgeReads n =>
    if s.bridge = .selecting then some { s with toClient := s.toClient.pull n } else none
  | .bridgeCloses => some { s with bridge := .closed }

variable {codec} {s} {t : Link}

/-- A line changes the phase of `handle_connection` at most. -/
theorem handleLine_cases (line : Bytes) :
    ∃ phase, s.handleLine codec line = { s with connection := phase } := by
  unfold handleLine
  split
  · exact ⟨_, rfl⟩
  · exact ⟨_, rfl⟩
  · exact ⟨s.connection, rfl⟩

variable (codec s) in
/-- The steps from `s`, and the state after each. -/
inductive Moves : LinkAction → Link → Prop
  | publish (newState : AppState) :
      Moves (.publish newState) { s with appState := s.appState.send newState }
  | putCommand (cmd : AppCommand) (hroom : s.commandQueue.length < clientCommandCapacity) :
      Moves (.putCommand cmd) { s with commandQueue := s.commandQueue ++ [cmd] }
  | dropReceiver : Moves .dropReceiver { s with commandsOpen := false }
  | sendInitial (hphase : s.connection = .accepted) :
      Moves .sendInitial (s.sendMsg codec (.state s.appState.value))
  | sendChanged (hphase : s.connection = .selecting) (hchanged : s.appState.HasChanged s.seen) :
      Moves .sendChanged
        ({ s with seen := s.appState.version }.sendMsg codec (.state s.appState.value))
  | recvCommand {line : Bytes} {toService : LineStream UInt8} (hphase : s.connection = .selecting)
      (htake : s.toService.takeLine newline = some (line, toService)) :
      Moves .recvCommand ({ s with toService }.handleLine codec line)
  | enqueue {cmd : AppCommand} (hphase : s.connection = .enqueueing cmd) :
      Moves .enqueue { s with connection := .selecting }
  | serviceWrites (n : ℕ) (hphase : s.connection = .sending) :
      Moves (.serviceWrites n) { s with toClient := s.toClient.push n }
  | serviceWritten (hphase : s.connection = .sending) (hout : s.toClient.outgoing = []) :
      Moves .serviceWritten { s with connection := .selecting }
  | serviceReads (n : ℕ) (hphase : s.connection = .selecting) :
      Moves (.serviceReads n) { s with toService := s.toService.pull n }
  | serviceCloses : Moves .serviceCloses { s with connection := .closed }
  | recvState {line : Bytes} {toClient : LineStream UInt8} (hphase : s.bridge = .selecting)
      (htake : s.toClient.takeLine newline = some (line, toClient)) :
      Moves .recvState ({ s with toClient }.mirrorLine codec line)
  | takeCommand {cmd : AppCommand} {commands : List AppCommand} (hphase : s.bridge = .selecting)
      (hqueue : s.commandQueue = cmd :: commands) :
      Moves .takeCommand ({ s with commandQueue := commands }.writeMsg codec (.command cmd))
  | bridgeWrites (n : ℕ) (hphase : s.bridge = .sending) :
      Moves (.bridgeWrites n) { s with toService := s.toService.push n }
  | bridgeWritten (hphase : s.bridge = .sending) (hout : s.toService.outgoing = []) :
      Moves .bridgeWritten { s with bridge := .selecting }
  | bridgeReads (n : ℕ) (hphase : s.bridge = .selecting) :
      Moves (.bridgeReads n) { s with toClient := s.toClient.pull n }
  | bridgeCloses : Moves .bridgeCloses { s with bridge := .closed }

theorem moves_of_step {a : LinkAction} (h : s.step codec a = some t) : Moves codec s a t := by
  cases a with
  | publish newState => exact Option.some.inj h ▸ .publish newState
  | dropReceiver => exact Option.some.inj h ▸ .dropReceiver
  | serviceCloses => exact Option.some.inj h ▸ .serviceCloses
  | bridgeCloses => exact Option.some.inj h ▸ .bridgeCloses
  | putCommand cmd =>
    rw [step] at h
    split_ifs at h with hroom
    exact Option.some.inj h ▸ .putCommand cmd hroom
  | sendInitial =>
    rw [step] at h
    split_ifs at h with hphase
    exact Option.some.inj h ▸ .sendInitial hphase
  | sendChanged =>
    rw [step] at h
    split_ifs at h with hphase
    exact Option.some.inj h ▸ .sendChanged hphase.1 hphase.2
  | recvCommand =>
    rw [step] at h
    split_ifs at h with hphase
    obtain ⟨⟨line, toService⟩, htake, rfl⟩ := Option.map_eq_some_iff.mp h
    exact .recvCommand hphase htake
  | enqueue =>
    rw [step] at h
    split at h
    case h_1 cmd hphase => exact Option.some.inj h ▸ .enqueue hphase
    case h_2 => cases h
  | serviceWrites n =>
    rw [step] at h
    split_ifs at h with hphase
    exact Option.some.inj h ▸ .serviceWrites n hphase
  | serviceWritten =>
    rw [step] at h
    split_ifs at h with hphase
    exact Option.some.inj h ▸ .serviceWritten hphase.1 hphase.2
  | serviceReads n =>
    rw [step] at h
    split_ifs at h with hphase
    exact Option.some.inj h ▸ .serviceReads n hphase
  | recvState =>
    rw [step] at h
    split_ifs at h with hphase
    obtain ⟨⟨line, toClient⟩, htake, rfl⟩ := Option.map_eq_some_iff.mp h
    exact .recvState hphase htake
  | takeCommand =>
    rw [step] at h
    split at h
    case h_1 cmd commands hphase hqueue =>
      exact Option.some.inj h ▸ .takeCommand hphase hqueue
    case h_2 => cases h
  | bridgeWrites n =>
    rw [step] at h
    split_ifs at h with hphase
    exact Option.some.inj h ▸ .bridgeWrites n hphase
  | bridgeWritten =>
    rw [step] at h
    split_ifs at h with hphase
    exact Option.some.inj h ▸ .bridgeWritten hphase.1 hphase.2
  | bridgeReads n =>
    rw [step] at h
    split_ifs at h with hphase
    exact Option.some.inj h ▸ .bridgeReads n hphase

end Link

/-- A connection of the service, from its start, with any client. The connection's receiver is a
clone of one that has seen nothing. -/
def link : Transition.System Link LinkAction where
  Init s := ∃ commandQueue mirror commandsOpen,
    s = ⟨⟨AppState.initial, 0⟩, 0, .accepted, .selecting, .empty, .empty, commandQueue, mirror,
      commandsOpen⟩
  step := Link.step codec

/-! ## What went over the link -/

/-- The states published so far, by version, and those the client received; the commands that
`ipc_bridge` took, and those that `handle_connection` enqueued. -/
structure LinkLog where
  published : List AppState
  received : List AppState
  taken : List AppCommand
  enqueued : List AppCommand
  deriving DecidableEq

/-- The command that `handle_connection` holds. -/
def ConnectionPhase.command : ConnectionPhase → Option AppCommand
  | .enqueueing cmd => some cmd
  | _ => none

/-- The state that the client receives in the next line, if it has one. -/
def Link.nextState (s : Link) : Option AppState :=
  match (s.toClient.takeLine newline).bind fun taken => codec.readLine taken.1 with
  | some (.ok (.state newState)) => some newState
  | _ => none

/-- The log after a step. -/
def LinkLog.after (log : LinkLog) (s : Link) : LinkAction → LinkLog
  | .publish newState => { log with published := log.published ++ [newState] }
  | .recvState => { log with received := log.received ++ (s.nextState codec).toList }
  | .takeCommand => { log with taken := log.taken ++ s.commandQueue.head?.toList }
  -- without a receiver the command is dropped
  | .enqueue =>
    { log with
      enqueued := log.enqueued ++ if s.commandsOpen then s.connection.command.toList else [] }
  | _ => log

/-- The link with its log. -/
def withLog : Transition.System (Link × LinkLog) LinkAction :=
  (link codec).withHistory ⟨[AppState.initial], [], [], []⟩ fun log s a _ => log.after codec s a

variable {codec} {s t : Link} {log : LinkLog} {a : LinkAction}

/-! ## From the service to the client -/

/-- The text of a published state. -/
def stateLine (codec : IpcCodec) (x : ℕ × AppState) : Bytes := utf8 (codec.toJson (.state x.2))

/-- The states that were sent, with their versions: those that the client has `got`, and those that
are `pending`. They were published, in this order, and once the initial one is sent the last of
them is at least as new as what the receiver has seen. -/
structure StatesInv (codec : IpcCodec) (s : Link) (log : LinkLog)
    (got pending : List (ℕ × AppState)) : Prop where
  length : log.published.length = s.appState.version + 1
  current : log.published[s.appState.version]? = some s.appState.value
  seen_le : s.seen ≤ s.appState.version
  got_eq : got.map Prod.snd = log.received
  holds : s.toClient.Holds newline (pending.map (stateLine codec))
  published : ∀ x ∈ got ++ pending, log.published[x.1]? = some x.2
  ordered : ((got ++ pending).map Prod.fst).Pairwise (· ≤ ·)
  last : s.connection ≠ .accepted → s.connection ≠ .closed →
    ∃ x ∈ (got ++ pending).getLast?, s.seen ≤ x.1
  idle : s.connection ≠ .sending → s.connection ≠ .closed → s.toClient.outgoing = []
  mirrored : ∀ x ∈ got.getLast?, s.mirror.value = x.2

namespace StatesInv

variable {got pending : List (ℕ × AppState)}

/-- A state is published. -/
theorem publish (h : StatesInv codec s log got pending) (newState : AppState) :
    StatesInv codec { s with appState := s.appState.send newState }
      { log with published := log.published ++ [newState] } got pending :=
  { h with
    length := by
      rw [List.length_append, h.length]
      rfl
    current := by
      rw [List.getElem?_append_right (by rw [h.length]; rfl), h.length]
      simp [Watch.send]
    seen_le := h.seen_le.trans (Nat.le_succ _)
    published := fun x hx => by
      obtain ⟨hlt, -⟩ := List.getElem?_eq_some_iff.mp (h.published x hx)
      rw [List.getElem?_append_left hlt]
      exact h.published x hx }

/-- A sent state is no newer than the current one. -/
theorem le_version (h : StatesInv codec s log got pending) {x : ℕ × AppState}
    (hx : x ∈ got ++ pending) : x.1 ≤ s.appState.version := by
  obtain ⟨hlt, -⟩ := List.getElem?_eq_some_iff.mp (h.published x hx)
  rw [h.length] at hlt
  exact Nat.lt_succ_iff.mp hlt

/-- The current state is sent, whether its version is marked as seen or not. -/
theorem sendMsg (hcodec : codec.Lawful) (h : StatesInv codec s log got pending)
    (hsending : s.connection ≠ .sending) (hclosed : s.connection ≠ .closed) {seen : ℕ}
    (hseen : seen ≤ s.appState.version) :
    StatesInv codec ({ s with seen }.sendMsg codec (.state s.appState.value)) log got
      (pending ++ [(s.appState.version, s.appState.value)]) where
  length := h.length
  current := h.current
  seen_le := hseen
  got_eq := h.got_eq
  holds := by
    rw [List.map_append]
    exact h.holds.write (h.idle hsending hclosed) (not_mem_utf8_toJson hcodec _ (by decide))
  published x hx := by
    rw [← List.append_assoc] at hx
    rcases List.mem_append.mp hx with hold | hnew
    · exact h.published x hold
    · rw [List.mem_singleton.mp hnew]
      exact h.current
  ordered := by
    rw [← List.append_assoc, List.map_append, List.pairwise_append]
    refine ⟨h.ordered, List.pairwise_singleton _ _, fun v hv w hw => ?_⟩
    obtain ⟨x, hx, rfl⟩ := List.mem_map.mp hv
    rw [List.mem_singleton.mp hw]
    exact h.le_version hx
  last _ _ := by
    refine ⟨(s.appState.version, s.appState.value), ?_, hseen⟩
    rw [← List.append_assoc, List.getLast?_concat]
    rfl
  idle hne := absurd rfl hne
  mirrored := h.mirrored

/-- `handle_connection` goes from its `select!` to a branch that sends nothing. -/
theorem withConnection (h : StatesInv codec s log got pending)
    (hselecting : s.connection = .selecting) (phase : ConnectionPhase) :
    StatesInv codec { s with connection := phase } log got pending :=
  { h with
    last := fun _ _ => h.last (by rw [hselecting]; exact nofun) (by rw [hselecting]; exact nofun)
    idle := fun _ _ => h.idle (by rw [hselecting]; exact nofun) (by rw [hselecting]; exact nofun) }

/-- A line that the client takes is the next state that was sent. -/
theorem recvState (hcodec : codec.Lawful) (h : StatesInv codec s log got pending) {line : Bytes}
    {toClient : LineStream UInt8} (htake : s.toClient.takeLine newline = some (line, toClient)) :
    ∃ x rest, s.nextState codec = some x.2 ∧ pending = x :: rest ∧
      ({ s with toClient }.mirrorLine codec line) =
        { s with toClient, mirror := s.mirror.send x.2 } ∧
      StatesInv codec { s with toClient, mirror := s.mirror.send x.2 }
        { log with received := log.received ++ [x.2] } (got ++ [x]) rest := by
  obtain ⟨lines, hlines, hholds⟩ := h.holds.takeLine htake
  obtain ⟨x, rest, rfl, rfl, rfl⟩ := List.map_eq_cons_iff.mp hlines
  have hread := readLine_utf8 hcodec (.state x.2)
  have hsent : (got ++ [x]) ++ rest = got ++ x :: rest := List.append_assoc ..
  refine ⟨x, rest, ?_, rfl, ?_, ?_⟩
  · rw [Link.nextState, htake]
    simp only [Option.bind_some, stateLine, hread]
  · rw [Link.mirrorLine, stateLine, hread]
  · exact {
      length := h.length
      current := h.current
      seen_le := h.seen_le
      got_eq := by rw [List.map_append, h.got_eq]; rfl
      holds := hholds
      published := hsent ▸ h.published
      ordered := hsent ▸ h.ordered
      last := hsent ▸ h.last
      idle := fun hsending hclosed => by
        rw [← h.idle hsending hclosed]
        exact (LineStream.outgoing_takeLine htake)
      mirrored := fun y hy => by
        rw [List.getLast?_concat] at hy
        rw [← Option.some.inj hy]
        rfl }

end StatesInv

theorem statesInv_init (hinit : (link codec).Init s) :
    StatesInv codec s ⟨[AppState.initial], [], [], []⟩ [] [] := by
  obtain ⟨commandQueue, mirror, commandsOpen, rfl⟩ := hinit
  exact {
    length := rfl
    current := rfl
    seen_le := le_rfl
    got_eq := rfl
    holds := LineStream.holds_empty
    published := fun x hx => absurd hx List.not_mem_nil
    ordered := .nil
    last := fun haccepted => absurd rfl haccepted
    idle := fun _ _ => rfl
    mirrored := fun x hx => absurd hx (Option.not_mem_none x) }

theorem statesInv_step (hcodec : codec.Lawful) {got pending : List (ℕ × AppState)}
    (h : StatesInv codec s log got pending) (hst : s.step codec a = some t) :
    ∃ got' pending', StatesInv codec t (log.after codec s a) got' pending' := by
  cases Link.moves_of_step hst with
  | publish newState => exact ⟨got, pending, h.publish newState⟩
  | putCommand | dropReceiver | serviceReads | takeCommand | bridgeWrites | bridgeWritten
  | bridgeCloses => exact ⟨got, pending, { h with }⟩
  | sendInitial hphase =>
    exact ⟨got, _, h.sendMsg hcodec (by rw [hphase]; exact nofun) (by rw [hphase]; exact nofun)
      h.seen_le⟩
  | sendChanged hphase =>
    exact ⟨got, _, h.sendMsg hcodec (by rw [hphase]; exact nofun) (by rw [hphase]; exact nofun)
      le_rfl⟩
  | @recvCommand line toService hphase =>
    have htaken : StatesInv codec { s with toService } log got pending := { h with }
    refine ⟨got, pending, ?_⟩
    obtain ⟨phase, heq⟩ := Link.handleLine_cases line
    rw [heq]
    exact htaken.withConnection hphase phase
  | enqueue hphase =>
    have hselecting : StatesInv codec { s with connection := .selecting } log got pending :=
      { h with
        last := fun _ _ => h.last (by rw [hphase]; exact nofun) (by rw [hphase]; exact nofun)
        idle := fun _ _ => h.idle (by rw [hphase]; exact nofun) (by rw [hphase]; exact nofun) }
    exact ⟨got, pending, { hselecting with }⟩
  | serviceWrites n hphase =>
    exact ⟨got, pending, { h with
      holds := h.holds.push n
      idle := fun hsending => absurd hphase hsending }⟩
  | serviceWritten hphase hout =>
    exact ⟨got, pending, { h with
      last := fun _ _ => h.last (by rw [hphase]; exact nofun) (by rw [hphase]; exact nofun)
      idle := fun _ _ => hout }⟩
  | serviceCloses =>
    exact ⟨got, pending, { h with
      last := fun _ hclosed => absurd rfl hclosed
      idle := fun _ hclosed => absurd rfl hclosed }⟩
  | recvState hphase htake =>
    obtain ⟨x, rest, hnext, rfl, hmirror, hinv⟩ := h.recvState hcodec htake
    refine ⟨got ++ [x], rest, ?_⟩
    rw [hmirror, LinkLog.after, hnext]
    exact hinv
  | bridgeReads n => exact ⟨got, pending, { h with holds := h.holds.pull n }⟩

/-! ## From the client to the service -/

/-- The text of a command. -/
def commandLine (codec : IpcCodec) (cmd : AppCommand) : Bytes := utf8 (codec.toJson (.command cmd))

/-- The commands that were taken: those that were `handled`, of which those up to a point were
enqueued, the one that is being enqueued, and those that are `pending`. -/
structure CommandsInv (codec : IpcCodec) (s : Link) (log : LinkLog)
    (handled pending : List AppCommand) : Prop where
  taken : handled ++ s.connection.command.toList ++ pending = log.taken
  holds : s.toService.Holds newline (pending.map (commandLine codec))
  enqueued : log.enqueued <+: handled
  all : s.commandsOpen = true → s.connection ≠ .closed → log.enqueued = handled
  idle : s.bridge = .selecting → s.toService.outgoing = []

namespace CommandsInv

variable {handled pending : List AppCommand}

/-- A command is taken from the client's channel. -/
theorem writeMsg (hcodec : codec.Lawful) (h : CommandsInv codec s log handled pending)
    (hselecting : s.bridge = .selecting) (cmd : AppCommand) (commands : List AppCommand) :
    CommandsInv codec ({ s with commandQueue := commands }.writeMsg codec (.command cmd))
      { log with taken := log.taken ++ [cmd] } handled (pending ++ [cmd]) where
  taken := by
    rw [← h.taken, List.append_assoc _ pending]
    rfl
  holds := by
    rw [List.map_append]
    exact h.holds.write (h.idle hselecting) (not_mem_utf8_toJson hcodec _ (by decide))
  enqueued := h.enqueued
  all := h.all
  idle := nofun

/-- A line that the service takes is the next command that was sent. -/
theorem recvCommand (hcodec : codec.Lawful) (h : CommandsInv codec s log handled pending)
    (hselecting : s.connection = .selecting) {line : Bytes} {toService : LineStream UInt8}
    (htake : s.toService.takeLine newline = some (line, toService)) :
    ∃ cmd rest, pending = cmd :: rest ∧
      CommandsInv codec ({ s with toService }.handleLine codec line) log handled rest := by
  obtain ⟨lines, hlines, hholds⟩ := h.holds.takeLine htake
  obtain ⟨cmd, rest, rfl, rfl, rfl⟩ := List.map_eq_cons_iff.mp hlines
  refine ⟨cmd, rest, rfl, ?_⟩
  rw [Link.handleLine, commandLine, readLine_utf8 hcodec]
  have htaken := h.taken
  rw [hselecting] at htaken
  exact {
    taken := by simpa [ConnectionPhase.command] using htaken
    holds := hholds
    enqueued := h.enqueued
    all := fun hopen _ => h.all hopen (by rw [hselecting]; exact nofun)
    idle := fun hbridge => by
      rw [← h.idle hbridge]
      exact LineStream.outgoing_takeLine htake }

/-- The command that is held is enqueued, or dropped with every one after it. -/
theorem enqueue (h : CommandsInv codec s log handled pending) {cmd : AppCommand}
    (hphase : s.connection = .enqueueing cmd) :
    CommandsInv codec { s with connection := .selecting } (log.after codec s .enqueue)
      (handled ++ [cmd]) pending where
  taken := by
    have htaken := h.taken
    rw [hphase] at htaken
    simpa [LinkLog.after, ConnectionPhase.command] using htaken
  holds := h.holds
  enqueued := by
    rw [LinkLog.after, hphase]
    cases hopen : s.commandsOpen with
    | true =>
      rw [h.all hopen (by rw [hphase]; exact nofun)]
      exact List.prefix_refl _
    | false =>
      simpa using h.enqueued.trans (List.prefix_append handled [cmd])
  all hopen _ := by
    have hopen : s.commandsOpen = true := hopen
    rw [LinkLog.after, hphase, if_pos hopen, h.all hopen (by rw [hphase]; exact nofun)]
    rfl
  idle := h.idle

/-- `handle_connection` goes on to a phase in which it holds no command, from one like that. -/
theorem withConnection (h : CommandsInv codec s log handled pending) (phase : ConnectionPhase)
    (hfrom : s.connection.command = none) (hto : phase.command = none)
    (hclosed : s.connection ≠ .closed) :
    CommandsInv codec { s with connection := phase } log handled pending :=
  { h with
    taken := by
      rw [← h.taken, hfrom, hto]
    all := fun hopen _ => h.all hopen hclosed }

/-- A command that is held when the connection is closed is not enqueued any more. -/
theorem close (h : CommandsInv codec s log handled pending) :
    CommandsInv codec { s with connection := .closed } log
      (handled ++ s.connection.command.toList) pending :=
  { h with
    taken := by
      rw [← h.taken]
      simp [ConnectionPhase.command]
    enqueued := h.enqueued.trans (List.prefix_append _ _)
    all := fun _ hclosed => absurd rfl hclosed }

end CommandsInv

theorem commandsInv_init (hinit : (link codec).Init s) :
    CommandsInv codec s ⟨[AppState.initial], [], [], []⟩ [] [] := by
  obtain ⟨commandQueue, mirror, commandsOpen, rfl⟩ := hinit
  exact ⟨rfl, LineStream.holds_empty, List.nil_prefix, fun _ _ => rfl, fun _ => rfl⟩

theorem commandsInv_step (hcodec : codec.Lawful) {handled pending : List AppCommand}
    (h : CommandsInv codec s log handled pending) (hst : s.step codec a = some t) :
    ∃ handled' pending', CommandsInv codec t (log.after codec s a) handled' pending' := by
  cases Link.moves_of_step hst with
  | publish | putCommand | bridgeReads => exact ⟨handled, pending, { h with }⟩
  | dropReceiver => exact ⟨handled, pending, { h with all := nofun }⟩
  | sendInitial hphase | sendChanged hphase =>
    have hnext := h.withConnection .sending (by rw [hphase]; rfl) rfl (by rw [hphase]; exact nofun)
    exact ⟨handled, pending, { hnext with }⟩
  | recvCommand hphase htake =>
    obtain ⟨cmd, rest, rfl, hinv⟩ := h.recvCommand hcodec hphase htake
    exact ⟨handled, rest, hinv⟩
  | enqueue hphase => exact ⟨_, pending, h.enqueue hphase⟩
  | serviceWrites => exact ⟨handled, pending, { h with }⟩
  | serviceWritten hphase =>
    exact ⟨handled, pending, h.withConnection _ (by rw [hphase]; rfl) rfl
      (by rw [hphase]; exact nofun)⟩
  | serviceReads n => exact ⟨handled, pending, { h with holds := h.holds.pull n }⟩
  | serviceCloses => exact ⟨_, pending, h.close⟩
  | recvState =>
    refine ⟨handled, pending, ?_⟩
    unfold Link.mirrorLine
    split
    · exact { h with idle := nofun }
    · exact { h with }
    · exact { h with }
  | @takeCommand cmd commands hphase hqueue =>
    refine ⟨handled, pending ++ [cmd], ?_⟩
    rw [LinkLog.after, hqueue]
    exact h.writeMsg hcodec hphase cmd commands
  | bridgeWrites n hphase =>
    exact ⟨handled, pending, { h with
      holds := h.holds.push n
      idle := fun hselecting => by
        cases hphase.symm.trans hselecting }⟩
  | bridgeWritten hphase hout => exact ⟨handled, pending, { h with idle := fun _ => hout }⟩
  | bridgeCloses => exact ⟨handled, pending, { h with idle := nofun }⟩

/-! ## The mirror -/

/-- Both ends wait in their `select!`: the service has no change that it has not sent, and no state
is under way. -/
structure Link.AtRest (s : Link) : Prop where
  connection : s.connection = .selecting
  bridge : s.bridge = .selecting
  seen : ¬ s.appState.HasChanged s.seen
  pipe : s.toClient.pipe = []
  noLine : s.toClient.takeLine newline = none

instance : Decidable s.AtRest :=
  decidable_of_iff (s.connection = .selecting ∧ s.bridge = .selecting ∧
      ¬ s.appState.HasChanged s.seen ∧ s.toClient.pipe = [] ∧ s.toClient.takeLine newline = none)
    ⟨fun ⟨hconnection, hbridge, hseen, hpipe, hline⟩ => ⟨hconnection, hbridge, hseen, hpipe, hline⟩,
      fun h => ⟨h.connection, h.bridge, h.seen, h.pipe, h.noLine⟩⟩

/-- At rest the client has the state that the service has. -/
theorem StatesInv.mirror_eq {got pending : List (ℕ × AppState)}
    (h : StatesInv codec s log got pending) (hrest : s.AtRest) :
    s.mirror.value = s.appState.value := by
  have hsending : s.connection ≠ .sending := by rw [hrest.connection]; exact nofun
  have haccepted : s.connection ≠ .accepted := by rw [hrest.connection]; exact nofun
  have hclosed : s.connection ≠ .closed := by rw [hrest.connection]; exact nofun
  obtain rfl := List.map_eq_nil_iff.mp
    (h.holds.eq_nil (h.idle hsending hclosed) hrest.pipe hrest.noLine)
  obtain ⟨x, hx, hseen⟩ := h.last haccepted hclosed
  have hle := h.le_version (List.mem_of_getLast? hx)
  have hpublished := h.published x (List.mem_of_getLast? hx)
  -- the last state that was sent is as new as what the receiver has seen, which is the current one
  have hversion : x.1 = s.appState.version :=
    hle.antisymm ((Decidable.not_not.mp hrest.seen).symm.le.trans hseen)
  rw [hversion, h.current] at hpublished
  rw [List.append_nil] at hx
  rw [h.mirrored x hx, Option.some.inj hpublished]

theorem CommandsInv.enqueued_isPrefix {handled pending : List AppCommand}
    (h : CommandsInv codec s log handled pending) : log.enqueued <+: log.taken := by
  rw [← h.taken, List.append_assoc]
  exact h.enqueued.trans (List.prefix_append _ _)

/-- The states that the client receives were published, each at or after the one before it. At rest
the client has the state that the service has. The commands that are enqueued are the first of those
that were taken from the client's channel. -/
theorem mirror_faithful (hcodec : codec.Lawful) {p : Link × LinkLog}
    (h : (withLog codec).Reachable p) :
    (∃ versions : List ℕ, versions.Pairwise (· ≤ ·) ∧
      p.2.received.map some = versions.map (p.2.published[·]?)) ∧
    (p.1.AtRest → p.1.mirror.value = p.1.appState.value) ∧
    p.2.enqueued <+: p.2.taken := by
  have hinv : (∃ got pending, StatesInv codec p.1 p.2 got pending) ∧
      ∃ handled pending, CommandsInv codec p.1 p.2 handled pending := by
    refine h.invariant_withHistory (I := fun s log =>
      (∃ got pending, StatesInv codec s log got pending) ∧
      ∃ handled pending, CommandsInv codec s log handled pending) ?_ ?_
    · exact fun s hinit => ⟨⟨[], [], statesInv_init hinit⟩, [], [], commandsInv_init hinit⟩
    · rintro s log a t ⟨⟨got, pending, hstates⟩, handled, sent, hcommands⟩ - hst
      exact ⟨statesInv_step hcodec hstates hst, commandsInv_step hcodec hcommands hst⟩
  obtain ⟨⟨got, pending, hstates⟩, handled, sent, hcommands⟩ := hinv
  refine ⟨⟨got.map Prod.fst, ?_, ?_⟩, hstates.mirror_eq, hcommands.enqueued_isPrefix⟩
  · have hordered := hstates.ordered
    rw [List.map_append] at hordered
    exact (List.pairwise_append.mp hordered).1
  · rw [← hstates.got_eq, List.map_map, List.map_map]
    exact List.map_congr_left fun x hx =>
      (hstates.published x (List.mem_append_left _ hx)).symm

/-- The initial state is sent, key capture is switched on while it is under way, and a command goes
the other way. -/
def mirrorRun : List LinkAction :=
  [.sendInitial, .serviceWrites 100, .publish Sample.capturing, .serviceWrites 300, .serviceWritten,
    .bridgeReads 400, .recvState, .sendChanged, .putCommand .scanForDevices, .takeCommand,
    .bridgeWrites 50, .bridgeWritten, .serviceWrites 400, .serviceWritten, .bridgeReads 350,
    .bridgeReads 50, .recvState, .serviceReads 50, .recvCommand, .enqueue]

theorem mirror_faithful_sample : ∃ p : Link × LinkLog,
    p.2 = ⟨[AppState.initial, Sample.capturing], [AppState.initial, Sample.capturing],
      [.scanForDevices], [.scanForDevices]⟩ ∧
    (∃ versions : List ℕ, versions.Pairwise (· ≤ ·) ∧
      p.2.received.map some = versions.map (p.2.published[·]?)) ∧
    p.1.mirror.value = p.1.appState.value ∧ p.2.enqueued <+: p.2.taken := by
  have hrun : ((withLog Sample.codec).replay (fun _ _ => True)
      (⟨⟨AppState.initial, 0⟩, 0, .accepted, .selecting, .empty, .empty, [], ⟨AppState.initial, 0⟩,
        true⟩, ⟨[AppState.initial], [], [], []⟩) mirrorRun).map
        (fun p => (p.2, decide p.1.AtRest)) =
      some (⟨[AppState.initial, Sample.capturing], [AppState.initial, Sample.capturing],
        [.scanForDevices], [.scanForDevices]⟩, true) := by
    decide +kernel
  obtain ⟨p, hp, hstate⟩ := Option.map_eq_some_iff.mp hrun
  obtain ⟨hlog, hrest⟩ := Prod.mk.inj hstate
  obtain ⟨hstates, hmirror, hcommands⟩ := mirror_faithful Sample.codec_lawful
    (.of_replay mirrorRun (.init ⟨⟨[], _, true, rfl⟩, rfl⟩) hp)
  exact ⟨p, hlog, hstates, hmirror (of_decide_eq_true hrest), hcommands⟩

end Ipc

end ToothPaste
