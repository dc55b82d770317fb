import Mathlib.Logic.Function.Basic
import ToothPaste.Ipc.Link
import ToothPaste.Tui.Navigation

/-!
# The service and its clients

Any number of client processes and the processes of the service that follow each other, over all
connections there are between them: `connect_or_spawn`, the loops of `ipc_bridge` and the screens of
each client, and the loop of `ipc_server`, which handles one connection at a time and leaves the
others waiting. A connection is the `Link` of its two ends and of the channels that they share with
the rest of their processes (`Desktop.link`), and what its ends do is a step of that link.

The service may end at any time, and another process may be started then. What publishes its states
and takes its commands is left open.
-/

namespace ToothPaste

/-- `AppState::default()`. -/
def AppState.default : AppState where
  appVersion := ""
  appString := ""
  devices := []
  autoConnect := none
  connectedDevice := none
  passwordProtected := false
  settingsFilePath := none
  enableKeyCapture := false
  enableClipboardCapture := false
  enableMouseCapture := false

/-- The step is one of `ipc_bridge`. -/
def Ipc.LinkAction.ofBridge : Ipc.LinkAction → Bool
  | .recvState | .takeCommand | .bridgeWrites _ | .bridgeWritten | .bridgeReads _
  | .bridgeCloses => true
  | _ => false

/-- The step is one of `handle_connection`. -/
def Ipc.LinkAction.ofService : Ipc.LinkAction → Bool
  | .sendInitial | .sendChanged | .recvCommand | .enqueue | .serviceWrites _ | .serviceWritten
  | .serviceReads _ | .serviceCloses => true
  | _ => false

/-- The step is one of `ToothPasteTUI::run`. -/
def Tui.ClientAction.ofScreens : Tui.ClientAction → Bool
  | .sendAppState _ | .sendServiceAvailable _ | .recvCommand => false
  | _ => true

namespace Desktop

open Ipc Tui

/-! ## The parties -/

/-- Where the task of `ipc_bridge` is. -/
inductive BridgePoint where
  /-- In `connect_or_spawn`, before there is a task. -/
  | starting
  /-- The inner loop was left, and the screens are told next. -/
  | lost
  /-- The default state is sent next. -/
  | resetting
  | retrying
  /-- There is a stream, and the screens are told next. -/
  | joined (c : ℕ)
  /-- In the inner loop. -/
  | serving (c : ℕ)
  /-- The process has ended. -/
  | ended
  deriving DecidableEq

/-- A client process. Its watch channels and its command channel are those of the screens. -/
structure Party where
  screens : Client
  /-- `start_tui` was entered. -/
  started : Bool
  point : BridgePoint

/-- The channels as `spawn_ipc_bridge` creates them. -/
def Party.new : Party where
  screens :=
    ⟨.new ⟨AppState.default, 0⟩ ⟨true, 0⟩, .syncService, ⟨AppState.default, 0⟩, ⟨true, 0⟩, []⟩
  started := false
  point := .starting

/-- A connection: who opened it, the process of the service it was opened to, and its two ends. -/
structure Connection (ι : Type) where
  client : ι
  process : ℕ
  /-- What the receiver of `handle_connection` has seen. -/
  seen : ℕ
  phase : ConnectionPhase
  bridge : BridgePhase
  toClient : LineStream UInt8
  toService : LineStream UInt8

/-- A connection that was opened and not yet accepted. -/
def Connection.new {ι : Type} (client : ι) (process : ℕ) : Connection ι :=
  ⟨client, process, 0, .accepted, .selecting, .empty, .empty⟩

/-- Where `ipc_server` is. -/
inductive ServerPoint where
  | accepting
  | handling (c : ℕ)
  /-- No process of the service is running. -/
  | down
  deriving DecidableEq

end Desktop

open Desktop in
/-- The clients and the service. -/
structure Desktop (ι : Type) where
  parties : ι → Party
  /-- The connections in the order in which they were opened. -/
  connections : List (Connection ι)
  /-- How many of them are not waiting to be accepted any more. -/
  accepted : ℕ
  /-- The running process of the service, or the last one. -/
  process : ℕ
  /-- The watch channel of each process, those to come included. -/
  appState : ℕ → Watch AppState
  server : ServerPoint
  tuiConnected : Bool
  /-- The command channel of the running process has its receiver. -/
  commandsOpen : Bool

namespace Desktop

open Ipc Tui

/-- The steps. -/
inductive Action (ι : Type) where
  /-- `try_connect` succeeds. -/
  | connect (i : ι)
  /-- `connect_or_spawn` fails, or `start_tui` has returned. -/
  | quit (i : ι)
  | startTui (i : ι)
  /-- A step of `ToothPasteTUI::run`. -/
  | screens (i : ι) (a : ClientAction)
  | sendUnavailable (i : ι)
  | sendDefault (i : ι)
  | sendAvailable (i : ι)
  /-- A step of the inner loop of `ipc_bridge`. -/
  | bridge (i : ι) (a : LinkAction)
  /-- The inner loop is left. -/
  | leaveInner (i : ι)
  /-- Someone in the service publishes a state. -/
  | publish (newState : AppState)
  | dropReceiver
  | accept
  /-- A step of `handle_connection`. -/
  | serve (a : LinkAction)
  /-- `handle_connection` has returned. -/
  | leave
  /-- The process of the service ends. -/
  | endService
  | startService

variable {ι : Type} [DecidableEq ι]

/-- All clients start, and no process of the service is running. -/
def start : Desktop ι where
  parties _ := .new
  connections := []
  accepted := 0
  process := 0
  appState _ := ⟨AppState.initial, 0⟩
  server := .down
  tuiConnected := false
  commandsOpen := false

variable (codec : IpcCodec) (cr : TuiCrates) (s : Desktop ι)

omit [DecidableEq ι] in
/-- The link that a connection is. -/
def link (conn : Connection ι) : Link where
  appState := s.appState conn.process
  seen := conn.seen
  connection := conn.phase
  bridge := conn.bridge
  toClient := conn.toClient
  toService := conn.toService
  commandQueue := (s.parties conn.client).screens.commands
  mirror := (s.parties conn.client).screens.appState
  commandsOpen := s.commandsOpen

/-- A connection with the ends of a link. -/
def Connection.withEnds {ι : Type} (conn : Connection ι) (l : Link) : Connection ι :=
  { conn with
    seen := l.seen
    phase := l.connection
    bridge := l.bridge
    toClient := l.toClient
    toService := l.toService }

/-- A client changes. -/
def setParty (i : ι) (party : Party) : Desktop ι :=
  { s with parties := Function.update s.parties i party }

/-- `ipc_bridge` of a client goes on. -/
def setPoint (i : ι) (point : BridgePoint) : Desktop ι :=
  s.setParty i { s.parties i with point }

/-- A send on one of the watch channels of a client, or a step of its screens. -/
def setScreens (i : ι) (screens : Client) : Desktop ι :=
  s.setParty i { s.parties i with screens }

omit [DecidableEq ι] in
/-- The ends of a connection change. -/
def setEnds (c : ℕ) (conn : Connection ι) (l : Link) : Desktop ι :=
  { s with connections := s.connections.set c (conn.withEnds l) }

/-- The client's end of a connection changes, and with it the channels that it shares with the
screens. -/
def setClientEnd (c : ℕ) (conn : Connection ι) (l : Link) : Desktop ι :=
  (s.setEnds c conn l).setScreens conn.client
    { (s.parties conn.client).screens with commands := l.commandQueue, appState := l.mirror }

omit [DecidableEq ι] in
/-- The client's end of its connection is closed, if it has one. -/
def closeClientEnd : BridgePoint → List (Connection ι)
  | .joined c | .serving c => s.connections.modify c fun conn => { conn with bridge := .closed }
  | _ => s.connections

/-- One step. -/
def step : Action ι → Option (Desktop ι)
  | .connect i =>
    if ((s.parties i).point = .starting ∨ (s.parties i).point = .retrying) ∧ s.server ≠ .down then
      some { s.setPoint i (.joined s.connections.length) with
        connections := s.connections ++ [.new i s.process] }
    else none
  | .quit i =>
    if (s.parties i).point = .starting ∨
        (s.parties i).started = true ∧ (s.parties i).screens.point = .returned then
      some { s.setPoint i .ended with connections := s.closeClientEnd (s.parties i).point }
    else none
  | .startTui i =>
    let party := s.parties i
    if party.point ≠ .starting ∧ party.point ≠ .ended ∧ party.started = false then
      some (s.setParty i { party with
        screens := { party.screens with
          app := .new party.screens.appState party.screens.serviceAvailable
          point := .syncService }
        started := true })
    else none
  | .screens i a =>
    if (s.parties i).started = true ∧ (s.parties i).point ≠ .ended ∧ a.ofScreens then
      ((s.parties i).screens.step cr a).map (s.setScreens i)
    else none
  | .sendUnavailable i =>
    let party := s.parties i
    if party.point = .lost then
      some (s.setParty i { party with
        screens := { party.screens with
          serviceAvailable := party.screens.serviceAvailable.send false }
        point := .resetting })
    else none
  | .sendDefault i =>
    let party := s.parties i
    if party.point = .resetting then
      some (s.setParty i { party with
        screens := { party.screens with appState := party.screens.appState.send AppState.default }
        point := .retrying })
    else none
  | .sendAvailable i =>
    let party := s.parties i
    match party.point with
    | .joined c =>
      some (s.setParty i { party with
        screens := { party.screens with
          serviceAvailable := party.screens.serviceAvailable.send true }
        point := .serving c })
    | _ => none
  | .bridge i a =>
    match (s.parties i).point with
    | .serving c =>
      if a.ofBridge then
        s.connections[c]?.bind fun conn => ((s.link conn).step codec a).map (s.setClientEnd c conn)
      else none
    | _ => none
  | .leaveInner i =>
    match (s.parties i).point with
    | .serving c =>
      s.connections[c]?.bind fun conn =>
        if conn.bridge = .closed then some (s.setPoint i .lost) else none
    | _ => none
  | .publish newState =>
    if s.server ≠ .down then
      some { s with
        appState := Function.update s.appState s.process ((s.appState s.process).send newState) }
    else none
  | .dropReceiver => if s.server ≠ .down then some { s with commandsOpen := false } else none
  | .accept =>
    if s.server = .accepting ∧ s.accepted < s.connections.length then
      some { s with
        server := .handling s.accepted
        accepted := s.accepted + 1
        tuiConnected := true }
    else none
  | .serve a =>
    match s.server with
    | .handling c =>
      if a.ofService then
        s.connections[c]?.bind fun conn => ((s.link conn).step codec a).map (s.setEnds c conn)
      else none
    | _ => none
  | .leave =>
    match s.server with
    | .handling c =>
      s.connections[c]?.bind fun conn =>
        if conn.phase = .closed then some { s with server := .accepting, tuiConnected := false }
        else none
    | _ => none
  | .endService =>
    -- what is still waiting is closed with the rest
    if s.server ≠ .down then
      some { s with
        connections := s.connections.map fun conn => { conn with phase := .closed }
        accepted := s.connections.length
        server := .down
        tuiConnected := false
        commandsOpen := false }
    else none
  | .startService =>
    if s.server = .down then
      some { s with process := s.process + 1, server := .accepting, commandsOpen := true }
    else none

/-! ## The steps -/

variable {codec cr s} {t : Desktop ι} {a : Action ι}

variable (codec cr s) in
/-- The steps from `s`, and the state after each. -/
inductive Moves : Action ι → Desktop ι → Prop
  | connect {i : ι}
      (hpoint : (s.parties i).point = .starting ∨ (s.parties i).point = .retrying)
      (hup : s.server ≠ .down) :
      Moves (.connect i) { s.setPoint i (.joined s.connections.length) with
        connections := s.connections ++ [.new i s.process] }
  | quit {i : ι} :
      Moves (.quit i)
        { s.setPoint i .ended with connections := s.closeClientEnd (s.parties i).point }
  | startTui {i : ι} (hstarted : (s.parties i).started = false) :
      Moves (.startTui i) (s.setParty i { s.parties i with
        screens := { (s.parties i).screens with
          app := .new (s.parties i).screens.appState (s.parties i).screens.serviceAvailable
          point := .syncService }
        started := true })
  | screens {i : ι} {a : ClientAction} {screens : Client}
      (hstarted : (s.parties i).started = true) (hside : a.ofScreens = true)
      (hclient : (s.parties i).screens.step cr a = some screens) :
      Moves (.screens i a) (s.setScreens i screens)
  | sendUnavailable {i : ι} (hpoint : (s.parties i).point = .lost) :
      Moves (.sendUnavailable i) (s.setParty i { s.parties i with
        screens := { (s.parties i).screens with
          serviceAvailable := (s.parties i).screens.serviceAvailable.send false }
        point := .resetting })
  | sendDefault {i : ι} (hpoint : (s.parties i).point = .resetting) :
      Moves (.sendDefault i) (s.setParty i { s.parties i with
        screens := { (s.parties i).screens with
          appState := (s.parties i).screens.appState.send AppState.default }
        point := .retrying })
  | sendAvailable {i : ι} {c : ℕ} (hpoint : (s.parties i).point = .joined c) :
      Moves (.sendAvailable i) (s.setParty i { s.parties i with
        screens := { (s.parties i).screens with
          serviceAvailable := (s.parties i).screens.serviceAvailable.send true }
        point := .serving c })
  | bridge {i : ι} {c : ℕ} {conn : Connection ι} {a : LinkAction} {l : Link}
      (hpoint : (s.parties i).point = .serving c) (hconn : s.connections[c]? = some conn)
      (hside : a.ofBridge = true) (hlink : (s.link conn).step codec a = some l) :
      Moves (.bridge i a) (s.setClientEnd c conn l)
  | leaveInner {i : ι} {c : ℕ} {conn : Connection ι} (hpoint : (s.parties i).point = .serving c)
      (hconn : s.connections[c]? = some conn) (hclosed : conn.bridge = .closed) :
      Moves (.leaveInner i) (s.setPoint i .lost)
  | publish {newState : AppState} (hup : s.server ≠ .down) :
      Moves (.publish newState) { s with
        appState := Function.update s.appState s.process ((s.appState s.process).send newState) }
  | dropReceiver : Moves .dropReceiver { s with commandsOpen := false }
  | accept (haccepting : s.server = .accepting) (hwaiting : s.accepted < s.connections.length) :
      Moves .accept { s with
        server := .handling s.accepted
        accepted := s.accepted + 1
        tuiConnected := true }
  | serve {c : ℕ} {conn : Connection ι} {a : LinkAction} {l : Link}
      (hserver : s.server = .handling c) (hconn : s.connections[c]? = some conn)
      (hside : a.ofService = true) (hlink : (s.link conn).step codec a = some l) :
      Moves (.serve a) (s.setEnds c conn l)
  | leave {c : ℕ} {conn : Connection ι} (hserver : s.server = .handling c)
      (hconn : s.connections[c]? = some conn) (hclosed : conn.phase = .closed) :
      Moves .leave { s with server := .accepting, tuiConnected := false }
  | endService (hup : s.server ≠ .down) :
      Moves .endService { s with
        connections := s.connections.map fun conn => { conn with phase := .closed }
        accepted := s.connections.length
        server := .down
        tuiConnected := false
        commandsOpen := false }
  | startService (hdown : s.server = .down) :
      Moves .startService
        { s with process := s.process + 1, server := .accepting, commandsOpen := true }

theorem moves_of_step (h : s.step codec cr a = some t) : Moves codec cr s a t := by
  cases a with
  | connect i =>
    rw [step] at h
    split_ifs at h with hpoint
    exact Option.some.inj h ▸ .connect hpoint.1 hpoint.2
  | quit i =>
    rw [step] at h
    split_ifs at h
    exact Option.some.inj h ▸ .quit
  | startTui i =>
    rw [step] at h
    dsimp only at h
    split_ifs at h with hpoint
    exact Option.some.inj h ▸ .startTui hpoint.2.2
  | screens i a =>
    rw [step] at h
    split_ifs at h with hside
    obtain ⟨screens, hclient, rfl⟩ := Option.map_eq_some_iff.mp h
    exact .screens hside.1 hside.2.2 hclient
  | sendUnavailable i =>
    rw [step] at h
    dsimp only at h
    split_ifs at h with hpoint
    exact Option.some.inj h ▸ .sendUnavailable hpoint
  | sendDefault i =>
    rw [step] at h
    dsimp only at h
    split_ifs at h with hpoint
    exact Option.some.inj h ▸ .sendDefault hpoint
  | sendAvailable i =>
    rw [step] at h
    dsimp only at h
    split at h
    case h_1 c hpoint => exact Option.some.inj h ▸ .sendAvailable hpoint
    case h_2 => cases h
  | bridge i a =>
    rw [step] at h
    split at h
    case h_1 c hpoint =>
      split_ifs at h with hside
      obtain ⟨conn, hconn, hstep⟩ := Option.bind_eq_some_iff.mp h
      obtain ⟨l, hlink, rfl⟩ := Option.map_eq_some_iff.mp hstep
      exact .bridge hpoint hconn hside hlink
    case h_2 => cases h
  | leaveInner i =>
    rw [step] at h
    split at h
    case h_1 c hpoint =>
      obtain ⟨conn, hconn, hclosed⟩ := Option.bind_eq_some_iff.mp h
      split_ifs at hclosed with hbridge
      exact Option.some.inj hclosed ▸ .leaveInner hpoint hconn hbridge
    case h_2 => cases h
  | publish newState =>
    rw [step] at h
    split_ifs at h with hup
    exact Option.some.inj h ▸ .publish hup
  | dropReceiver =>
    rw [step] at h
    split_ifs at h
    exact Option.some.inj h ▸ .dropReceiver
  | accept =>
    rw [step] at h
    split_ifs at h with hwaiting
    exact Option.some.inj h ▸ .accept hwaiting.1 hwaiting.2
  | serve a =>
    rw [step] at h
    split at h
    case h_1 c hserver =>
      split_ifs at h with hside
      obtain ⟨conn, hconn, hstep⟩ := Option.bind_eq_some_iff.mp h
      obtain ⟨l, hlink, rfl⟩ := Option.map_eq_some_iff.mp hstep
      exact .serve hserver hconn hside hlink
    case h_2 => cases h
  | leave =>
    rw [step] at h
    split at h
    case h_1 c hserver =>
      obtain ⟨conn, hconn, hclosed⟩ := Option.bind_eq_some_iff.mp h
      split_ifs at hclosed with hphase
      exact Option.some.inj hclosed ▸ .leave hserver hconn hphase
    case h_2 => cases h
  | endService =>
    rw [step] at h
    split_ifs at h with hup
    exact Option.some.inj h ▸ .endService hup
  | startService =>
    rw [step] at h
    split_ifs at h with hdown
    exact Option.some.inj h ▸ .startService hdown

/-! ## What the ends of a link leave alone -/

/-- The bridge does not touch what belongs to the service. -/
theorem service_of_ofBridge {l l' : Link} {a : LinkAction} (hside : a.ofBridge = true)
    (h : l.step codec a = some l') : l'.appState = l.appState ∧ l'.seen = l.seen ∧
      l'.connection = l.connection ∧ l'.commandsOpen = l.commandsOpen := by
  cases Link.moves_of_step h with
  | recvState =>
    unfold Link.mirrorLine
    split <;> exact ⟨rfl, rfl, rfl, rfl⟩
  | takeCommand | bridgeWrites | bridgeWritten | bridgeReads | bridgeCloses =>
    exact ⟨rfl, rfl, rfl, rfl⟩
  | _ => cases hside

/-- The service does not touch what belongs to the client. -/
theorem client_of_ofService {l l' : Link} {a : LinkAction} (hside : a.ofService = true)
    (h : l.step codec a = some l') : l'.appState = l.appState ∧ l'.bridge = l.bridge ∧
      l'.commandQueue = l.commandQueue ∧ l'.mirror = l.mirror ∧
      l'.commandsOpen = l.commandsOpen := by
  cases Link.moves_of_step h with
  | @recvCommand line toService =>
    obtain ⟨phase, heq⟩ := Link.handleLine_cases line
    rw [heq]
    exact ⟨rfl, rfl, rfl, rfl, rfl⟩
  | sendInitial | sendChanged | enqueue | serviceWrites | serviceWritten | serviceReads
  | serviceCloses => exact ⟨rfl, rfl, rfl, rfl, rfl⟩
  | _ => cases hside

/-! ## Well-formed states -/

/-- The connection the bridge uses. -/
def BridgePoint.connection : BridgePoint → Option ℕ
  | .joined c | .serving c => some c
  | _ => none

/-- What holds in every reachable state of the connections: a client uses one that it has opened;
those that wait are as they were opened, to the running process; of the others only the one that is
handled is not closed. -/
structure WellFormed (s : Desktop ι) : Prop where
  current : ∀ i c, (s.parties i).point.connection = some c →
    ∃ conn, s.connections[c]? = some conn ∧ conn.client = i
  accepted_le : s.accepted ≤ s.connections.length
  waiting : ∀ c conn, s.connections[c]? = some conn → s.accepted ≤ c →
    conn.phase = .accepted ∧ conn.process = s.process
  handled : ∀ c, s.server = .handling c → c + 1 = s.accepted ∧
    ∃ conn, s.connections[c]? = some conn ∧ conn.process = s.process
  closed : ∀ c conn, s.connections[c]? = some conn → c < s.accepted → s.server ≠ .handling c →
    conn.phase = .closed
  down : s.server = .down → s.accepted = s.connections.length
  connected : s.tuiConnected = true ↔ ∃ c, s.server = .handling c

/-- The parties change at most in that they leave their connection, and the connections in what
their ends are, at the service's end only in the one that is handled. -/
structure Kept (s t : Desktop ι) : Prop where
  accepted : t.accepted = s.accepted
  process : t.process = s.process
  server : t.server = s.server
  tuiConnected : t.tuiConnected = s.tuiConnected
  length : t.connections.length = s.connections.length
  point : ∀ i c, (t.parties i).point.connection = some c → (s.parties i).point.connection = some c
  ends : ∀ c conn', t.connections[c]? = some conn' → ∃ conn, s.connections[c]? = some conn ∧
    conn'.client = conn.client ∧ conn'.process = conn.process ∧
    (s.server ≠ .handling c → conn'.phase = conn.phase)

omit [DecidableEq ι] in
/-- A connection that was there is still there, with its client and its process. -/
theorem Kept.exists_connection (h : Kept s t) {c : ℕ} {conn : Connection ι}
    (hconn : s.connections[c]? = some conn) :
    ∃ conn', t.connections[c]? = some conn' ∧ conn'.client = conn.client ∧
      conn'.process = conn.process := by
  obtain ⟨hlt, -⟩ := List.getElem?_eq_some_iff.mp hconn
  have hconn' := List.getElem?_eq_getElem (h.length ▸ hlt)
  obtain ⟨conn₀, hconn₀, hclient, hprocess, -⟩ := h.ends c _ hconn'
  obtain rfl := Option.some.inj (hconn.symm.trans hconn₀)
  exact ⟨_, hconn', hclient, hprocess⟩

omit [DecidableEq ι] in
theorem WellFormed.of_kept (h : WellFormed s) (hkept : Kept s t) : WellFormed t where
  current i c hc := by
    obtain ⟨conn, hconn, rfl⟩ := h.current i c (hkept.point i c hc)
    obtain ⟨conn', hconn', hclient, -⟩ := hkept.exists_connection hconn
    exact ⟨conn', hconn', hclient⟩
  accepted_le := by rw [hkept.accepted, hkept.length]; exact h.accepted_le
  waiting c conn' hconn' hle := by
    obtain ⟨conn, hconn, -, hprocess, hphase⟩ := hkept.ends c conn' hconn'
    rw [hkept.accepted] at hle
    obtain ⟨haccepted, hrunning⟩ := h.waiting c conn hconn hle
    refine ⟨?_, by rw [hprocess, hrunning, hkept.process]⟩
    rw [hphase fun hserver => ?_, haccepted]
    have := (h.handled c hserver).1
    omega
  handled c hc := by
    rw [hkept.server] at hc
    obtain ⟨hsucc, conn, hconn, hprocess⟩ := h.handled c hc
    obtain ⟨conn', hconn', -, hprocess'⟩ := hkept.exists_connection hconn
    exact ⟨hkept.accepted ▸ hsucc, conn', hconn', by rw [hprocess', hprocess, hkept.process]⟩
  closed c conn' hconn' hlt hne := by
    rw [hkept.accepted] at hlt
    rw [hkept.server] at hne
    obtain ⟨conn, hconn, -, -, hphase⟩ := hkept.ends c conn' hconn'
    rw [hphase hne, h.closed c conn hconn hlt hne]
  down hdown := by
    rw [hkept.accepted, hkept.length]
    exact h.down (hkept.server ▸ hdown)
  connected := by
    rw [hkept.tuiConnected, hkept.server]
    exact h.connected

@[simp]
theorem parties_setParty_self (i : ι) (party : Party) : (s.setParty i party).parties i = party :=
  Function.update_self ..

theorem parties_setParty_of_ne {i j : ι} (h : j ≠ i) (party : Party) :
    (s.setParty i party).parties j = s.parties j :=
  Function.update_of_ne h ..

/-- The screens do not depend on where the bridge is. -/
@[simp]
theorem screens_setPoint (i j : ι) (point : BridgePoint) :
    ((s.setPoint i point).parties j).screens = (s.parties j).screens := by
  by_cases hj : j = i
  · rw [hj, setPoint, parties_setParty_self]
  · rw [setPoint, parties_setParty_of_ne hj]

/-- A party that keeps or leaves its connection. -/
theorem kept_setParty {i : ι} {party : Party}
    (hpoint : ∀ c, party.point.connection = some c → (s.parties i).point.connection = some c) :
    Kept s (s.setParty i party) where
  accepted := rfl
  process := rfl
  server := rfl
  tuiConnected := rfl
  length := rfl
  point j c hc := by
    by_cases hj : j = i
    · subst hj
      rw [parties_setParty_self] at hc
      exact hpoint c hc
    · rwa [parties_setParty_of_ne hj] at hc
  ends c conn hconn := ⟨conn, hconn, rfl, rfl, fun _ => rfl⟩

omit [DecidableEq ι] in
/-- The other connections stay as they are. -/
theorem setEnds_cases {c d : ℕ} {conn conn' : Connection ι} {l : Link}
    (hconn' : (s.setEnds c conn l).connections[d]? = some conn') :
    d = c ∧ conn' = conn.withEnds l ∨ d ≠ c ∧ s.connections[d]? = some conn' := by
  rw [setEnds, List.getElem?_set] at hconn'
  split_ifs at hconn' with hd
  · exact .inl ⟨hd.symm, (Option.some.inj hconn').symm⟩
  · exact .inr ⟨Ne.symm hd, hconn'⟩

omit [DecidableEq ι] in
/-- The ends of a connection change, that of the service only if the connection is handled. -/
theorem kept_setEnds {c : ℕ} {conn : Connection ι} {l : Link}
    (hconn : s.connections[c]? = some conn)
    (hphase : s.server ≠ .handling c → l.connection = conn.phase) :
    Kept s (s.setEnds c conn l) where
  accepted := rfl
  process := rfl
  server := rfl
  tuiConnected := rfl
  length := List.length_set
  point _ _ hc := hc
  ends d conn' hconn' := by
    rcases setEnds_cases hconn' with ⟨rfl, rfl⟩ | ⟨-, hold⟩
    · exact ⟨conn, hconn, rfl, rfl, hphase⟩
    · exact ⟨conn', hold, rfl, rfl, fun _ => rfl⟩

omit [DecidableEq ι] in
/-- Only the client's end of its own connection is closed. -/
theorem closeClientEnd_cases {point : BridgePoint} {c : ℕ} {conn' : Connection ι}
    (hconn' : (s.closeClientEnd point)[c]? = some conn') :
    ∃ conn, s.connections[c]? = some conn ∧
      (conn' = conn ∨ point.connection = some c ∧ conn' = { conn with bridge := .closed }) := by
  have hmodify : ∀ d, (s.connections.modify d fun conn => { conn with bridge := .closed })[c]? =
      some conn' → ∃ conn, s.connections[c]? = some conn ∧
        (conn' = conn ∨ d = c ∧ conn' = { conn with bridge := .closed }) := by
    intro d hconn'
    rw [List.getElem?_modify] at hconn'
    obtain ⟨conn, hconn, rfl⟩ := Option.map_eq_some_iff.mp hconn'
    refine ⟨conn, hconn, ?_⟩
    split_ifs with hd
    · exact .inr ⟨hd, rfl⟩
    · exact .inl rfl
  cases point with
  | joined d | serving d =>
    obtain ⟨conn, hconn, hcases⟩ := hmodify d hconn'
    exact ⟨conn, hconn, hcases.imp_right fun h => ⟨congrArg some h.1, h.2⟩⟩
  | starting | lost | resetting | retrying | ended => exact ⟨conn', hconn', .inl rfl⟩

omit [DecidableEq ι] in
theorem length_closeClientEnd (point : BridgePoint) :
    (s.closeClientEnd point).length = s.connections.length := by
  cases point with
  | joined | serving => exact List.length_modify ..
  | starting | lost | resetting | retrying | ended => rfl

omit [DecidableEq ι] in
theorem kept_closeClientEnd (point : BridgePoint) :
    Kept s { s with connections := s.closeClientEnd point } where
  accepted := rfl
  process := rfl
  server := rfl
  tuiConnected := rfl
  length := length_closeClientEnd point
  point _ _ hc := hc
  ends d conn' hconn' := by
    obtain ⟨conn, hconn, rfl | ⟨-, rfl⟩⟩ := closeClientEnd_cases hconn'
    · exact ⟨conn', hconn, rfl, rfl, fun _ => rfl⟩
    · exact ⟨conn, hconn, rfl, rfl, fun _ => rfl⟩

omit [DecidableEq ι] in
theorem Kept.trans {u : Desktop ι} (h : Kept s t) (h' : Kept t u) : Kept s u where
  accepted := h'.accepted.trans h.accepted
  process := h'.process.trans h.process
  server := h'.server.trans h.server
  tuiConnected := h'.tuiConnected.trans h.tuiConnected
  length := h'.length.trans h.length
  point i c hc := h.point i c (h'.point i c hc)
  ends c conn'' hconn'' := by
    obtain ⟨conn', hconn', hclient', hprocess', hphase'⟩ := h'.ends c conn'' hconn''
    obtain ⟨conn, hconn, hclient, hprocess, hphase⟩ := h.ends c conn' hconn'
    exact ⟨conn, hconn, hclient'.trans hclient, hprocess'.trans hprocess, fun hne =>
      (hphase' (h.server ▸ hne)).trans (hphase hne)⟩

omit [DecidableEq ι] in
/-- What is there stays there when a connection is opened. -/
theorem getElem?_open {conns : List (Connection ι)} {c : ℕ} {conn : Connection ι}
    (hconn : conns[c]? = some conn) (new : Connection ι) : (conns ++ [new])[c]? = some conn := by
  obtain ⟨hlt, -⟩ := List.getElem?_eq_some_iff.mp hconn
  rw [List.getElem?_append_left hlt, hconn]

omit [DecidableEq ι] in
/-- A connection was there before, or is the one that is opened. -/
theorem open_cases {conns : List (Connection ι)} {c : ℕ} {conn new : Connection ι}
    (hconn : (conns ++ [new])[c]? = some conn) :
    conns[c]? = some conn ∨ c = conns.length ∧ conn = new := by
  grind

/-- A client opens a connection, which waits. -/
theorem WellFormed.connect (h : WellFormed s) (hup : s.server ≠ .down) (i : ι) :
    WellFormed { s.setPoint i (.joined s.connections.length) with
      connections := s.connections ++ [.new i s.process] } where
  current j c hc := by
    by_cases hj : j = i
    · subst hj
      have hc : ((s.setPoint j (.joined s.connections.length)).parties j).point.connection =
        some c := hc
      rw [setPoint, parties_setParty_self] at hc
      obtain rfl := Option.some.inj hc
      exact ⟨.new j s.process, List.getElem?_concat_length, rfl⟩
    · have hc : ((s.setPoint i (.joined s.connections.length)).parties j).point.connection =
        some c := hc
      rw [setPoint, parties_setParty_of_ne hj] at hc
      obtain ⟨conn, hconn, hclient⟩ := h.current j c hc
      exact ⟨conn, getElem?_open hconn _, hclient⟩
  accepted_le := h.accepted_le.trans (by simp)
  waiting c conn hconn hle := by
    rcases open_cases hconn with hold | ⟨-, rfl⟩
    · exact h.waiting c conn hold hle
    · exact ⟨rfl, rfl⟩
  handled c hc := by
    obtain ⟨hsucc, conn, hconn, hprocess⟩ := h.handled c hc
    exact ⟨hsucc, conn, getElem?_open hconn _, hprocess⟩
  closed c conn hconn hlt hne := by
    rcases open_cases hconn with hold | ⟨rfl, -⟩
    · exact h.closed c conn hold hlt hne
    · exact absurd hlt (not_lt.mpr h.accepted_le)
  down hdown := absurd hdown hup
  connected := h.connected

omit [DecidableEq ι] in
/-- The next connection that waits is accepted. -/
theorem WellFormed.accept (h : WellFormed s) (haccepting : s.server = .accepting)
    (hwaiting : s.accepted < s.connections.length) :
    WellFormed { s with
      server := .handling s.accepted
      accepted := s.accepted + 1
      tuiConnected := true } where
  current := h.current
  accepted_le := hwaiting
  waiting c conn hconn hle := h.waiting c conn hconn (Nat.le_of_succ_le hle)
  handled c hc := by
    obtain rfl := ServerPoint.handling.inj hc
    have hconn := List.getElem?_eq_getElem hwaiting
    exact ⟨rfl, _, hconn, (h.waiting _ _ hconn le_rfl).2⟩
  closed c conn hconn hlt hne := by
    refine h.closed c conn hconn ?_ (by rw [haccepting]; exact nofun)
    exact lt_of_le_of_ne (Nat.lt_succ_iff.mp hlt) fun heq => hne (heq ▸ rfl)
  down := nofun
  connected := iff_of_true rfl ⟨_, rfl⟩

omit [DecidableEq ι] in
/-- The connection that is handled is closed, and the next one can be accepted. -/
theorem WellFormed.leave (h : WellFormed s) {c : ℕ} {conn : Connection ι}
    (hserver : s.server = .handling c) (hconn : s.connections[c]? = some conn)
    (hclosed : conn.phase = .closed) :
    WellFormed { s with server := .accepting, tuiConnected := false } where
  current := h.current
  accepted_le := h.accepted_le
  waiting := h.waiting
  handled := nofun
  closed d conn' hconn' hlt _ := by
    by_cases hd : c = d
    · subst hd
      obtain rfl := Option.some.inj (hconn.symm.trans hconn')
      exact hclosed
    · refine h.closed d conn' hconn' hlt ?_
      rw [hserver]
      exact fun heq => hd (ServerPoint.handling.inj heq)
  down := nofun
  connected := iff_of_false (by simp) (by rintro ⟨_, ⟨⟩⟩)

omit [DecidableEq ι] in
theorem WellFormed.endService (h : WellFormed s) :
    WellFormed { s with
      connections := s.connections.map fun conn => { conn with phase := .closed }
      accepted := s.connections.length
      server := .down
      tuiConnected := false
      commandsOpen := false } where
  current i c hc := by
    obtain ⟨conn, hconn, hclient⟩ := h.current i c hc
    exact ⟨{ conn with phase := .closed }, by rw [List.getElem?_map, hconn]; rfl, hclient⟩
  accepted_le := by simp
  waiting c conn hconn hle := by
    obtain ⟨conn, hconn, -⟩ := Option.map_eq_some_iff.mp ((List.getElem?_map ..).symm.trans hconn)
    obtain ⟨hlt, -⟩ := List.getElem?_eq_some_iff.mp hconn
    exact absurd hlt (not_lt.mpr hle)
  handled := nofun
  closed c conn hconn _ _ := by
    obtain ⟨conn, -, rfl⟩ := Option.map_eq_some_iff.mp ((List.getElem?_map ..).symm.trans hconn)
    rfl
  down _ := by simp
  connected := iff_of_false (by simp) (by rintro ⟨_, ⟨⟩⟩)

omit [DecidableEq ι] in
/-- No connection waits for another process of the service. -/
theorem WellFormed.startService (h : WellFormed s) (hdown : s.server = .down) :
    WellFormed { s with process := s.process + 1, server := .accepting, commandsOpen := true } where
  current := h.current
  accepted_le := h.accepted_le
  waiting c conn hconn hle := by
    obtain ⟨hlt, -⟩ := List.getElem?_eq_some_iff.mp hconn
    rw [← h.down hdown] at hlt
    exact absurd hlt (not_lt.mpr hle)
  handled := nofun
  closed c conn hconn hlt _ := h.closed c conn hconn hlt (by rw [hdown]; exact nofun)
  down := nofun
  connected := by
    refine h.connected.trans (iff_of_false ?_ ?_)
    · rintro ⟨c, hc⟩
      cases hdown.symm.trans hc
    · rintro ⟨_, ⟨⟩⟩

omit [DecidableEq ι] in
theorem wellFormed_start : WellFormed (start : Desktop ι) where
  current _ _ := nofun
  accepted_le := le_rfl
  waiting _ _ := nofun
  handled _ := nofun
  closed _ _ := nofun
  down _ := rfl
  connected := iff_of_false (by simp [start]) (by rintro ⟨_, ⟨⟩⟩)

/-- Every step that neither opens nor accepts nor leaves a connection keeps the connections. -/
theorem kept_of_moves (hm : Moves codec cr s a t) :
    Kept s t ∨ (∃ i, a = .connect i) ∨ a = .accept ∨ a = .leave ∨ a = .endService ∨
      a = .startService := by
  cases hm with
  | connect => exact .inr (.inl ⟨_, rfl⟩)
  | accept => exact .inr (.inr (.inl rfl))
  | leave => exact .inr (.inr (.inr (.inl rfl)))
  | endService => exact .inr (.inr (.inr (.inr (.inl rfl))))
  | startService => exact .inr (.inr (.inr (.inr (.inr rfl))))
  | @quit i =>
    exact .inl ((kept_closeClientEnd (s.parties i).point).trans (kept_setParty nofun))
  | startTui => exact .inl (kept_setParty fun c hc => hc)
  | screens => exact .inl (kept_setParty fun c hc => hc)
  | sendUnavailable | sendDefault | leaveInner => exact .inl (kept_setParty nofun)
  | sendAvailable hpoint =>
    refine .inl (kept_setParty fun c hc => ?_)
    rw [hpoint]
    exact hc
  | bridge hpoint hconn hside hlink =>
    have hphase := (service_of_ofBridge hside hlink).2.2.1
    refine .inl ((kept_setEnds hconn fun _ => hphase).trans ?_)
    exact kept_setParty fun c hc => hc
  | publish | dropReceiver =>
    exact .inl ⟨rfl, rfl, rfl, rfl, rfl, fun _ _ hc => hc, fun _ conn hconn =>
      ⟨conn, hconn, rfl, rfl, fun _ => rfl⟩⟩
  | serve hserver hconn =>
    exact .inl (kept_setEnds hconn fun hne => absurd hserver hne)

theorem wellFormed_step (h : WellFormed s) (hm : Moves codec cr s a t) : WellFormed t := by
  rcases kept_of_moves hm with hkept | hother
  · exact h.of_kept hkept
  cases hm with
  | connect _ hup => exact h.connect hup _
  | accept haccepting hwaiting => exact h.accept haccepting hwaiting
  | leave hserver hconn hclosed => exact h.leave hserver hconn hclosed
  | endService => exact h.endService
  | startService hdown => exact h.startService hdown
  | _ => simp at hother

end Desktop

/-- The service and its clients, from the time the clients are started. -/
def desktop {ι : Type} [DecidableEq ι] (codec : Ipc.IpcCodec) (cr : Tui.TuiCrates) :
    Transition.System (Desktop ι) (Desktop.Action ι) where
  Init s := s = Desktop.start
  step s := s.step codec cr

/-- Every reachable state is well formed. -/
theorem Desktop.wellFormed_of_reachable {ι : Type} [DecidableEq ι] {codec : Ipc.IpcCodec}
    {cr : Tui.TuiCrates} {s : Desktop ι} (h : (desktop codec cr).Reachable s) : s.WellFormed :=
  h.invariant (by rintro _ rfl; exact wellFormed_start) fun _ _ _ hs hst =>
    wellFormed_step hs (moves_of_step hst)

end ToothPaste
