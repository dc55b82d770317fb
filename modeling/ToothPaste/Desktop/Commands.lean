import ToothPaste.Desktop.System
import ToothPaste.Lib.Tagged

/-!
# Commands from the clients to the service

What the clients and the service have sent each other is kept in a log (`Log`). The commands that a
client takes from its channel, and those that `handle_connection` puts in the channel of the
service, are in it with the connection they go over.

* `commands_arrive`: over all connections, the service enqueues the commands of each client in the
  order in which its screens put them and none of them twice, those of one connection from its first
  on, and those of different connections one after the other.
-/

namespace ToothPaste

namespace Desktop

open Ipc Tui Tagged

variable {ι : Type} [DecidableEq ι]

/-! ## The log -/

/-- What has been sent. -/
structure Log (ι : Type) where
  /-- The states that each process of the service has published. -/
  published : ℕ → List AppState
  /-- The states that each connection has brought. -/
  received : ℕ → List AppState
  /-- The commands that the screens of each client have put in its channel. -/
  put : ι → List AppCommand
  /-- Those that its bridge has taken, with the connection. -/
  taken : ι → List (ℕ × AppCommand)
  /-- Those that were put in the channel of the service. -/
  channel : List (ℕ × AppCommand)

/-- Nothing has been sent, and the state of a process is there from its start. -/
def Log.start : Log ι := ⟨fun _ => [AppState.initial], fun _ => [], fun _ => [], fun _ => [], []⟩

/-- What is in the log of a connection's link. -/
def Log.link (log : Log ι) (c : ℕ) (conn : Connection ι) : LinkLog :=
  ⟨log.published conn.process, log.received c, of c (log.taken conn.client), of c log.channel⟩

variable (codec : IpcCodec) (cr : TuiCrates)

/-- What a step of a link adds to its log. -/
def news (l : Link) (a : LinkAction) : LinkLog := LinkLog.after codec ⟨[], [], [], []⟩ l a

/-- The log after a step. -/
def Log.after (log : Log ι) (s : Desktop ι) (a : Action ι) (t : Desktop ι) : Log ι :=
  match a with
  | .publish newState =>
    { log with
      published :=
        Function.update log.published s.process (log.published s.process ++ [newState]) }
  | .screens i _ =>
    -- the screens only add to their channel
    let added := (t.parties i).screens.commands.drop (s.parties i).screens.commands.length
    { log with put := Function.update log.put i (log.put i ++ added) }
  | .bridge i a =>
    match (s.parties i).point with
    | .serving c =>
      match s.connections[c]? with
      | some conn =>
        let added := news codec (s.link conn) a
        { log with
          received := Function.update log.received c (log.received c ++ added.received)
          taken := Function.update log.taken i (log.taken i ++ tagged c added.taken) }
      | none => log
    | _ => log
  | .serve a =>
    match s.server with
    | .handling c =>
      match s.connections[c]? with
      | some conn =>
        { log with channel := log.channel ++ tagged c (news codec (s.link conn) a).enqueued }
      | none => log
    | _ => log
  | _ => log

/-- The service and its clients with the log. -/
def withLog : Transition.System (Desktop ι × Log ι) (Action ι) :=
  (desktop codec cr).withHistory Log.start fun log s a t => log.after codec s a t

variable {codec cr} {s t : Desktop ι} {log : Log ι} {a : Action ι}

/-- A log grows by the news. -/
theorem after_eq_append (lg : LinkLog) (l : Link) (a : LinkAction) :
    lg.after codec l a = ⟨lg.published ++ (news codec l a).published,
      lg.received ++ (news codec l a).received, lg.taken ++ (news codec l a).taken,
      lg.enqueued ++ (news codec l a).enqueued⟩ := by
  cases a <;> simp [news, LinkLog.after]

/-- The bridge publishes and enqueues nothing; what it takes is what leaves the channel. -/
theorem news_of_ofBridge {l l' : Link} {a : LinkAction} (hside : a.ofBridge = true)
    (h : l.step codec a = some l') : (news codec l a).published = [] ∧
      (news codec l a).enqueued = [] ∧
      (news codec l a).taken ++ l'.commandQueue = l.commandQueue := by
  cases Link.moves_of_step h with
  | recvState =>
    refine ⟨rfl, rfl, ?_⟩
    unfold Link.mirrorLine
    split <;> rfl
  | @takeCommand cmd commands hphase hqueue =>
    refine ⟨rfl, rfl, ?_⟩
    simp [news, LinkLog.after, Link.writeMsg, hqueue]
  | bridgeWrites | bridgeWritten | bridgeReads | bridgeCloses => exact ⟨rfl, rfl, rfl⟩
  | _ => cases hside

/-- The service takes and receives nothing. -/
theorem news_of_ofService (codec : IpcCodec) (l : Link) {a : LinkAction}
    (hside : a.ofService = true) :
    (news codec l a).published = [] ∧ (news codec l a).received = [] ∧
      (news codec l a).taken = [] := by
  cases a with
  | sendInitial | sendChanged | recvCommand | enqueue | serviceWrites | serviceWritten
  | serviceReads | serviceCloses => exact ⟨rfl, rfl, rfl⟩
  | _ => cases hside

theorem log_after_bridge {i : ι} {c : ℕ} {conn : Connection ι} {a : LinkAction}
    (hpoint : (s.parties i).point = .serving c) (hconn : s.connections[c]? = some conn) :
    log.after codec s (.bridge i a) t = { log with
      received := Function.update log.received c
        (log.received c ++ (news codec (s.link conn) a).received)
      taken := Function.update log.taken i
        (log.taken i ++ tagged c (news codec (s.link conn) a).taken) } := by
  rw [Log.after, hpoint]
  dsimp only
  rw [hconn]

theorem log_after_serve {c : ℕ} {conn : Connection ι} {a : LinkAction}
    (hserver : s.server = .handling c) (hconn : s.connections[c]? = some conn) :
    log.after codec s (.serve a) t = { log with
      channel := log.channel ++ tagged c (news codec (s.link conn) a).enqueued } := by
  rw [Log.after, hserver]
  dsimp only
  rw [hconn]

/-! ## One connection -/

/-- What the law about the commands of a link depends on. -/
theorem commandsInv_congr {l l' : Link} {lg lg' : LinkLog} {handled pending : List AppCommand}
    (h : CommandsInv codec l lg handled pending) (hconnection : l'.connection = l.connection)
    (hbridge : l'.bridge = .selecting → l.bridge = .selecting)
    (htoService : l'.toService = l.toService)
    (hopen : l'.commandsOpen = true → l'.connection ≠ .closed → l.commandsOpen = true)
    (htaken : lg'.taken = lg.taken) (henqueued : lg'.enqueued = lg.enqueued) :
    CommandsInv codec l' lg' handled pending where
  taken := by rw [hconnection, htaken]; exact h.taken
  holds := htoService ▸ h.holds
  enqueued := henqueued ▸ h.enqueued
  all hopen' hclosed := henqueued ▸ h.all (hopen hopen' hclosed) (hconnection ▸ hclosed)
  idle hselecting := htoService ▸ h.idle (hbridge hselecting)

omit [DecidableEq ι] in
/-- Nothing has gone over a connection that has just been opened. -/
theorem commandsInv_new {i : ι} {process : ℕ} {lg : LinkLog} (htaken : lg.taken = [])
    (henqueued : lg.enqueued = []) : CommandsInv codec (s.link (.new i process)) lg [] [] where
  taken := htaken.symm
  holds := LineStream.holds_empty
  enqueued := by rw [henqueued]
  all _ _ := henqueued
  idle _ := rfl

/-- The ends of a connection after a step of the bridge. -/
theorem link_setClientEnd {c : ℕ} {conn : Connection ι} {l : Link} {a : LinkAction}
    (hside : a.ofBridge = true) (hlink : (s.link conn).step codec a = some l) :
    (s.setClientEnd c conn l).link (conn.withEnds l) = l := by
  obtain ⟨happ, -, -, hopen⟩ := service_of_ofBridge hside hlink
  obtain ⟨appState, seen, connection, bridge, toClient, toService, queue, mirror, isOpen⟩ := l
  obtain rfl : appState = s.appState conn.process := happ
  obtain rfl : isOpen = s.commandsOpen := hopen
  rw [link, setClientEnd, setScreens, Connection.withEnds]
  simp only [parties_setParty_self]
  rfl

omit [DecidableEq ι] in
/-- The ends of a connection after a step of the service. -/
theorem link_setEnds {c : ℕ} {conn : Connection ι} {l : Link} {a : LinkAction}
    (hside : a.ofService = true) (hlink : (s.link conn).step codec a = some l) :
    (s.setEnds c conn l).link (conn.withEnds l) = l := by
  obtain ⟨happ, -, hqueue, hmirror, hopen⟩ := client_of_ofService hside hlink
  obtain ⟨appState, seen, connection, bridge, toClient, toService, queue, mirror, isOpen⟩ := l
  obtain rfl : appState = s.appState conn.process := happ
  obtain rfl : queue = (s.parties conn.client).screens.commands := hqueue
  obtain rfl : mirror = (s.parties conn.client).screens.appState := hmirror
  obtain rfl : isOpen = s.commandsOpen := hopen
  rfl

/-! ## All connections -/

/-- What holds of the commands in every reachable state. -/
structure CommandsKept (codec : IpcCodec) (s : Desktop ι) (log : Log ι) : Prop where
  put : ∀ i, (log.taken i).map Prod.snd ++ (s.parties i).screens.commands = log.put i
  takenLt : ∀ i, ∀ x ∈ log.taken i, x.1 < s.connections.length
  takenLe : ∀ i c, (s.parties i).point.connection = some c → ∀ x ∈ log.taken i, x.1 ≤ c
  takenSorted : ∀ i, Sorted (log.taken i)
  channelLt : ∀ x ∈ log.channel, x.1 < s.accepted
  channelSorted : Sorted log.channel
  each : ∀ c conn, s.connections[c]? = some conn →
    ∃ handled pending, CommandsInv codec (s.link conn) (log.link c conn) handled pending

omit [DecidableEq ι] in
/-- A step that sends no command and opens no connection: the parties keep their commands and at
most leave their connection, and the ends of the connections go on as far as `each` needs it. -/
theorem CommandsKept.of_quiet {log' : Log ι} (h : CommandsKept codec s log)
    (hcommands : ∀ i, (t.parties i).screens.commands = (s.parties i).screens.commands)
    (hpoint : ∀ i c, (t.parties i).point.connection = some c →
      (s.parties i).point.connection = some c)
    (hlength : t.connections.length = s.connections.length) (haccepted : s.accepted ≤ t.accepted)
    (hput : log'.put = log.put) (htaken : log'.taken = log.taken)
    (hchannel : log'.channel = log.channel)
    (heach : ∀ c conn', t.connections[c]? = some conn' → ∃ conn, s.connections[c]? = some conn ∧
      conn'.client = conn.client ∧ ∀ handled pending,
        CommandsInv codec (s.link conn) (log.link c conn) handled pending →
        ∃ handled', CommandsInv codec (t.link conn') (log.link c conn) handled' pending) :
    CommandsKept codec t log' where
  put i := by rw [hput, htaken, hcommands]; exact h.put i
  takenLt i := by rw [htaken, hlength]; exact h.takenLt i
  takenLe i c hc := by rw [htaken]; exact h.takenLe i c (hpoint i c hc)
  takenSorted i := htaken ▸ h.takenSorted i
  channelLt x hx := by
    rw [hchannel] at hx
    exact (h.channelLt x hx).trans_le haccepted
  channelSorted := hchannel ▸ h.channelSorted
  each c conn' hconn' := by
    obtain ⟨conn, hconn, hclient, hinv⟩ := heach c conn' hconn'
    obtain ⟨handled, pending, hconnInv⟩ := h.each c conn hconn
    obtain ⟨handled', hinv'⟩ := hinv handled pending hconnInv
    refine ⟨handled', pending, commandsInv_congr hinv' rfl id rfl (fun hopen _ => hopen) ?_ ?_⟩
    · rw [Log.link, Log.link, htaken, hclient]
    · rw [Log.link, Log.link, hchannel]

/-- A party that keeps its commands. -/
theorem commands_setParty {i : ι} {party : Party}
    (h : party.screens.commands = (s.parties i).screens.commands) (j : ι) :
    ((s.setParty i party).parties j).screens.commands = (s.parties j).screens.commands := by
  by_cases hj : j = i
  · rw [hj, parties_setParty_self, h]
  · rw [parties_setParty_of_ne hj]

/-- A party that keeps its commands and keeps or leaves its connection. -/
theorem CommandsKept.setParty (h : CommandsKept codec s log) {i : ι} {party : Party}
    (hcommands : party.screens.commands = (s.parties i).screens.commands)
    (hpoint : ∀ c, party.point.connection = some c → (s.parties i).point.connection = some c) :
    CommandsKept codec (s.setParty i party) log :=
  h.of_quiet (commands_setParty hcommands) (kept_setParty hpoint).point rfl le_rfl rfl rfl rfl
    fun _ conn hconn => ⟨conn, hconn, rfl, fun handled _ hinv =>
      ⟨handled, commandsInv_congr hinv rfl id rfl (fun hopen _ => hopen) rfl rfl⟩⟩

/-- A client opens a connection. -/
theorem CommandsKept.connect (h : CommandsKept codec s log) (hwell : WellFormed s) (i : ι) :
    CommandsKept codec { s.setPoint i (.joined s.connections.length) with
      connections := s.connections ++ [.new i s.process] } log where
  put j := by
    have hj := screens_setPoint (s := s) i j (.joined s.connections.length)
    exact (congrArg (fun screens => _ ++ screens.commands) hj).trans (h.put j)
  takenLt j x hx := (h.takenLt j x hx).trans_le (by simp)
  takenLe j c hc x hx := by
    have hc : ((s.setPoint i (.joined s.connections.length)).parties j).point.connection =
      some c := hc
    by_cases hj : j = i
    · rw [hj, setPoint, parties_setParty_self] at hc
      obtain rfl := Option.some.inj hc
      exact (h.takenLt j x hx).le
    · rw [setPoint, parties_setParty_of_ne hj] at hc
      exact h.takenLe j c hc x hx
  takenSorted := h.takenSorted
  channelLt := h.channelLt
  channelSorted := h.channelSorted
  each c conn hconn := by
    rcases open_cases hconn with hold | ⟨rfl, rfl⟩
    · obtain ⟨handled, pending, hinv⟩ := h.each c conn hold
      exact ⟨handled, pending,
        commandsInv_congr hinv rfl id rfl (fun hopen _ => hopen) rfl rfl⟩
    -- nothing in the log is of the new connection
    · refine ⟨[], [], commandsInv_new ?_ ?_⟩
      · exact of_eq_nil_iff.mpr fun x hx => (h.takenLt i x hx).ne
      · exact of_eq_nil_iff.mpr fun x hx => ((h.channelLt x hx).trans_le hwell.accepted_le).ne

/-- The screens of a client add to its channel. -/
theorem exists_commands_append {cl cl' : Client} {a : ClientAction} (hside : a.ofScreens = true)
    (hm : cl.Moves cr a cl') : ∃ added, cl'.commands = cl.commands ++ added := by
  have hemit : ∀ (outputs : List TuiOutput) (cl : Client),
      ∃ added, (outputs.foldl Client.emit cl).commands = cl.commands ++ added := by
    intro outputs
    induction outputs with
    | nil => exact fun cl => ⟨[], (List.append_nil _).symm⟩
    | cons output outputs ih =>
      intro cl
      obtain ⟨added, hadded⟩ := ih (cl.emit output)
      rw [List.foldl_cons, hadded]
      cases output with
      | spawnService => exact ⟨added, rfl⟩
      | trySend cmd =>
        rw [Client.emit]
        split_ifs
        · exact ⟨cmd :: added, by simp⟩
        · exact ⟨added, rfl⟩
  cases hm with
  | sendAppState | sendServiceAvailable | recvCommand => cases hside
  | syncService | syncState | draw | poll | fail => exact ⟨[], (List.append_nil _).symm⟩
  | key hpoint key => exact hemit _ _

/-- What the screens add is put in the log. -/
theorem CommandsKept.setScreens (h : CommandsKept codec s log) {i : ι} {screens : Client}
    {added : List AppCommand}
    (hadded : screens.commands = (s.parties i).screens.commands ++ added) :
    CommandsKept codec (s.setScreens i screens)
      { log with put := Function.update log.put i (log.put i ++ added) } where
  put j := by
    dsimp only
    by_cases hj : j = i
    · subst hj
      rw [Desktop.setScreens, parties_setParty_self, hadded, Function.update_self,
        ← List.append_assoc, h.put]
    · rw [Desktop.setScreens, parties_setParty_of_ne hj, Function.update_of_ne hj]
      exact h.put j
  takenLt := h.takenLt
  takenLe j c hc :=
    have hkept : Kept s (s.setScreens i screens) := kept_setParty fun _ hc => hc
    h.takenLe j c (hkept.point j c hc)
  takenSorted := h.takenSorted
  channelLt := h.channelLt
  channelSorted := h.channelSorted
  each c conn hconn := by
    obtain ⟨handled, pending, hinv⟩ := h.each c conn hconn
    exact ⟨handled, pending, commandsInv_congr hinv rfl id rfl (fun hopen _ => hopen) rfl rfl⟩

/-- The bridge of a client takes a step, with what it takes from its channel. -/
theorem CommandsKept.setClientEnd (hcodec : codec.Lawful) (h : CommandsKept codec s log)
    (hwell : WellFormed s) {i : ι} {c : ℕ} {conn : Connection ι} {a : LinkAction} {l : Link}
    (hpoint : (s.parties i).point = .serving c) (hconn : s.connections[c]? = some conn)
    (hside : a.ofBridge = true) (hlink : (s.link conn).step codec a = some l) :
    CommandsKept codec (s.setClientEnd c conn l) { log with
      received := Function.update log.received c
        (log.received c ++ (news codec (s.link conn) a).received)
      taken := Function.update log.taken i
        (log.taken i ++ tagged c (news codec (s.link conn) a).taken) } := by
  obtain ⟨hpublished, henqueued, hqueue⟩ := news_of_ofBridge hside hlink
  obtain ⟨conn₀, hconn₀, hclient⟩ := hwell.current i c (by rw [hpoint]; rfl)
  obtain rfl := Option.some.inj (hconn.symm.trans hconn₀)
  have hlt := (List.getElem?_eq_some_iff.mp hconn).1
  have hle := h.takenLe i c (by rw [hpoint]; rfl)
  subst hclient
  have hparties : ∀ j, ((s.setClientEnd c conn l).parties j).point = (s.parties j).point ∧
      ((s.setClientEnd c conn l).parties j).screens.commands =
        if j = conn.client then l.commandQueue else (s.parties j).screens.commands := by
    intro j
    rw [Desktop.setClientEnd, Desktop.setScreens]
    split_ifs with hj
    · subst hj
      rw [parties_setParty_self]
      exact ⟨rfl, rfl⟩
    · rw [parties_setParty_of_ne hj]
      exact ⟨rfl, rfl⟩
  exact {
    put := fun j => by
      dsimp only
      rw [(hparties j).2]
      split_ifs with hj
      · subst hj
        rw [Function.update_self, List.map_append, map_snd_tagged, List.append_assoc, hqueue]
        exact h.put _
      · rw [Function.update_of_ne hj]
        exact h.put j
    takenLt := fun j x hx => by
      dsimp only at hx
      rw [Desktop.setClientEnd, Desktop.setScreens, Desktop.setParty, Desktop.setEnds,
        List.length_set]
      by_cases hj : j = conn.client
      · rw [hj, Function.update_self] at hx
        rcases List.mem_append.mp hx with hx | hx
        · exact h.takenLt _ x hx
        · rwa [fst_of_mem_tagged hx]
      · rw [Function.update_of_ne hj] at hx
        exact h.takenLt j x hx
    takenLe := fun j d hd x hx => by
      dsimp only at hx
      rw [(hparties j).1] at hd
      by_cases hj : j = conn.client
      · subst hj
        rw [hpoint] at hd
        obtain rfl := Option.some.inj hd
        rw [Function.update_self] at hx
        rcases List.mem_append.mp hx with hx | hx
        · exact hle x hx
        · exact (fst_of_mem_tagged hx).le
      · rw [Function.update_of_ne hj] at hx
        exact h.takenLe j d hd x hx
    takenSorted := fun j => by
      dsimp only
      by_cases hj : j = conn.client
      · subst hj
        rw [Function.update_self]
        exact (h.takenSorted _).append_tagged hle _
      · rw [Function.update_of_ne hj]
        exact h.takenSorted j
    channelLt := h.channelLt
    channelSorted := h.channelSorted
    each := fun d conn' hconn' => by
      rcases setEnds_cases (s := s) hconn' with ⟨rfl, rfl⟩ | ⟨hd, hold⟩
      -- the connection goes on as its link does
      · obtain ⟨handled, pending, hinv⟩ := h.each d conn hconn
        obtain ⟨handled', pending', hinv'⟩ := commandsInv_step hcodec hinv hlink
        rw [link_setClientEnd hside hlink]
        refine ⟨handled', pending', commandsInv_congr hinv' rfl id rfl (fun hopen _ => hopen) ?_ ?_⟩
        · rw [after_eq_append]
          simp [Log.link, Connection.withEnds]
        · rw [after_eq_append, henqueued]
          simp [Log.link]
      -- what was taken is none of another connection
      · obtain ⟨handled, pending, hinv⟩ := h.each d conn' hold
        refine ⟨handled, pending, commandsInv_congr hinv rfl id rfl (fun hopen _ => hopen) ?_ rfl⟩
        dsimp only [Log.link]
        by_cases hclient : conn'.client = conn.client
        · rw [hclient, Function.update_self, of_append, of_tagged_of_ne hd.symm, List.append_nil]
        · rw [Function.update_of_ne hclient] }

omit [DecidableEq ι] in
/-- The connection that is handled takes a step, with what it enqueues. -/
theorem CommandsKept.setEnds (hcodec : codec.Lawful) (h : CommandsKept codec s log)
    (hwell : WellFormed s) {c : ℕ} {conn : Connection ι} {a : LinkAction} {l : Link}
    (hserver : s.server = .handling c) (hconn : s.connections[c]? = some conn)
    (hside : a.ofService = true) (hlink : (s.link conn).step codec a = some l) :
    CommandsKept codec (s.setEnds c conn l) { log with
      channel := log.channel ++ tagged c (news codec (s.link conn) a).enqueued } := by
  obtain ⟨hpublished, hreceived, htaken⟩ := news_of_ofService codec (s.link conn) hside
  obtain ⟨hsucc, -⟩ := hwell.handled c hserver
  exact {
    put := h.put
    takenLt := fun j x hx => by
      rw [Desktop.setEnds, List.length_set]
      exact h.takenLt j x hx
    takenLe := h.takenLe
    takenSorted := h.takenSorted
    channelLt := fun x hx => by
      rcases List.mem_append.mp hx with hx | hx
      · exact h.channelLt x hx
      · rw [fst_of_mem_tagged hx]
        exact Nat.lt_of_succ_le hsucc.le
    channelSorted := h.channelSorted.append_tagged (fun x hx => by
      have hlt := h.channelLt x hx
      omega) _
    each := fun d conn' hconn' => by
      rcases setEnds_cases hconn' with ⟨rfl, rfl⟩ | ⟨hd, hold⟩
      · obtain ⟨handled, pending, hinv⟩ := h.each d conn hconn
        obtain ⟨handled', pending', hinv'⟩ := commandsInv_step hcodec hinv hlink
        rw [link_setEnds hside hlink]
        refine ⟨handled', pending', commandsInv_congr hinv' rfl id rfl (fun hopen _ => hopen) ?_ ?_⟩
        · rw [after_eq_append, htaken]
          simp [Log.link, Connection.withEnds]
        · rw [after_eq_append]
          simp [Log.link]
      · obtain ⟨handled, pending, hinv⟩ := h.each d conn' hold
        refine ⟨handled, pending, commandsInv_congr hinv rfl id rfl (fun hopen _ => hopen) rfl ?_⟩
        simp [Log.link, of_tagged_of_ne hd.symm] }

omit [DecidableEq ι] in
theorem commandsKept_start : CommandsKept codec (start : Desktop ι) Log.start where
  put _ := rfl
  takenLt _ := nofun
  takenLe _ _ := nofun
  takenSorted _ := sorted_nil
  channelLt := nofun
  channelSorted := sorted_nil
  each _ _ := nofun

theorem commandsKept_step (hcodec : codec.Lawful) (h : CommandsKept codec s log)
    (hwell : WellFormed s) (hm : Moves codec cr s a t) :
    CommandsKept codec t (log.after codec s a t) := by
  cases hm with
  | connect => exact h.connect hwell _
  | @quit i =>
    have hkept : Kept s (s.setPoint i .ended) := kept_setParty nofun
    refine h.of_quiet (fun j => congrArg Client.commands (screens_setPoint i j .ended)) hkept.point
      (length_closeClientEnd _) le_rfl rfl rfl rfl fun c conn' hconn' => ?_
    -- the connection is left as if the bridge had closed it
    obtain ⟨conn, hconn, rfl | ⟨-, rfl⟩⟩ := closeClientEnd_cases hconn'
    · exact ⟨conn', hconn, rfl, fun handled _ hinv =>
        ⟨handled, commandsInv_congr hinv rfl id rfl (fun hopen _ => hopen) rfl rfl⟩⟩
    · exact ⟨conn, hconn, rfl, fun handled _ hinv =>
        ⟨handled, commandsInv_congr hinv rfl nofun rfl (fun hopen _ => hopen) rfl rfl⟩⟩
  | startTui => exact h.setParty rfl fun c hc => hc
  | sendUnavailable | sendDefault | leaveInner => exact h.setParty rfl nofun
  | sendAvailable hpoint =>
    refine h.setParty rfl fun c hc => ?_
    rw [hpoint]
    exact hc
  | screens hstarted hside hclient =>
    obtain ⟨added, hadded⟩ := exists_commands_append hside (Client.moves_of_step hclient)
    rw [Log.after]
    simp only [Desktop.setScreens, parties_setParty_self, hadded, List.drop_left]
    exact h.setScreens hadded
  | bridge hpoint hconn hside hlink =>
    rw [log_after_bridge hpoint hconn]
    exact h.setClientEnd hcodec hwell hpoint hconn hside hlink
  | serve hserver hconn hside hlink =>
    rw [log_after_serve hserver hconn]
    exact h.setEnds hcodec hwell hserver hconn hside hlink
  | publish | accept | leave =>
    exact h.of_quiet (fun _ => rfl) (fun _ _ hc => hc) rfl (by simp) rfl rfl rfl
      fun _ conn hconn => ⟨conn, hconn, rfl, fun handled _ hinv =>
        ⟨handled, commandsInv_congr hinv rfl id rfl (fun hopen _ => hopen) rfl rfl⟩⟩
  | dropReceiver =>
    exact h.of_quiet (fun _ => rfl) (fun _ _ hc => hc) rfl le_rfl rfl rfl rfl
      fun _ conn hconn => ⟨conn, hconn, rfl, fun handled _ hinv =>
        ⟨handled, commandsInv_congr hinv rfl id rfl nofun rfl rfl⟩⟩
  | endService =>
    refine h.of_quiet (fun _ => rfl) (fun _ _ hc => hc) (List.length_map ..) hwell.accepted_le rfl
      rfl rfl fun c conn' hconn' => ?_
    obtain ⟨conn, hconn, rfl⟩ :=
      Option.map_eq_some_iff.mp ((List.getElem?_map ..).symm.trans hconn')
    exact ⟨conn, hconn, rfl, fun handled _ hinv =>
      ⟨_, commandsInv_congr hinv.close rfl id rfl nofun rfl rfl⟩⟩
  | startService hdown =>
    refine h.of_quiet (fun _ => rfl) (fun _ _ hc => hc) rfl le_rfl rfl rfl rfl
      fun c conn hconn => ⟨conn, hconn, rfl, fun handled _ hinv =>
        ⟨handled, commandsInv_congr hinv rfl id rfl (fun _ hopen => absurd ?_ hopen) rfl rfl⟩⟩
    -- no connection to another process is open
    refine hwell.closed c conn hconn ?_ (by rw [hdown]; exact nofun)
    rw [hwell.down hdown]
    exact (List.getElem?_eq_some_iff.mp hconn).1

theorem commandsKept_of_reachable (hcodec : codec.Lawful) {p : Desktop ι × Log ι}
    (h : (withLog codec cr).Reachable p) : CommandsKept codec p.1 p.2 := by
  have hinv : WellFormed p.1 ∧ CommandsKept codec p.1 p.2 := by
    refine h.invariant_withHistory (I := fun s log => WellFormed s ∧ CommandsKept codec s log) ?_ ?_
    · rintro _ rfl
      exact ⟨wellFormed_start, commandsKept_start⟩
    · rintro s log a t ⟨hwell, hkept⟩ - hst
      have hm := moves_of_step hst
      exact ⟨wellFormed_step hwell hm, commandsKept_step hcodec hkept hwell hm⟩
  exact hinv.2

/-! ## What arrives -/

/-- The connection was opened by the client. -/
def openedBy (s : Desktop ι) (i : ι) (c : ℕ) : Bool := s.connections[c]?.any (·.client = i)

/-- The commands in the channel of the service that came from a client. -/
def Log.channelOf (log : Log ι) (s : Desktop ι) (i : ι) : List AppCommand :=
  (log.channel.filter fun x => s.openedBy i x.1).map Prod.snd

/-- In every run, with any number of clients, of connections that break and of processes of the
service that end: the screens put commands in the channel of their client, of which its bridge takes
the first ones; the commands of a client reach the channel of the service in this order, and none of
them twice; those that are taken for one connection reach it from the first one on; and those of a
connection reach it before those of every later one. -/
theorem commands_arrive (hcodec : codec.Lawful) {p : Desktop ι × Log ι}
    (h : (withLog codec cr).Reachable p) :
    (∀ i, (p.2.taken i).map Prod.snd ++ (p.1.parties i).screens.commands = p.2.put i) ∧
    (∀ i, (p.2.channelOf p.1 i).Sublist (p.2.put i)) ∧
    (∀ (c : ℕ) conn, p.1.connections[c]? = some conn →
      of c p.2.channel <+: of c (p.2.taken conn.client)) ∧
    Sorted p.2.channel := by
  have hkept := commandsKept_of_reachable hcodec h
  have hprefix : ∀ (c : ℕ) conn, p.1.connections[c]? = some conn →
      of c p.2.channel <+: of c (p.2.taken conn.client) := fun c conn hconn => by
    obtain ⟨handled, pending, hinv⟩ := hkept.each c conn hconn
    exact hinv.enqueued_isPrefix
  refine ⟨hkept.put, fun i => ?_, hprefix, hkept.channelSorted⟩
  have htaken : (p.2.channelOf p.1 i).Sublist ((p.2.taken i).map Prod.snd) := by
    refine sublist_of_isPrefix (hkept.channelSorted.filter _) (hkept.takenSorted i) fun c => ?_
    rw [of_filter (p.1.openedBy i)]
    split_ifs with hclient
    · obtain ⟨conn, hconn, rfl⟩ : ∃ conn, p.1.connections[c]? = some conn ∧ conn.client = i := by
        simpa [openedBy, Option.any_eq_true] using hclient
      exact hprefix c conn hconn
    · exact List.nil_prefix
  exact htaken.trans ((hkept.put i) ▸ List.sublist_append_left ..)

namespace Sample

/-- A client joins, and is served with the initial state. -/
def joinRun : List (Action Unit) :=
  [.startService, .connect (), .sendAvailable (), .accept, .serve .sendInitial,
    .serve (.serviceWrites 400), .serve .serviceWritten]

/-- Its screens start a scan. -/
def scanRun : List (Action Unit) := (roundWith .down ++ roundWith .enter).map (.screens ())

/-- The service ends, and the client goes back to its home screen. -/
def lossRun : List (Action Unit) :=
  [.endService, .bridge () .bridgeCloses, .leaveInner (), .sendUnavailable (), .sendDefault ()] ++
    (roundWith .other).map (.screens ())

/-- The bridge sends a command, which the service reads. -/
def deliverRun : List (Action Unit) :=
  [.bridge () .takeCommand, .bridge () (.bridgeWrites 50), .bridge () .bridgeWritten,
    .serve (.serviceReads 50), .serve .recvCommand, .serve .enqueue]

/-- The service ends when the first scan is under way, and the second one reaches the next. -/
def commandsRun : List (Action Unit) :=
  joinRun ++ [.startTui ()] ++ scanRun ++ [.bridge () .takeCommand] ++ lossRun ++ joinRun ++
    scanRun ++ deliverRun

end Sample

/-- One of two scans reaches the service. -/
theorem commands_arrive_sample : ∃ p : Desktop Unit × Log Unit,
    p.2.put () = [.scanForDevices, .scanForDevices] ∧ p.2.channel = [(1, .scanForDevices)] ∧
    (p.2.channelOf p.1 ()).Sublist (p.2.put ()) := by
  have hrun : ((withLog Ipc.Sample.codec sampleTuiCrates).replay (fun _ _ => True)
      (start, Log.start) Sample.commandsRun).map (fun p => (p.2.put (), p.2.channel)) =
      some ([.scanForDevices, .scanForDevices], [(1, .scanForDevices)]) := by
    decide +kernel
  obtain ⟨p, hp, hlog⟩ := Option.map_eq_some_iff.mp hrun
  obtain ⟨hput, hchannel⟩ := Prod.mk.inj hlog
  have hinit : (withLog Ipc.Sample.codec sampleTuiCrates).Init (start, (Log.start : Log Unit)) :=
    ⟨rfl, rfl⟩
  exact ⟨p, hput, hchannel, (commands_arrive Ipc.Sample.codec_lawful
    (.of_replay Sample.commandsRun (.init hinit) hp)).2.1 ()⟩

end Desktop

end ToothPaste
