import ToothPaste.Desktop.Commands

/-!
# What the clients are shown

The two watch channels of a client over all of its connections, to whichever process of the service.

* `shown_faithful`: a client without a connection is told so and shows the default state; with one
  it shows the last state that came over this connection, and at rest the current one of the
  service.
* `served_in_turn`: one client is served at a time; the others are told that the service is
  available, show the default state, and none of their commands is enqueued.
-/

namespace ToothPaste

namespace Desktop

open Ipc Tui Tagged

variable {ι : Type} [DecidableEq ι] {codec : IpcCodec} {cr : TuiCrates} {s t : Desktop ι}
  {log : Log ι} {a : Action ι}

/-! ## One connection -/

/-- What the law about the states of a link depends on. -/
theorem statesInv_congr {l l' : Link} {lg lg' : LinkLog} {got pending : List (ℕ × AppState)}
    (h : StatesInv codec l lg got pending) (happ : l'.appState = l.appState)
    (hseen : l'.seen = l.seen) (hconnection : l'.connection = l.connection)
    (htoClient : l'.toClient = l.toClient) (hmirror : l'.mirror.value = l.mirror.value)
    (hpublished : lg'.published = lg.published) (hreceived : lg'.received = lg.received) :
    StatesInv codec l' lg' got pending where
  length := by rw [hpublished, happ]; exact h.length
  current := by rw [hpublished, happ]; exact h.current
  seen_le := by rw [hseen, happ]; exact h.seen_le
  got_eq := hreceived ▸ h.got_eq
  holds := htoClient ▸ h.holds
  published := hpublished ▸ h.published
  ordered := h.ordered
  last := by rw [hconnection, hseen]; exact h.last
  idle := by rw [hconnection, htoClient]; exact h.idle
  mirrored := by rw [hmirror]; exact h.mirrored

/-- The end of the service is closed. -/
theorem statesInv_close {l : Link} {lg : LinkLog} {got pending : List (ℕ × AppState)}
    (h : StatesInv codec l lg got pending) :
    StatesInv codec { l with connection := .closed } lg got pending :=
  { h with
    last := fun _ hclosed => absurd rfl hclosed
    idle := fun _ hclosed => absurd rfl hclosed }

/-- The client's channel is sent what is received, and nothing else. -/
theorem mirror_of_news {l l' : Link} {a : LinkAction} (hside : a.ofBridge = true)
    (h : l.step codec a = some l') (hnews : (news codec l a).received = []) :
    l'.mirror = l.mirror := by
  cases Link.moves_of_step h with
  | @recvState line toClient hphase htake =>
    have hnext : l.nextState codec = none := by simpa [news, LinkLog.after] using hnews
    rw [Link.nextState, htake, Option.bind_some] at hnext
    unfold Link.mirrorLine
    split
    case h_2 newState hread => rw [hread] at hnext; cases hnext
    · rfl
    · rfl
  | takeCommand | bridgeWrites | bridgeWritten | bridgeReads | bridgeCloses => rfl
  | _ => cases hside

/-- Nothing is read from a stream on which nothing is. -/
theorem untouched_of_ofBridge {l l' : Link} {a : LinkAction} (hside : a.ofBridge = true)
    (h : l.step codec a = some l') (hempty : l.toClient = .empty) :
    l'.toClient = .empty ∧ (news codec l a).received = [] := by
  cases Link.moves_of_step h with
  | @recvState line toClient hphase htake => rw [hempty] at htake; cases htake
  | takeCommand | bridgeWrites | bridgeWritten | bridgeCloses => exact ⟨hempty, rfl⟩
  | bridgeReads n => exact ⟨by simp [hempty, LineStream.pull, LineStream.empty], rfl⟩
  | _ => cases hside

/-! ## All connections -/

/-- What holds of the states in every reachable state. -/
structure StatesKept (codec : IpcCodec) (s : Desktop ι) (log : Log ι) : Prop where
  published : ∀ n, (log.published n).length = (s.appState n).version + 1 ∧
    (log.published n)[(s.appState n).version]? = some (s.appState n).value
  opened : ∀ c, s.connections.length ≤ c → log.received c = []
  untouched : ∀ c conn, s.connections[c]? = some conn → conn.phase = .accepted →
    conn.toClient = .empty ∧ log.received c = []
  current : ∀ i c conn, (s.parties i).point.connection = some c → s.connections[c]? = some conn →
    ∃ got pending, StatesInv codec (s.link conn) (log.link c conn) got pending
  fresh : ∀ i c, (s.parties i).point.connection = some c → log.received c = [] →
    (s.parties i).screens.appState.value = AppState.default
  reset : ∀ i, (s.parties i).point = .starting ∨ (s.parties i).point = .retrying →
    (s.parties i).screens.appState.value = AppState.default
  available : ∀ i c, (s.parties i).point = .serving c →
    (s.parties i).screens.serviceAvailable.value = true
  unavailable : ∀ i, (s.parties i).point = .resetting ∨ (s.parties i).point = .retrying →
    (s.parties i).screens.serviceAvailable.value = false

omit [DecidableEq ι] in
theorem statesKept_start : StatesKept codec (start : Desktop ι) Log.start where
  published _ := ⟨rfl, rfl⟩
  opened _ _ := rfl
  untouched _ _ := nofun
  current _ _ _ := nofun
  fresh _ _ := nofun
  reset _ _ := rfl
  available _ _ := nofun
  unavailable _ h := by rcases h with h | h <;> cases h

/-- A party that keeps or leaves its connection, and its state if it keeps it. -/
theorem StatesKept.setParty (h : StatesKept codec s log) (hwell : WellFormed s) {i : ι}
    {party : Party}
    (hpoint : ∀ c, party.point.connection = some c → (s.parties i).point.connection = some c ∧
      party.screens.appState.value = (s.parties i).screens.appState.value)
    (hreset : party.point = .starting ∨ party.point = .retrying →
      party.screens.appState.value = AppState.default)
    (havailable : ∀ c, party.point = .serving c → party.screens.serviceAvailable.value = true)
    (hunavailable : party.point = .resetting ∨ party.point = .retrying →
      party.screens.serviceAvailable.value = false) :
    StatesKept codec (s.setParty i party) log where
  published := h.published
  opened := h.opened
  untouched := h.untouched
  current j c conn hc hconn := by
    by_cases hj : j = i
    · subst hj
      rw [parties_setParty_self] at hc
      obtain ⟨hold, hmirror⟩ := hpoint c hc
      obtain ⟨conn₀, hconn₀, hclient⟩ := hwell.current j c hold
      obtain rfl := Option.some.inj (hconn.symm.trans hconn₀)
      obtain ⟨got, pending, hinv⟩ := h.current j c conn hold hconn
      refine ⟨got, pending, statesInv_congr hinv rfl rfl rfl rfl ?_ rfl rfl⟩
      rw [link, link, hclient, parties_setParty_self, hmirror]
    · rw [parties_setParty_of_ne hj] at hc
      obtain ⟨conn₀, hconn₀, hclient⟩ := hwell.current j c hc
      obtain rfl := Option.some.inj (hconn.symm.trans hconn₀)
      obtain ⟨got, pending, hinv⟩ := h.current j c conn hc hconn
      refine ⟨got, pending, statesInv_congr hinv rfl rfl rfl rfl ?_ rfl rfl⟩
      rw [link, link, hclient, parties_setParty_of_ne hj]
  fresh j c hc hreceived := by
    by_cases hj : j = i
    · subst hj
      rw [parties_setParty_self] at hc ⊢
      obtain ⟨hold, hmirror⟩ := hpoint c hc
      rw [hmirror, h.fresh j c hold hreceived]
    · rw [parties_setParty_of_ne hj] at hc ⊢
      exact h.fresh j c hc hreceived
  reset j hj' := by
    by_cases hj : j = i
    · subst hj
      rw [parties_setParty_self] at hj' ⊢
      exact hreset hj'
    · rw [parties_setParty_of_ne hj] at hj' ⊢
      exact h.reset j hj'
  available j c hc := by
    by_cases hj : j = i
    · subst hj
      rw [parties_setParty_self] at hc ⊢
      exact havailable c hc
    · rw [parties_setParty_of_ne hj] at hc ⊢
      exact h.available j c hc
  unavailable j hj' := by
    by_cases hj : j = i
    · subst hj
      rw [parties_setParty_self] at hj' ⊢
      exact hunavailable hj'
    · rw [parties_setParty_of_ne hj] at hj' ⊢
      exact h.unavailable j hj'

omit [DecidableEq ι] in
/-- The connections change in what the law about the states does not depend on, or are closed. -/
theorem StatesKept.of_connections (h : StatesKept codec s log) {connections : List (Connection ι)}
    {accepted process : ℕ} {server : ServerPoint} {tuiConnected commandsOpen : Bool}
    (hlength : connections.length = s.connections.length)
    (hends : ∀ (c : ℕ) conn', connections[c]? = some conn' → ∃ conn, s.connections[c]? = some conn ∧
      conn'.client = conn.client ∧ conn'.process = conn.process ∧ conn'.seen = conn.seen ∧
      conn'.toClient = conn.toClient ∧ (conn'.phase = conn.phase ∨ conn'.phase = .closed)) :
    StatesKept codec { s with connections, accepted, process, server, tuiConnected, commandsOpen }
      log where
  published := h.published
  opened c hc := h.opened c (hlength ▸ hc)
  untouched c conn' hconn' hphase := by
    obtain ⟨conn, hconn, -, -, -, htoClient, hcases⟩ := hends c conn' hconn'
    rw [hphase] at hcases
    rcases hcases with hcases | hcases
    · rw [htoClient]
      exact h.untouched c conn hconn hcases.symm
    · cases hcases
  current i c conn' hc hconn' := by
    obtain ⟨conn, hconn, hclient, hprocess, hseen, htoClient, hcases⟩ := hends c conn' hconn'
    obtain ⟨got, pending, hinv⟩ := h.current i c conn hc hconn
    have hmirror : (s.link conn').mirror.value = (s.link conn).mirror.value := by
      rw [link, link, hclient]
    have happ : (s.link conn').appState = (s.link conn).appState := by rw [link, link, hprocess]
    have hpublished : (log.link c conn').published = (log.link c conn).published := by
      rw [Log.link, Log.link, hprocess]
    rcases hcases with hphase | hphase
    · exact ⟨got, pending,
        statesInv_congr hinv happ hseen hphase htoClient hmirror hpublished rfl⟩
    · exact ⟨got, pending, statesInv_congr (statesInv_close hinv) happ hseen hphase htoClient
        hmirror hpublished rfl⟩
  fresh := h.fresh
  reset := h.reset
  available := h.available
  unavailable := h.unavailable

/-- A client opens a connection. -/
theorem StatesKept.connect (h : StatesKept codec s log) (hwell : WellFormed s) {i : ι}
    (hpoint : (s.parties i).point = .starting ∨ (s.parties i).point = .retrying) :
    StatesKept codec { s.setPoint i (.joined s.connections.length) with
      connections := s.connections ++ [.new i s.process] } log where
  published := h.published
  opened c hc := h.opened c (by
    have hc : (s.connections ++ [Connection.new i s.process]).length ≤ c := hc
    simp only [List.length_append, List.length_singleton] at hc
    omega)
  untouched c conn hconn hphase := by
    rcases open_cases hconn with hold | ⟨rfl, rfl⟩
    · exact h.untouched c conn hold hphase
    · exact ⟨rfl, h.opened _ le_rfl⟩
  current j c conn hc hconn := by
    have hc : ((s.setPoint i (.joined s.connections.length)).parties j).point.connection =
      some c := hc
    by_cases hj : j = i
    · subst hj
      rw [setPoint, parties_setParty_self] at hc
      obtain rfl := Option.some.inj hc
      rcases open_cases hconn with hold | ⟨-, rfl⟩
      · exact absurd (List.getElem?_eq_some_iff.mp hold).1 (lt_irrefl _)
      -- nothing has come over the new connection
      · refine ⟨[], [], ?_⟩
        exact {
          length := (h.published s.process).1
          current := (h.published s.process).2
          seen_le := Nat.zero_le _
          got_eq := (h.opened _ le_rfl).symm
          holds := LineStream.holds_empty
          published := fun x hx => absurd hx List.not_mem_nil
          ordered := .nil
          last := fun haccepted => absurd rfl haccepted
          idle := fun _ _ => rfl
          mirrored := fun x hx => absurd hx (Option.not_mem_none x) }
    · rw [setPoint, parties_setParty_of_ne hj] at hc
      obtain ⟨conn₀, hconn₀, -⟩ := hwell.current j c hc
      obtain rfl := Option.some.inj (hconn.symm.trans (getElem?_open hconn₀ _))
      obtain ⟨got, pending, hinv⟩ := h.current j c conn hc hconn₀
      refine ⟨got, pending, statesInv_congr hinv rfl rfl rfl rfl ?_ rfl rfl⟩
      exact congrArg (·.appState.value) (screens_setPoint (s := s) i conn.client _)
  fresh j c hc hreceived := by
    have hc : ((s.setPoint i (.joined s.connections.length)).parties j).point.connection =
      some c := hc
    refine (congrArg (·.appState.value) (screens_setPoint (s := s) i j _)).trans ?_
    by_cases hj : j = i
    · exact hj ▸ h.reset i hpoint
    · rw [setPoint, parties_setParty_of_ne hj] at hc
      exact h.fresh j c hc hreceived
  reset j hj' := by
    have hj' : ((s.setPoint i (.joined s.connections.length)).parties j).point = .starting ∨
      ((s.setPoint i (.joined s.connections.length)).parties j).point = .retrying := hj'
    refine (congrArg (·.appState.value) (screens_setPoint (s := s) i j _)).trans ?_
    by_cases hj : j = i
    · exact hj ▸ h.reset i hpoint
    · rw [setPoint, parties_setParty_of_ne hj] at hj'
      exact h.reset j hj'
  available j c hc := by
    have hc : ((s.setPoint i (.joined s.connections.length)).parties j).point = .serving c := hc
    refine (congrArg (·.serviceAvailable.value) (screens_setPoint (s := s) i j _)).trans ?_
    by_cases hj : j = i
    · rw [hj, setPoint, parties_setParty_self] at hc
      cases hc
    · rw [setPoint, parties_setParty_of_ne hj] at hc
      exact h.available j c hc
  unavailable j hj' := by
    have hj' : ((s.setPoint i (.joined s.connections.length)).parties j).point = .resetting ∨
      ((s.setPoint i (.joined s.connections.length)).parties j).point = .retrying := hj'
    refine (congrArg (·.serviceAvailable.value) (screens_setPoint (s := s) i j _)).trans ?_
    by_cases hj : j = i
    · rw [hj, setPoint, parties_setParty_self] at hj'
      rcases hj' with ⟨⟨⟩⟩ | ⟨⟨⟩⟩
    · rw [setPoint, parties_setParty_of_ne hj] at hj'
      exact h.unavailable j hj'

/-- The bridge of a client takes a step, with what it receives. -/
theorem StatesKept.setClientEnd (hcodec : codec.Lawful) (h : StatesKept codec s log)
    (hwell : WellFormed s) {i : ι} {c : ℕ} {conn : Connection ι} {a : LinkAction} {l : Link}
    (hpoint : (s.parties i).point = .serving c) (hconn : s.connections[c]? = some conn)
    (hside : a.ofBridge = true) (hlink : (s.link conn).step codec a = some l)
    (taken : ι → List (ℕ × AppCommand)) :
    StatesKept codec (s.setClientEnd c conn l) { log with
      received := Function.update log.received c
        (log.received c ++ (news codec (s.link conn) a).received)
      taken } := by
  obtain ⟨conn₀, hconn₀, hclient⟩ := hwell.current i c (by rw [hpoint]; rfl)
  obtain rfl := Option.some.inj (hconn.symm.trans hconn₀)
  subst hclient
  obtain ⟨hpublished, -, -⟩ := news_of_ofBridge hside hlink
  obtain ⟨-, -, hphase, -⟩ := service_of_ofBridge hside hlink
  have hself : (s.setClientEnd c conn l).parties conn.client = { s.parties conn.client with
      screens := { (s.parties conn.client).screens with
        commands := l.commandQueue, appState := l.mirror } } :=
    parties_setParty_self ..
  have hothers : ∀ j, j ≠ conn.client → (s.setClientEnd c conn l).parties j = s.parties j :=
    fun j hj => parties_setParty_of_ne (s := s.setEnds c conn l) hj _
  have hpoints : ∀ j, ((s.setClientEnd c conn l).parties j).point = (s.parties j).point :=
    fun j => by
      by_cases hj : j = conn.client
      · rw [hj, hself]
      · rw [hothers j hj]
  have havailable : ∀ j, ((s.setClientEnd c conn l).parties j).screens.serviceAvailable =
      (s.parties j).screens.serviceAvailable := fun j => by
    by_cases hj : j = conn.client
    · rw [hj, hself]
    · rw [hothers j hj]
  have hlength : (s.setClientEnd c conn l).connections.length = s.connections.length :=
    List.length_set
  exact {
    published := h.published
    opened := fun d hd => by
      rw [hlength] at hd
      have hlt := (List.getElem?_eq_some_iff.mp hconn).1
      dsimp only
      rw [Function.update_of_ne (by omega)]
      exact h.opened d hd
    untouched := fun d conn' hconn' haccepted => by
      dsimp only
      rcases setEnds_cases (s := s) hconn' with ⟨rfl, rfl⟩ | ⟨hd, hold⟩
      · obtain ⟨hempty, hreceived⟩ := h.untouched d conn hconn (hphase.symm.trans haccepted)
        obtain ⟨hempty', hnews⟩ := untouched_of_ofBridge hside hlink hempty
        rw [Function.update_self, hreceived, hnews]
        exact ⟨hempty', rfl⟩
      · rw [Function.update_of_ne hd]
        exact h.untouched d conn' hold haccepted
    current := fun j d conn' hc hconn' => by
      rw [hpoints] at hc
      rcases setEnds_cases (s := s) hconn' with ⟨rfl, rfl⟩ | ⟨hd, hold⟩
      -- the connection goes on as its link does
      · obtain ⟨got, pending, hinv⟩ := h.current j d conn hc hconn
        obtain ⟨got', pending', hinv'⟩ := statesInv_step hcodec hinv hlink
        rw [link_setClientEnd hside hlink]
        refine ⟨got', pending', statesInv_congr hinv' rfl rfl rfl rfl rfl ?_ ?_⟩
        · rw [after_eq_append, hpublished, List.append_nil]
          rfl
        · rw [after_eq_append]
          simp [Log.link]
      -- it is not the one of this client
      · obtain ⟨conn₁, hconn₁, hclient₁⟩ := hwell.current j d hc
        obtain rfl := Option.some.inj (hold.symm.trans hconn₁)
        have hj : conn'.client ≠ conn.client := by
          rintro heq
          rw [← hclient₁, heq, hpoint] at hc
          exact hd (Option.some.inj hc).symm
        obtain ⟨got, pending, hinv⟩ := h.current j d conn' hc hold
        refine ⟨got, pending, statesInv_congr hinv rfl rfl rfl rfl ?_ rfl ?_⟩
        · rw [link, link, hothers _ hj]
        · dsimp only [Log.link]
          rw [Function.update_of_ne hd]
    fresh := fun j d hc hreceived => by
      rw [hpoints] at hc
      dsimp only at hreceived
      by_cases hj : j = conn.client
      · subst hj
        rw [hpoint] at hc
        obtain rfl := Option.some.inj hc
        rw [Function.update_self, List.append_eq_nil_iff] at hreceived
        rw [hself]
        exact (congrArg Watch.value (mirror_of_news hside hlink hreceived.2)).trans
          (h.fresh _ _ (by rw [hpoint]; rfl) hreceived.1)
      · obtain ⟨conn₁, hconn₁, hclient₁⟩ := hwell.current j d hc
        have hd : d ≠ c := by
          rintro rfl
          obtain rfl := Option.some.inj (hconn.symm.trans hconn₁)
          exact hj hclient₁.symm
        rw [Function.update_of_ne hd] at hreceived
        rw [hothers j hj]
        exact h.fresh j d hc hreceived
    reset := fun j hj' => by
      rw [hpoints] at hj'
      have hj : j ≠ conn.client := by
        rintro rfl
        rw [hpoint] at hj'
        rcases hj' with ⟨⟨⟩⟩ | ⟨⟨⟩⟩
      rw [hothers j hj]
      exact h.reset j hj'
    available := fun j d hd => by
      rw [hpoints] at hd
      rw [havailable]
      exact h.available j d hd
    unavailable := fun j hj' => by
      rw [hpoints] at hj'
      rw [havailable]
      exact h.unavailable j hj' }

/-- No step of `handle_connection` goes back to before the initial snapshot. -/
theorem connection_ne_accepted {l l' : Link} {a : LinkAction} (hside : a.ofService = true)
    (h : l.step codec a = some l') : l'.connection ≠ .accepted := by
  cases Link.moves_of_step h with
  | @recvCommand line toService hphase =>
    unfold Link.handleLine
    split
    · exact nofun
    · exact nofun
    · rw [hphase]
      exact nofun
  | serviceWrites n hphase | serviceReads n hphase => rw [hphase]; exact nofun
  | sendInitial | sendChanged | enqueue | serviceWritten | serviceCloses => exact nofun
  | _ => cases hside

omit [DecidableEq ι] in
/-- The connection that is handled takes a step. -/
theorem StatesKept.setEnds (hcodec : codec.Lawful) (h : StatesKept codec s log)
    {c : ℕ} {conn : Connection ι} {a : LinkAction} {l : Link}
    (hconn : s.connections[c]? = some conn) (hside : a.ofService = true)
    (hlink : (s.link conn).step codec a = some l) (channel : List (ℕ × AppCommand)) :
    StatesKept codec (s.setEnds c conn l) { log with channel } := by
  obtain ⟨hpublished, hreceived, -⟩ := news_of_ofService codec (s.link conn) hside
  exact {
    published := h.published
    opened := fun d hd => h.opened d (by rwa [Desktop.setEnds, List.length_set] at hd)
    untouched := fun d conn' hconn' haccepted => by
      rcases setEnds_cases (s := s) hconn' with ⟨rfl, rfl⟩ | ⟨hd, hold⟩
      · exact absurd haccepted (connection_ne_accepted hside hlink)
      · exact h.untouched d conn' hold haccepted
    current := fun j d conn' hc hconn' => by
      rcases setEnds_cases (s := s) hconn' with ⟨rfl, rfl⟩ | ⟨hd, hold⟩
      · obtain ⟨got, pending, hinv⟩ := h.current j d conn hc hconn
        obtain ⟨got', pending', hinv'⟩ := statesInv_step hcodec hinv hlink
        rw [link_setEnds hside hlink]
        refine ⟨got', pending', statesInv_congr hinv' rfl rfl rfl rfl rfl ?_ ?_⟩
        · rw [after_eq_append, hpublished, List.append_nil]
          rfl
        · rw [after_eq_append, hreceived, List.append_nil]
          rfl
      · obtain ⟨got, pending, hinv⟩ := h.current j d conn' hc hold
        exact ⟨got, pending, statesInv_congr hinv rfl rfl rfl rfl rfl rfl rfl⟩
    fresh := h.fresh
    reset := h.reset
    available := h.available
    unavailable := h.unavailable }

omit [DecidableEq ι] in
/-- The running process publishes a state. -/
theorem StatesKept.publish (h : StatesKept codec s log) (newState : AppState) :
    StatesKept codec
      { s with
        appState := Function.update s.appState s.process ((s.appState s.process).send newState) }
      { log with
        published :=
          Function.update log.published s.process (log.published s.process ++ [newState]) } where
  published n := by
    dsimp only
    by_cases hn : n = s.process
    · subst hn
      rw [Function.update_self, Function.update_self, List.length_append, (h.published _).1]
      refine ⟨rfl, ?_⟩
      rw [List.getElem?_append_right (by rw [(h.published _).1]; rfl), (h.published _).1]
      simp [Watch.send]
    · rw [Function.update_of_ne hn, Function.update_of_ne hn]
      exact h.published n
  opened := h.opened
  untouched := h.untouched
  current i c conn hc hconn := by
    obtain ⟨got, pending, hinv⟩ := h.current i c conn hc hconn
    by_cases hn : conn.process = s.process
    · refine ⟨got, pending,
        statesInv_congr (hinv.publish newState) ?_ rfl rfl rfl rfl ?_ rfl⟩
      · dsimp only [link]
        rw [hn, Function.update_self]
      · dsimp only [Log.link]
        rw [hn, Function.update_self]
    · refine ⟨got, pending, statesInv_congr hinv ?_ rfl rfl rfl rfl ?_ rfl⟩
      · dsimp only [link]
        rw [Function.update_of_ne hn]
      · dsimp only [Log.link]
        rw [Function.update_of_ne hn]
  fresh := h.fresh
  reset := h.reset
  available := h.available
  unavailable := h.unavailable

/-- The screens send on neither of their watch channels. -/
theorem channels_of_ofScreens {cl cl' : Client} {a : ClientAction} (hside : a.ofScreens = true)
    (hm : cl.Moves cr a cl') :
    cl'.appState = cl.appState ∧ cl'.serviceAvailable = cl.serviceAvailable := by
  have hemit : ∀ (outputs : List TuiOutput) (cl : Client),
      (outputs.foldl Client.emit cl).appState = cl.appState ∧
        (outputs.foldl Client.emit cl).serviceAvailable = cl.serviceAvailable := by
    intro outputs
    induction outputs with
    | nil => exact fun cl => ⟨rfl, rfl⟩
    | cons output outputs ih =>
      intro cl
      rw [List.foldl_cons, (ih _).1, (ih _).2]
      cases output with
      | spawnService => exact ⟨rfl, rfl⟩
      | trySend cmd =>
        rw [Client.emit]
        split_ifs <;> exact ⟨rfl, rfl⟩
  cases hm with
  | sendAppState | sendServiceAvailable | recvCommand => cases hside
  | syncService | syncState | draw | poll | fail => exact ⟨rfl, rfl⟩
  | key hpoint key => exact hemit _ _

theorem statesKept_step (hcodec : codec.Lawful) (h : StatesKept codec s log) (hwell : WellFormed s)
    (hm : Moves codec cr s a t) : StatesKept codec t (log.after codec s a t) := by
  cases hm with
  | connect hpoint => exact h.connect hwell hpoint
  | @quit i =>
    have hclosed : StatesKept codec { s with connections := s.closeClientEnd (s.parties i).point }
        log := by
      refine h.of_connections (length_closeClientEnd _) fun c conn' hconn' => ?_
      obtain ⟨conn, hconn, rfl | ⟨-, rfl⟩⟩ := closeClientEnd_cases hconn'
      · exact ⟨conn', hconn, rfl, rfl, rfl, rfl, .inl rfl⟩
      · exact ⟨conn, hconn, rfl, rfl, rfl, rfl, .inl rfl⟩
    exact hclosed.setParty (hwell.of_kept (kept_closeClientEnd _)) nofun
      (by rintro (⟨⟨⟩⟩ | ⟨⟨⟩⟩)) nofun (by rintro (⟨⟨⟩⟩ | ⟨⟨⟩⟩))
  | @startTui i =>
    exact h.setParty hwell (fun _ hc => ⟨hc, rfl⟩) (h.reset i) (h.available i) (h.unavailable i)
  | @screens i a screens hstarted hside hclient =>
    obtain ⟨happ, havailable⟩ := channels_of_ofScreens hside (Client.moves_of_step hclient)
    have hscreens : StatesKept codec (s.setScreens i screens) log := by
      refine h.setParty hwell (fun _ hc => ⟨hc, congrArg Watch.value happ⟩) (fun hpoint => ?_)
        (fun c hc => ?_) (fun hpoint => ?_)
      · exact (congrArg Watch.value happ).trans (h.reset i hpoint)
      · exact (congrArg Watch.value havailable).trans (h.available i c hc)
      · exact (congrArg Watch.value havailable).trans (h.unavailable i hpoint)
    exact { hscreens with }
  | sendUnavailable =>
    exact h.setParty hwell nofun (by rintro (⟨⟨⟩⟩ | ⟨⟨⟩⟩)) nofun fun _ => rfl
  | @sendDefault i hpoint =>
    exact h.setParty hwell nofun (fun _ => rfl) nofun fun _ => h.unavailable i (.inl hpoint)
  | sendAvailable hpoint =>
    refine h.setParty hwell (fun c hc => ⟨?_, rfl⟩) (by rintro (⟨⟨⟩⟩ | ⟨⟨⟩⟩)) (fun _ _ => rfl)
      (by rintro (⟨⟨⟩⟩ | ⟨⟨⟩⟩))
    rw [hpoint]
    exact hc
  | bridge hpoint hconn hside hlink =>
    rw [log_after_bridge hpoint hconn]
    exact h.setClientEnd hcodec hwell hpoint hconn hside hlink _
  | leaveInner =>
    exact h.setParty hwell nofun (by rintro (⟨⟨⟩⟩ | ⟨⟨⟩⟩)) nofun (by rintro (⟨⟨⟩⟩ | ⟨⟨⟩⟩))
  | publish => exact h.publish _
  | serve hserver hconn hside hlink =>
    rw [log_after_serve hserver hconn]
    exact h.setEnds hcodec hconn hside hlink _
  | dropReceiver | accept | leave | startService =>
    exact h.of_connections rfl fun _ conn hconn => ⟨conn, hconn, rfl, rfl, rfl, rfl, .inl rfl⟩
  | endService =>
    refine h.of_connections (List.length_map _) fun c conn' hconn' => ?_
    obtain ⟨conn, hconn, rfl⟩ :=
      Option.map_eq_some_iff.mp ((List.getElem?_map ..).symm.trans hconn')
    exact ⟨conn, hconn, rfl, rfl, rfl, rfl, .inr rfl⟩

theorem statesKept_of_reachable (hcodec : codec.Lawful) {p : Desktop ι × Log ι}
    (h : (withLog codec cr).Reachable p) : StatesKept codec p.1 p.2 := by
  have hinv : WellFormed p.1 ∧ StatesKept codec p.1 p.2 := by
    refine h.invariant_withHistory (I := fun s log => WellFormed s ∧ StatesKept codec s log) ?_ ?_
    · rintro _ rfl
      exact ⟨wellFormed_start, statesKept_start⟩
    · rintro s log a t ⟨hwell, hkept⟩ - hst
      have hm := moves_of_step hst
      exact ⟨wellFormed_step hwell hm, statesKept_step hcodec hkept hwell hm⟩
  exact hinv.2

/-! ## What is shown -/

omit [DecidableEq ι] in
/-- What a client has is the last state that came over its connection, or the default one. -/
theorem StatesKept.value_eq (h : StatesKept codec s log) {i : ι} {c : ℕ} {conn : Connection ι}
    (hc : (s.parties i).point.connection = some c) (hconn : s.connections[c]? = some conn)
    (hclient : conn.client = i) :
    (s.parties i).screens.appState.value = (log.received c).getLast?.getD AppState.default := by
  obtain ⟨got, pending, hinv⟩ := h.current i c conn hc hconn
  have hgot : log.received c = got.map Prod.snd := hinv.got_eq.symm
  cases hlast : got.getLast? with
  | none =>
    have hnil : log.received c = [] := by
      rw [hgot, List.getLast?_eq_none_iff.mp hlast, List.map_nil]
    rw [h.fresh i c hc hnil, hnil]
    rfl
  | some x =>
    rw [hgot, List.getLast?_map, hlast]
    exact hclient ▸ hinv.mirrored x hlast

/-- In every run, with any number of clients, of connections that break and of processes of the
service that end: a client that waits for the service has told its screens so, and they have the
default state. A client with a connection has told them that the service is available, and they
have the last of the states that came over this very connection, or the default one where none has.
These were published by the process the connection was opened to, each at or after the one before
it; at rest the screens have the current state of the running process. -/
theorem shown_faithful (hcodec : codec.Lawful) {p : Desktop ι × Log ι}
    (h : (withLog codec cr).Reachable p) (i : ι) :
    ((p.1.parties i).point = .retrying →
      (p.1.parties i).screens.serviceAvailable.value = false ∧
      (p.1.parties i).screens.appState.value = AppState.default) ∧
    ∀ c, (p.1.parties i).point = .serving c →
      (p.1.parties i).screens.serviceAvailable.value = true ∧
      (p.1.parties i).screens.appState.value =
        (p.2.received c).getLast?.getD AppState.default ∧
      ∃ conn, p.1.connections[c]? = some conn ∧ conn.client = i ∧
        (∃ versions : List ℕ, versions.Pairwise (· ≤ ·) ∧
          (p.2.received c).map some = versions.map ((p.2.published conn.process)[·]?)) ∧
        ((p.1.link conn).AtRest →
          (p.1.parties i).screens.appState.value = (p.1.appState p.1.process).value) := by
  have hkept := statesKept_of_reachable hcodec h
  have hwell := wellFormed_of_reachable h.of_withHistory
  refine ⟨fun hpoint => ⟨hkept.unavailable i (.inr hpoint), hkept.reset i (.inr hpoint)⟩,
    fun c hpoint => ?_⟩
  have hc : (p.1.parties i).point.connection = some c := by rw [hpoint]; rfl
  obtain ⟨conn, hconn, hclient⟩ := hwell.current i c hc
  obtain ⟨got, pending, hinv⟩ := hkept.current i c conn hc hconn
  refine ⟨hkept.available i c hpoint, hkept.value_eq hc hconn hclient, conn, hconn, hclient,
    ⟨got.map Prod.fst, ?_, ?_⟩, fun hrest => ?_⟩
  · have hordered := hinv.ordered
    rw [List.map_append] at hordered
    exact (List.pairwise_append.mp hordered).1
  · have hgot : p.2.received c = got.map Prod.snd := hinv.got_eq.symm
    rw [hgot, List.map_map, List.map_map]
    exact List.map_congr_left fun x hx =>
      (hinv.published x (List.mem_append_left _ hx)).symm
  -- at rest the connection is the one that is handled, by the running process
  · have hserver : p.1.server = .handling c := by
      by_contra hne
      have hphase : conn.phase = .selecting := hrest.connection
      by_cases hlt : c < p.1.accepted
      · exact nomatch hphase.symm.trans (hwell.closed c conn hconn hlt hne)
      · exact nomatch hphase.symm.trans (hwell.waiting c conn hconn (not_lt.mp hlt)).1
    obtain ⟨-, conn', hconn', hprocess⟩ := hwell.handled c hserver
    obtain rfl := Option.some.inj (hconn.symm.trans hconn')
    have hmirror := hinv.mirror_eq hrest
    rw [link, hclient] at hmirror
    exact hprocess ▸ hmirror

namespace Sample

/-- The service ends before the client has read its state, and the client reads that of the next
one. -/
def shownRun : List (Action Unit) :=
  joinRun ++ [.startTui ()] ++ lossRun ++ joinRun ++
    [.bridge () (.bridgeReads 400), .bridge () .recvState]

end Sample

/-- At rest the client has the state of the second process. -/
theorem shown_faithful_sample : ∃ p : Desktop Unit × Log Unit,
    p.2.received 0 = [] ∧ p.2.received 1 = [AppState.initial] ∧
    (p.1.parties ()).screens.appState.value = (p.1.appState p.1.process).value := by
  have hrun : ((withLog Ipc.Sample.codec sampleTuiCrates).replay (fun _ _ => True)
      (start, Log.start) Sample.shownRun).map
        (fun p => (p.2.received 0, p.2.received 1, (p.1.parties ()).point,
          (p.1.connections[1]?).map fun conn => decide (p.1.link conn).AtRest)) =
      some ([], [AppState.initial], .serving 1, some true) := by
    decide +kernel
  obtain ⟨p, hp, hfacts⟩ := Option.map_eq_some_iff.mp hrun
  simp only [Prod.mk.injEq] at hfacts
  obtain ⟨hfirst, hsecond, hpoint, hrest⟩ := hfacts
  have hinit : (withLog Ipc.Sample.codec sampleTuiCrates).Init (start, (Log.start : Log Unit)) :=
    ⟨rfl, rfl⟩
  obtain ⟨-, -, conn, hconn, -, -, hvalue⟩ := (shown_faithful Ipc.Sample.codec_lawful
    (.of_replay Sample.shownRun (.init hinit) hp) ()).2 1 hpoint
  rw [hconn] at hrest
  exact ⟨p, hfirst, hsecond, hvalue (of_decide_eq_true (Option.some.inj hrest))⟩

/-- In every run one connection is handled at a time, exactly then a client counts as connected, and
those before it are closed. Over a connection that still waits, no state has come and no command has
reached the channel of the service; its client has told its screens that the service is available,
and they have the default state. -/
theorem served_in_turn (hcodec : codec.Lawful) {p : Desktop ι × Log ι}
    (h : (withLog codec cr).Reachable p) :
    (p.1.tuiConnected = true ↔ ∃ c, p.1.server = .handling c) ∧
    (∀ c conn, p.1.connections[c]? = some conn → c < p.1.accepted → p.1.server ≠ .handling c →
      conn.phase = .closed) ∧
    (∀ c conn, p.1.connections[c]? = some conn → p.1.accepted ≤ c →
      p.2.received c = [] ∧ of c p.2.channel = []) ∧
    ∀ i c, (p.1.parties i).point = .serving c → p.1.accepted ≤ c →
      (p.1.parties i).screens.serviceAvailable.value = true ∧
      (p.1.parties i).screens.appState.value = AppState.default := by
  have hkept := statesKept_of_reachable hcodec h
  have hcommands := commandsKept_of_reachable hcodec h
  have hwell := wellFormed_of_reachable h.of_withHistory
  have hwaiting : ∀ c conn, p.1.connections[c]? = some conn → p.1.accepted ≤ c →
      p.2.received c = [] := fun c conn hconn hle =>
    (hkept.untouched c conn hconn (hwell.waiting c conn hconn hle).1).2
  refine ⟨hwell.connected, hwell.closed, fun c conn hconn hle => ⟨hwaiting c conn hconn hle, ?_⟩,
    fun i c hpoint hle => ⟨hkept.available i c hpoint, ?_⟩⟩
  · exact of_eq_nil_iff.mpr fun x hx => ((hcommands.channelLt x hx).trans_le hle).ne
  · have hc : (p.1.parties i).point.connection = some c := by rw [hpoint]; rfl
    obtain ⟨conn, hconn, -⟩ := hwell.current i c hc
    exact hkept.fresh i c hc (hwaiting c conn hconn hle)

namespace Sample

/-- Two clients connect, and the first of them is served. -/
def turnRun : List (Action Bool) :=
  [.startService, .connect false, .sendAvailable false, .connect true, .sendAvailable true, .accept,
    .serve .sendInitial]

end Sample

/-- The second client has the default state. -/
theorem served_in_turn_sample : ∃ p : Desktop Bool × Log Bool, p.1.tuiConnected = true ∧
    (∃ c, p.1.server = .handling c) ∧
    (p.1.parties true).screens.serviceAvailable.value = true ∧
    (p.1.parties true).screens.appState.value = AppState.default := by
  have hrun : ((withLog Ipc.Sample.codec sampleTuiCrates).replay (fun _ _ => True)
      (start, Log.start) Sample.turnRun).map
        (fun p => (p.1.tuiConnected, (p.1.parties true).point, p.1.accepted)) =
      some (true, .serving 1, 1) := by
    decide +kernel
  obtain ⟨p, hp, hfacts⟩ := Option.map_eq_some_iff.mp hrun
  simp only [Prod.mk.injEq] at hfacts
  obtain ⟨hconnected, hpoint, haccepted⟩ := hfacts
  have hinit : (withLog Ipc.Sample.codec sampleTuiCrates).Init (start, (Log.start : Log Bool)) :=
    ⟨rfl, rfl⟩
  obtain ⟨hiff, -, -, hshown⟩ := served_in_turn Ipc.Sample.codec_lawful
    (.of_replay Sample.turnRun (.init hinit) hp)
  exact ⟨p, hconnected, hiff.mp hconnected, hshown true 1 hpoint haccepted.le⟩

end Desktop

end ToothPaste
