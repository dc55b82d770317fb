import ToothPaste.Ble.Interface
import ToothPaste.Crates.Sample
import ToothPaste.Desktop.Screens

/-!
# What the commands are about

A screen takes the device of a command from the state it shows, and lets a key through that decodes
to 33 bytes. On its way to the service a command may be overtaken by other states, by the end of the
connection and by the end of the service.

* `commands_chosen`: over all connections, a command that reaches the service names a device as a
  state had it that came to this client before, over a connection to a process that had published
  it; and the service finds the key of a pairing well formed.
-/

namespace ToothPaste

namespace Tui

/-! ## The screens -/

/-- The commands that screens send that have been shown these states. -/
inductive Chosen (cr : TuiCrates) (shown : AppState → Prop) : AppCommand → Prop
  | scan : Chosen cr shown .scanForDevices
  | disconnect : Chosen cr shown .disconnectDevice
  | kill : Chosen cr shown .killService
  | connect {app : AppState} {device : Device} (hshown : shown app)
      (hlisted : device ∈ app.devices) : Chosen cr shown (.connectToDevice device)
  | pair {app : AppState} {device : Device} {key : String} {bytes : Bytes} (hshown : shown app)
      (hconnected : app.connectedDevice = some device) (hkey : cr.base64Decode key = .ok bytes)
      (hlength : bytes.length = 33) : Chosen cr shown (.pairDevice device key)

variable {cr : TuiCrates} {shown shown' : AppState → Prop} {cmd : AppCommand} {view : View}

/-- Nothing can be chosen from the default state. -/
theorem Chosen.imp (h : Chosen cr shown cmd)
    (himp : ∀ app, app ≠ AppState.default → shown app → shown' app) : Chosen cr shown' cmd := by
  cases h with
  | scan => exact .scan
  | disconnect => exact .disconnect
  | kill => exact .kill
  | connect hshown hlisted =>
    refine .connect (himp _ ?_ hshown) hlisted
    rintro rfl
    cases hlisted
  | pair hshown hconnected hkey hlength =>
    refine .pair (himp _ ?_ hshown) hconnected hkey hlength
    rintro rfl
    cases hconnected

theorem eq_of_mem_sends {cmd' : AppCommand} (hmem : .trySend cmd ∈ [TuiOutput.trySend cmd']) :
    cmd = cmd' := TuiOutput.trySend.inj (List.mem_singleton.mp hmem)

/-- What a key sends on the home screen is about no state. -/
theorem HomeScreen.chosen_handleKey (screen : HomeScreen) (key : KeyCode)
    (hmem : .trySend cmd ∈ ((ScreenVariant.home screen).handleKey cr view key).outputs) :
    Chosen cr shown cmd := by
  cases key with
  | enter =>
    dsimp only [ScreenVariant.handleKey, ScreenVariant.handleEnterKey, Answer.map,
      handleEnterKey, startScan, killService] at hmem
    split_ifs at hmem
    · split at hmem
      · exact eq_of_mem_sends hmem ▸ .scan
      · exact eq_of_mem_sends hmem ▸ .kill
      all_goals cases hmem
    -- the service is started by the client itself
    · split at hmem
      · cases List.mem_singleton.mp hmem
      all_goals cases hmem
  | char c =>
    dsimp only [ScreenVariant.handleKey, ScreenVariant.handleNavKey, Answer.map, handleNavKey,
      killService] at hmem
    split_ifs at hmem
    · exact eq_of_mem_sends hmem ▸ .kill
    all_goals cases hmem
  | backspace | up | down | esc | other => cases hmem

/-- A key on the list connects to a device that is listed. -/
theorem DeviceListScreen.chosen_handleKey (screen : DeviceListScreen) (key : KeyCode)
    (hmem : .trySend cmd ∈ ((ScreenVariant.deviceList screen).handleKey cr view key).outputs) :
    Chosen cr (· = view.appState) cmd := by
  cases key with
  | enter =>
    dsimp only [ScreenVariant.handleKey, ScreenVariant.handleEnterKey, Answer.map,
      handleEnterKey] at hmem
    split_ifs at hmem
    · cases hmem
    · split at hmem
      case h_1 device hselected =>
        obtain ⟨idx, -, hidx⟩ := Option.bind_eq_some_iff.mp hselected
        exact eq_of_mem_sends hmem ▸ .connect rfl (List.mem_of_getElem? hidx)
      · cases hmem
  | char c =>
    dsimp only [ScreenVariant.handleKey, ScreenVariant.handleNavKey, Answer.map,
      handleNavKey] at hmem
    split_ifs at hmem
    · cases hmem
    · exact eq_of_mem_sends hmem ▸ .scan
    all_goals cases hmem
  | backspace => cases hmem
  | up | down | esc | other =>
    dsimp only [ScreenVariant.handleKey, ScreenVariant.handleNavKey, Answer.map,
      handleNavKey] at hmem
    split_ifs at hmem <;> cases hmem

/-- What a key sends on the connected screen is about no state. -/
theorem ConnectedScreen.chosen_handleKey (screen : ConnectedScreen) (key : KeyCode)
    (hmem : .trySend cmd ∈ ((ScreenVariant.connected screen).handleKey cr view key).outputs) :
    Chosen cr shown cmd := by
  cases key with
  | enter =>
    dsimp only [ScreenVariant.handleKey, ScreenVariant.handleEnterKey, Answer.map,
      handleEnterKey] at hmem
    split at hmem
    · cases hmem
    · exact eq_of_mem_sends hmem ▸ .disconnect
    · exact eq_of_mem_sends hmem ▸ .disconnect
    · cases hmem
  | char c =>
    dsimp only [ScreenVariant.handleKey, ScreenVariant.handleNavKey, Answer.map,
      handleNavKey] at hmem
    split_ifs at hmem
    · exact eq_of_mem_sends hmem ▸ .disconnect
    all_goals cases hmem
  | backspace | up | down | esc | other => cases hmem

/-- A key on the input screen pairs the connected device. -/
theorem PairingInputScreen.chosen_handleKey (screen : PairingInputScreen) (key : KeyCode)
    (hmem : .trySend cmd ∈ ((ScreenVariant.pairingInput screen).handleKey cr view key).outputs) :
    Chosen cr (· = view.appState) cmd := by
  cases key with
  | enter =>
    dsimp only [ScreenVariant.handleKey, ScreenVariant.handleEnterKey, Answer.map,
      submit] at hmem
    split at hmem
    case h_1 bytes hdecode =>
      split_ifs at hmem with hlength
      · split at hmem
        case h_1 device hdevice =>
          exact eq_of_mem_sends hmem ▸ .pair rfl hdevice hdecode hlength
        · cases hmem
      · cases hmem
    · cases hmem
  | backspace =>
    dsimp only [ScreenVariant.handleKey, ScreenVariant.handleBackKey, Answer.map,
      handleBackKey] at hmem
    split_ifs at hmem <;> cases hmem
  | up | down | esc | char | other => cases hmem

/-- A command that is sent for a key that is pressed is chosen from what is shown. -/
theorem ScreenVariant.chosen_handleKey (screen : ScreenVariant) (key : KeyCode)
    (hmem : .trySend cmd ∈ (screen.handleKey cr view key).outputs) :
    Chosen cr (· = view.appState) cmd := by
  cases screen with
  | home screen => exact screen.chosen_handleKey key hmem
  | deviceList screen => exact screen.chosen_handleKey key hmem
  | connected screen => exact screen.chosen_handleKey key hmem
  | pairingInput screen => exact screen.chosen_handleKey key hmem
  | scanning =>
    cases key with
    | char c =>
      dsimp only [ScreenVariant.handleKey, ScreenVariant.handleNavKey, Answer.map,
        scanningHandleNavKey] at hmem
      split_ifs at hmem <;> cases hmem
    | enter | backspace | up | down | esc | other => cases hmem

/-- What a client adds to its channel is chosen from what its screens show. -/
theorem Client.chosen_of_moves {cl cl' : Client} {a : ClientAction} (hside : a.ofScreens = true)
    (hm : cl.Moves cr a cl') : ∃ added, cl'.commands = cl.commands ++ added ∧
      ∀ cmd ∈ added, Chosen cr (· = cl.appState.value) cmd := by
  have hemit : ∀ (outputs : List TuiOutput) (cl : Client),
      ∃ added, (outputs.foldl emit cl).commands = cl.commands ++ added ∧
        ∀ cmd ∈ added, .trySend cmd ∈ outputs := by
    intro outputs
    induction outputs with
    | nil => exact fun cl => ⟨[], (List.append_nil _).symm, List.forall_mem_nil _⟩
    | cons output outputs ih =>
      intro cl
      obtain ⟨added, hadded, hmem⟩ := ih (cl.emit output)
      rw [List.foldl_cons, hadded]
      have hlater : ∀ cmd ∈ added, .trySend cmd ∈ output :: outputs :=
        fun cmd hcmd => List.mem_cons_of_mem _ (hmem cmd hcmd)
      cases output with
      | spawnService => exact ⟨added, rfl, hlater⟩
      | trySend cmd =>
        rw [emit]
        split_ifs
        · refine ⟨cmd :: added, by simp, ?_⟩
          exact List.forall_mem_cons.mpr ⟨List.mem_cons_self, hlater⟩
        · exact ⟨added, rfl, hlater⟩
  cases hm with
  | sendAppState | sendServiceAvailable | recvCommand => cases hside
  | syncService | syncState | draw | poll | fail =>
    exact ⟨[], (List.append_nil _).symm, List.forall_mem_nil _⟩
  | key hpoint key =>
    obtain ⟨added, hadded, hmem⟩ := hemit _ _
    exact ⟨added, hadded, fun cmd hcmd => ScreenVariant.chosen_handleKey _ key (hmem cmd hcmd)⟩

end Tui

namespace Desktop

open Ipc Tui Tagged

variable {ι : Type} [DecidableEq ι] {codec : IpcCodec} {cr : TuiCrates} {s t : Desktop ι}
  {log : Log ι} {a : Action ι}

/-! ## The states that came -/

/-- The state came to the client, over a connection to a process that had published it. -/
def Log.Came (log : Log ι) (s : Desktop ι) (i : ι) (app : AppState) : Prop :=
  ∃ (c : ℕ) (conn : Connection ι), s.connections[c]? = some conn ∧ conn.client = i ∧
    app ∈ log.received c ∧ app ∈ log.published conn.process

/-- A connection stays with its client and its process. -/
theorem exists_connection_of_moves (hm : Moves codec cr s a t) {c : ℕ} {conn : Connection ι}
    (hconn : s.connections[c]? = some conn) : ∃ conn', t.connections[c]? = some conn' ∧
      conn'.client = conn.client ∧ conn'.process = conn.process := by
  rcases kept_of_moves hm with hkept | ⟨i, rfl⟩ | rfl | rfl | rfl | rfl
  · exact hkept.exists_connection hconn
  · cases hm
    exact ⟨conn, getElem?_open hconn _, rfl, rfl⟩
  · cases hm
    exact ⟨conn, hconn, rfl, rfl⟩
  · cases hm
    exact ⟨conn, hconn, rfl, rfl⟩
  · cases hm
    exact ⟨{ conn with phase := .closed }, by rw [List.getElem?_map, hconn]; rfl, rfl, rfl⟩
  · cases hm
    exact ⟨conn, hconn, rfl, rfl⟩

/-- Adding to one list takes nothing from any. -/
theorem subset_update {κ α : Type} [DecidableEq κ] (f : κ → List α) (k : κ) (added : List α)
    (j : κ) : f j ⊆ Function.update f k (f k ++ added) j := by
  by_cases hj : j = k
  · subst hj
    rw [Function.update_self]
    exact List.subset_append_left _ _
  · rw [Function.update_of_ne hj]
    exact List.Subset.refl _

/-- Of the states that were published and that came, none is forgotten. -/
theorem log_grows (hm : Moves codec cr s a t) (log : Log ι) :
    (∀ n, log.published n ⊆ (log.after codec s a t).published n) ∧
      ∀ c, log.received c ⊆ (log.after codec s a t).received c := by
  cases hm with
  | publish => exact ⟨subset_update log.published _ _, fun _ => List.Subset.refl _⟩
  | bridge hpoint hconn =>
    rw [log_after_bridge hpoint hconn]
    exact ⟨fun _ => List.Subset.refl _, subset_update log.received _ _⟩
  | serve hserver hconn =>
    rw [log_after_serve hserver hconn]
    exact ⟨fun _ => List.Subset.refl _, fun _ => List.Subset.refl _⟩
  | connect | quit | startTui | screens | sendUnavailable | sendDefault | sendAvailable | leaveInner
  | dropReceiver | accept | leave | endService | startService =>
    exact ⟨fun _ => List.Subset.refl _, fun _ => List.Subset.refl _⟩

/-- A state that came has come for good. -/
theorem Log.Came.step (hm : Moves codec cr s a t) {i : ι} {app : AppState}
    (h : log.Came s i app) : (log.after codec s a t).Came t i app := by
  obtain ⟨c, conn, hconn, hclient, hreceived, hpublished⟩ := h
  obtain ⟨conn', hconn', hclient', hprocess⟩ := exists_connection_of_moves hm hconn
  obtain ⟨hmore, hmoreReceived⟩ := log_grows hm log
  exact ⟨c, conn', hconn', hclient'.trans hclient, hmoreReceived c hreceived,
    hprocess ▸ hmore _ hpublished⟩

/-- The screens have a state that came to their client, or the default one. -/
def Shows (s : Desktop ι) (log : Log ι) (i : ι) : Prop :=
  (s.parties i).screens.appState.value = AppState.default ∨
    log.Came s i (s.parties i).screens.appState.value

omit [DecidableEq ι] in
/-- The screens of a client with a connection have a state that came over it. -/
theorem shows_of_connection (hkept : StatesKept codec s log) (hwell : WellFormed s) {i : ι} {c : ℕ}
    (hc : (s.parties i).point.connection = some c) : Shows s log i := by
  obtain ⟨conn, hconn, hclient⟩ := hwell.current i c hc
  have hvalue := hkept.value_eq hc hconn hclient
  obtain ⟨got, pending, hinv⟩ := hkept.current i c conn hc hconn
  cases hlast : (log.received c).getLast? with
  | none =>
    rw [hlast] at hvalue
    exact .inl hvalue
  | some app =>
    rw [hlast, Option.getD_some] at hvalue
    have hmem : app ∈ log.received c := List.mem_of_getLast? hlast
    refine .inr ⟨c, conn, hconn, hclient, hvalue ▸ hmem, ?_⟩
    have hgot : got.map Prod.snd = log.received c := hinv.got_eq
    obtain ⟨x, hx, hxapp⟩ := List.mem_map.mp (hgot ▸ hmem)
    have hpublished := hinv.published x (List.mem_append_left _ hx)
    rw [hvalue, ← hxapp]
    exact List.mem_of_getElem? hpublished

/-- Without a connection the screens keep the state they have, until they are sent the default
one. -/
theorem value_of_moves (hwell : WellFormed s) (hm : Moves codec cr s a t) {i : ι}
    (hc : (t.parties i).point.connection = none) :
    (t.parties i).screens.appState.value = AppState.default ∨
      (t.parties i).screens.appState.value = (s.parties i).screens.appState.value := by
  have hother : ∀ {j : ι} {party : Party} {u : Desktop ι}, i ≠ j → u.parties = s.parties →
      ((u.setParty j party).parties i).screens.appState.value =
        (s.parties i).screens.appState.value := fun hj hparties => by
    rw [parties_setParty_of_ne hj, hparties]
  have hsame : ∀ {j : ι} {party : Party},
      party.screens.appState = (s.parties j).screens.appState →
      ((s.setParty j party).parties i).screens.appState.value =
        (s.parties i).screens.appState.value := fun {j party} happ => by
    by_cases hj : i = j
    · subst hj
      rw [parties_setParty_self, happ]
    · exact hother hj rfl
  cases hm with
  | connect | leaveInner | quit | startTui | sendUnavailable | sendAvailable =>
    exact .inr (hsame rfl)
  | screens hstarted hside hclient =>
    exact .inr (hsame (channels_of_ofScreens hside (Client.moves_of_step hclient)).1)
  | @sendDefault j hpoint =>
    by_cases hj : i = j
    · subst hj
      exact .inl (congrArg (fun party => party.screens.appState.value)
        (parties_setParty_self ..))
    · exact .inr (hother hj rfl)
  | @bridge j c conn b l hpoint hconn hside hlink =>
    obtain ⟨conn₀, hconn₀, rfl⟩ := hwell.current j c (by rw [hpoint]; rfl)
    obtain rfl := Option.some.inj (hconn.symm.trans hconn₀)
    by_cases hj : i = conn.client
    · subst hj
      rw [setClientEnd, setScreens, parties_setParty_self] at hc
      cases (congrArg BridgePoint.connection hpoint).symm.trans hc
    · exact .inr (hother hj rfl)
  | publish | dropReceiver | accept | serve | leave | endService | startService => exact .inr rfl

/-- Every step keeps a client to states that came to it. -/
theorem shows_step (hwell : WellFormed s) (hm : Moves codec cr s a t)
    (hkept : StatesKept codec t (log.after codec s a t)) (hwell' : WellFormed t) {i : ι}
    (h : Shows s log i) : Shows t (log.after codec s a t) i := by
  cases hc : (t.parties i).point.connection with
  | some c => exact shows_of_connection hkept hwell' hc
  | none =>
    rcases value_of_moves hwell hm hc with hdefault | hsame
    · exact .inl hdefault
    · rw [Shows, hsame]
      exact h.imp_right (Log.Came.step hm)

/-! ## The commands -/

/-- Each command that was put in the channel of a client is about a state that came to it. -/
def PutChosen (cr : TuiCrates) (s : Desktop ι) (log : Log ι) : Prop :=
  ∀ i, ∀ cmd ∈ log.put i, Chosen cr (log.Came s i) cmd

/-- Every step keeps the commands to what came to their client. -/
theorem putChosen_step (hm : Moves codec cr s a t) (hshows : ∀ i, Shows s log i)
    (h : PutChosen cr s log) : PutChosen cr t (log.after codec s a t) := by
  have hkept : ∀ {i cmd}, Chosen cr (log.Came s i) cmd →
      Chosen cr ((log.after codec s a t).Came t i) cmd :=
    fun hchosen => hchosen.imp fun _ _ hcame => hcame.step hm
  have hsame : (log.after codec s a t).put = log.put →
      PutChosen cr t (log.after codec s a t) := fun hput i cmd hcmd =>
    hkept (h i cmd (hput ▸ hcmd))
  cases hm with
  | @screens j b screens hstarted hside hclient =>
    obtain ⟨added, hadded, hchosen⟩ :=
      Client.chosen_of_moves hside (Client.moves_of_step hclient)
    have hput : (log.after codec s (.screens j b) (s.setScreens j screens)).put =
        Function.update log.put j (log.put j ++ added) := by
      rw [Log.after]
      simp only [Desktop.setScreens, parties_setParty_self, hadded, List.drop_left]
    intro i cmd hcmd
    rw [hput] at hcmd
    by_cases hi : i = j
    · subst hi
      rw [Function.update_self] at hcmd
      rcases List.mem_append.mp hcmd with hcmd | hcmd
      · exact hkept (h i cmd hcmd)
      -- what was chosen is from what the screens have, which came
      · refine hkept ((hchosen cmd hcmd).imp ?_)
        rintro app hne rfl
        exact (hshows i).resolve_left hne
    · rw [Function.update_of_ne hi] at hcmd
      exact hkept (h i cmd hcmd)
  | bridge hpoint hconn => exact hsame (by rw [log_after_bridge hpoint hconn])
  | serve hserver hconn => exact hsame (by rw [log_after_serve hserver hconn])
  | connect | quit | startTui | sendUnavailable | sendDefault | sendAvailable | leaveInner | publish
  | dropReceiver | accept | leave | endService | startService => exact hsame rfl

/-- In every run the commands are chosen from what came to their client. -/
theorem putChosen_of_reachable (hcodec : codec.Lawful) {p : Desktop ι × Log ι}
    (h : (withLog codec cr).Reachable p) : PutChosen cr p.1 p.2 := by
  have hinv : WellFormed p.1 ∧ StatesKept codec p.1 p.2 ∧ (∀ i, Shows p.1 p.2 i) ∧
      PutChosen cr p.1 p.2 := by
    refine h.invariant_withHistory (I := fun s log => WellFormed s ∧ StatesKept codec s log ∧
      (∀ i, Shows s log i) ∧ PutChosen cr s log) ?_ ?_
    · rintro _ rfl
      exact ⟨wellFormed_start, statesKept_start, fun _ => .inl rfl, fun _ => List.forall_mem_nil _⟩
    · rintro s log a t ⟨hwell, hkept, hshows, hchosen⟩ - hst
      have hm := moves_of_step hst
      have hwell' := wellFormed_step hwell hm
      have hkept' := statesKept_step hcodec hkept hwell hm
      exact ⟨hwell', hkept', fun i => shows_step hwell hm hkept' hwell' (hshows i),
        putChosen_step hm hshows hchosen⟩
  exact hinv.2.2.2

/-- A command that is put in the channel of the service is chosen from what came to its client. -/
theorem exists_chosen_of_channel (hcodec : codec.Lawful) {p : Desktop ι × Log ι}
    (h : (withLog codec cr).Reachable p) {x : ℕ × AppCommand} (hx : x ∈ p.2.channel) :
    ∃ conn, p.1.connections[x.1]? = some conn ∧ Chosen cr (p.2.Came p.1 conn.client) x.2 := by
  obtain ⟨c, cmd⟩ := x
  have hkept := commandsKept_of_reachable hcodec h
  have hlt : c < p.1.connections.length :=
    (hkept.channelLt _ hx).trans_le (wellFormed_of_reachable h.of_withHistory).accepted_le
  have hconn := List.getElem?_eq_getElem hlt
  obtain ⟨handled, pending, hinv⟩ := hkept.each c _ hconn
  refine ⟨_, hconn, putChosen_of_reachable hcodec h _ cmd ?_⟩
  have hmem : cmd ∈ of c p.2.channel := mem_of_iff.mpr hx
  have htaken := mem_of_iff.mp (hinv.enqueued_isPrefix.subset hmem)
  rw [← hkept.put]
  exact List.mem_append_left _ (List.mem_map_of_mem (f := Prod.snd) htaken)

/-- In every run, with any number of clients, of connections that break and of processes of the
service that end: each command that reaches the channel of the service over a connection is chosen
from a state that came to the client of the connection, over this connection or another one, from a
process that had published it. The key of a pairing is one that the service parses. -/
theorem commands_chosen {SK PK : Type} (crates : Crates SK PK)
    (hbase64 : crates.base64Decode = cr.base64Decode) (hcodec : codec.Lawful)
    {p : Desktop ι × Log ι} (h : (withLog codec cr).Reachable p) :
    ∀ x ∈ p.2.channel, ∃ conn, p.1.connections[x.1]? = some conn ∧
      Chosen cr (p.2.Came p.1 conn.client) x.2 ∧
      ∀ device key, x.2 = .pairDevice device key →
        ∃ bytes, parsePubKey crates key = some bytes := by
  intro x hx
  obtain ⟨conn, hconn, hchosen⟩ := exists_chosen_of_channel hcodec h hx
  refine ⟨conn, hconn, hchosen, fun device key hpair => ?_⟩
  rw [hpair] at hchosen
  cases hchosen with
  | pair hshown hconnected hkey hlength =>
    obtain ⟨parsed, hparsed, -⟩ := exists_tryInto hlength
    exact ⟨parsed, by rw [parsePubKey, hbase64, hkey]; exact hparsed⟩

namespace Sample

/-- A connected device refuses the session. -/
def refusingState : AppState := { AppState.initial with connectedDevice := some refusingDevice }

/-- A key that decodes to 33 bytes. -/
def typedKey : String := String.ofList (List.replicate 33 'A')

/-- The messages that the texts of the codec stand for in the run. -/
def standIn : IpcMessage ≃ IpcMessage :=
  (Equiv.swap (IpcMessage.command .killService) (.command .scanForDevices)).trans <|
  (Equiv.swap (IpcMessage.command .scanForDevices)
    (.command (.pairDevice refusingDevice typedKey))).trans <|
  Equiv.swap (IpcMessage.state Ipc.Sample.capturing) (.state refusingState)

/-- The codec of the run. -/
def pairingCodec : IpcCodec where
  toJson message := Ipc.Sample.codec.toJson (standIn message)
  fromJson text := (Ipc.Sample.codec.fromJson text).map standIn.symm

theorem pairingCodec_lawful : pairingCodec.Lawful where
  printable message := Ipc.Sample.codec_lawful.printable (standIn message)
  fromJson_toJson message := by
    show (Ipc.Sample.codec.fromJson (Ipc.Sample.codec.toJson (standIn message))).map _ = _
    rw [Ipc.Sample.codec_lawful.fromJson_toJson]
    exact congrArg Except.ok (standIn.symm_apply_apply message)

/-- A device that has to be paired is connected while the client scans. The key is put in the
channel, but the service ends, and the next one gets the command. -/
def staleRun : List (Action Unit) :=
  [.startService, .publish refusingState, .connect (), .sendAvailable (), .accept,
    .serve .sendInitial, .serve (.serviceWrites 400), .serve .serviceWritten, .startTui ()] ++
    scanRun ++ [.bridge () (.bridgeReads 400), .bridge () .recvState] ++
    (List.replicate 33 (roundWith (.char 'A'))).flatten.map (.screens ()) ++
    (roundWith .enter).map (.screens ()) ++ [.bridge () .takeCommand] ++ lossRun ++ joinRun ++
    deliverRun

end Sample

/-- The device came to the client in a state that the second process has not published. -/
theorem commands_chosen_sample : ∃ p : Desktop Unit × Log Unit,
    p.2.channel = [(1, .pairDevice refusingDevice Sample.typedKey)] ∧
    p.2.published 2 = [AppState.initial] ∧
    ∃ app, p.2.Came p.1 () app ∧ app.connectedDevice = some refusingDevice := by
  have hrun : ((withLog Sample.pairingCodec sampleTuiCrates).replay (fun _ _ => True)
      (start, Log.start) Sample.staleRun).map (fun p => (p.2.channel, p.2.published 2)) =
      some ([(1, .pairDevice refusingDevice Sample.typedKey)], [AppState.initial]) := by
    decide +kernel
  obtain ⟨p, hp, hfacts⟩ := Option.map_eq_some_iff.mp hrun
  obtain ⟨hchannel, hpublished⟩ := Prod.mk.inj hfacts
  have hinit : (withLog Sample.pairingCodec sampleTuiCrates).Init (start, (Log.start : Log Unit)) :=
    ⟨rfl, rfl⟩
  have hmem : (1, .pairDevice refusingDevice Sample.typedKey) ∈ p.2.channel := by
    rw [hchannel]
    exact List.mem_singleton_self _
  obtain ⟨conn, -, hchosen, -⟩ := commands_chosen
    { sampleCrates with base64Decode := sampleTuiCrates.base64Decode } rfl
    Sample.pairingCodec_lawful (.of_replay Sample.staleRun (.init hinit) hp) _ hmem
  cases hchosen with
  | pair hshown hconnected => exact ⟨p, hchannel, hpublished, _, hshown, hconnected⟩

end Desktop

end ToothPaste
