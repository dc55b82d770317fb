import ToothPaste.Desktop.Mirror

/-!
# The screens of the clients

What the bridge of a client sends its screens and takes from them are steps that the screens' own
model leaves open, so that the screens of a client run as they do there
(`client_of_desktop`).

* `home_when_unavailable`: as long as the screens take note of each change of the service's
  availability before the next one, a client whose screens know that the service is gone is on the
  home screen, with nothing to go back to.
-/

namespace ToothPaste

namespace Desktop

open Ipc Tui

variable {ι : Type} [DecidableEq ι] {codec : IpcCodec} {cr : TuiCrates} {s t : Desktop ι}
  {a : Action ι}

/-! ## The steps of the screens -/

/-- What a step of the bridge makes of the channels is a step of the screens' surroundings. -/
theorem screens_of_ofBridge (cr : TuiCrates) {cl : Client} {l l' : Link} {a : LinkAction}
    (hside : a.ofBridge = true) (h : l.step codec a = some l')
    (hqueue : l.commandQueue = cl.commands) (hmirror : l.mirror = cl.appState) :
    { cl with commands := l'.commandQueue, appState := l'.mirror } = cl ∨
      ∃ b : ClientAction, b.ofScreens = false ∧ (∀ v, b ≠ .sendServiceAvailable v) ∧
        cl.step cr b = some { cl with commands := l'.commandQueue, appState := l'.mirror } := by
  obtain ⟨app, point, appState, serviceAvailable, commands⟩ := cl
  subst hqueue hmirror
  cases Link.moves_of_step h with
  | recvState =>
    unfold Link.mirrorLine
    split
    · exact .inl rfl
    case h_2 newState _ => exact .inr ⟨.sendAppState newState, rfl, nofun, rfl⟩
    · exact .inl rfl
  | @takeCommand cmd commands hphase htaken =>
    refine .inr ⟨.recvCommand, rfl, nofun, ?_⟩
    rw [Client.step]
    dsimp only
    rw [htaken]
    rfl
  | bridgeWrites | bridgeWritten | bridgeReads | bridgeCloses => exact .inl rfl
  | _ => cases hside

/-- What a step does to a client: nothing that concerns its screens, it starts them, or it is one of
their own steps or of what surrounds them. -/
inductive ScreensMove (cr : TuiCrates) (old : Party) (sends : Prop) (new : Party) : Prop
  | none (hscreens : new.screens = old.screens) (hstarted : new.started = old.started)
  | start (hbefore : old.started = false) (hstarted : new.started = true)
      (hscreens : new.screens = { old.screens with
        app := .new old.screens.appState old.screens.serviceAvailable
        point := .syncService })
  | step (b : ClientAction) {screens : Client} (hst : old.screens.step cr b = some screens)
      (hscreens : new.screens = screens) (hstarted : new.started = old.started)
      (hown : b.ofScreens = true → old.started = true)
      (hsends : ∀ v, b = .sendServiceAvailable v → sends)

/-- A step that changes one party moves its screens and no others. -/
theorem screensMove_setParty {i : ι} {party : Party} (sends : ι → Prop)
    (h : ScreensMove cr (s.parties i) (sends i) party) (j : ι) :
    ScreensMove cr (s.parties j) (sends j) ((s.setParty i party).parties j) := by
  by_cases hj : j = i
  · subst hj
    rwa [parties_setParty_self]
  · rw [parties_setParty_of_ne hj]
    exact .none rfl rfl

/-- The bridge goes on. -/
theorem screensMove_setPoint (i : ι) (point : BridgePoint) (sends : ι → Prop) (j : ι) :
    ScreensMove cr (s.parties j) (sends j) ((s.setPoint i point).parties j) := by
  refine screensMove_setParty sends ?_ j
  exact .none rfl rfl

/-- The step sends on the client's channel of the availability. -/
def Action.Sends (a : Action ι) (i : ι) : Prop := a = .sendUnavailable i ∨ a = .sendAvailable i

theorem screensMove_of_moves (hm : Moves codec cr s a t) (j : ι) :
    ScreensMove cr (s.parties j) (a.Sends j) (t.parties j) := by
  cases hm with
  | connect | leaveInner | quit => exact screensMove_setPoint _ _ _ j
  | @startTui i hstarted =>
    exact screensMove_setParty (Action.Sends _) (.start hstarted rfl rfl) j
  | @screens i a screens hstarted hside hclient =>
    refine screensMove_setParty (Action.Sends _) ?_ j
    refine .step a hclient rfl rfl (fun _ => hstarted) ?_
    rintro v rfl
    cases hside
  | sendUnavailable =>
    refine screensMove_setParty (Action.Sends _) ?_ j
    exact .step (.sendServiceAvailable false) rfl rfl rfl nofun fun _ _ => .inl rfl
  | sendDefault =>
    refine screensMove_setParty (Action.Sends _) ?_ j
    exact .step (.sendAppState .default) rfl rfl rfl nofun nofun
  | sendAvailable =>
    refine screensMove_setParty (Action.Sends _) ?_ j
    exact .step (.sendServiceAvailable true) rfl rfl rfl nofun fun _ _ => .inr rfl
  | @bridge i c conn b l hpoint hconn hside hlink =>
    refine screensMove_setParty (s := s.setEnds c conn l) (Action.Sends _) ?_ j
    rcases screens_of_ofBridge cr hside hlink rfl rfl with heq | ⟨b, hb, hne, hclient⟩
    · exact .none heq rfl
    · refine .step b hclient rfl rfl (fun hown => ?_) fun v hv => absurd hv (hne v)
      rw [hb] at hown
      cases hown
  | publish | dropReceiver | accept | serve | leave | endService | startService =>
    exact .none rfl rfl

/-- The screens of a client run as the client of their own model does. -/
theorem client_of_desktop (h : (desktop codec cr).Reachable s) (i : ι)
    (hstarted : (s.parties i).started = true) :
    (client cr).Reachable (s.parties i).screens := by
  have hinv : ((s.parties i).started = false → (s.parties i).screens.commands = []) ∧
      ((s.parties i).started = true → (client cr).Reachable (s.parties i).screens) := by
    refine h.invariant (I := fun s => ((s.parties i).started = false →
      (s.parties i).screens.commands = []) ∧ ((s.parties i).started = true →
        (client cr).Reachable (s.parties i).screens)) ?_ fun s a t hs hst => ?_
    · rintro _ rfl
      exact ⟨fun _ => rfl, nofun⟩
    · cases screensMove_of_moves (moves_of_step hst) i with
      | none hscreens hstarted => rwa [hscreens, hstarted]
      | start hbefore hstarted hscreens =>
        refine ⟨fun hnot => absurd (hstarted.symm.trans hnot) nofun, fun _ => ?_⟩
        refine .init ⟨(s.parties i).screens.appState, (s.parties i).screens.serviceAvailable, ?_⟩
        rw [hscreens]
        dsimp only
        rw [hs.1 hbefore]
      | step b hclient hscreens hstarted hown =>
        rw [hstarted, hscreens]
        refine ⟨fun hnot => ?_, fun hyes => (hs.2 hyes).step hclient⟩
        -- before they are started the screens take no step of their own
        cases Client.moves_of_step hclient with
        | sendAppState | sendServiceAvailable => exact hs.1 hnot
        | recvCommand => exact congrArg List.tail (hs.1 hnot)
        | syncService | syncState | draw | key | poll | fail =>
          exact absurd ((hown rfl).symm.trans hnot) nofun
  exact hinv.2 hstarted

/-! ## The home screen -/

/-- The application is on the home screen, with nothing to go back to. -/
def AtHome (app : ToothPasteTUI) : Prop :=
  app.currentScreen.kind = .home ∧ app.screenStack = []

/-- What the screens know of the service: they are not ahead of the channel, what they have seen of
it is what they have, and if it is that the service is gone, then they are on the home screen or the
channel has news. -/
structure Informed (cl : Client) : Prop where
  seen_le : cl.app.serviceAvailableSeen ≤ cl.serviceAvailable.version
  known : ¬ cl.serviceAvailable.HasChanged cl.app.serviceAvailableSeen →
    cl.app.serviceAvailable = cl.serviceAvailable.value
  home : cl.app.serviceAvailable = false →
    AtHome cl.app ∨ cl.serviceAvailable.value = true

/-- What the application knows is not touched by a step that does not look at the channel. -/
theorem Informed.of_app {cl cl' : Client} (h : Informed cl)
    (hchannel : cl'.serviceAvailable = cl.serviceAvailable)
    (hseen : cl'.app.serviceAvailableSeen = cl.app.serviceAvailableSeen)
    (havailable : cl'.app.serviceAvailable = cl.app.serviceAvailable)
    (hhome : cl.serviceAvailable.value = false → AtHome cl.app → AtHome cl'.app) :
    Informed cl' where
  seen_le := by rw [hchannel, hseen]; exact h.seen_le
  known := by rw [hchannel, hseen, havailable]; exact h.known
  home hgone := by
    rw [hchannel]
    rw [havailable] at hgone
    rcases h.home hgone with hathome | hback
    · cases hvalue : cl.serviceAvailable.value with
      | false => exact .inl (hhome hvalue hathome)
      | true => exact .inr rfl
    · exact .inr hback

/-- A screen other than the scanning, the device list and the connected one stays as it is when the
state changes. -/
theorem syncAppState_home {app : ToothPasteTUI} (w : Watch AppState) (h : AtHome app) :
    AtHome (app.syncAppState w) := by
  obtain ⟨hkind, hstack⟩ := h
  unfold ToothPasteTUI.syncAppState
  split_ifs
  · cases hscreen : app.currentScreen with
    | home screen =>
      simp [ToothPasteTUI.showDeviceList, ToothPasteTUI.showConnected,
        ToothPasteTUI.showPairingInput, AtHome, hstack, ScreenVariant.kind]
    | scanning | deviceList | connected | pairingInput => rw [hscreen] at hkind; cases hkind
  · exact ⟨hkind, hstack⟩

theorem serviceAvailable_syncAppState (app : ToothPasteTUI) (w : Watch AppState) :
    (app.syncAppState w).serviceAvailable = app.serviceAvailable ∧
      (app.syncAppState w).serviceAvailableSeen = app.serviceAvailableSeen := by
  have hlist : ∀ app : ToothPasteTUI, app.showDeviceList.serviceAvailable = app.serviceAvailable ∧
      app.showDeviceList.serviceAvailableSeen = app.serviceAvailableSeen := fun app => by
    unfold ToothPasteTUI.showDeviceList
    split
    · split_ifs <;> exact ⟨rfl, rfl⟩
    · exact ⟨rfl, rfl⟩
  have hconnected : ∀ app : ToothPasteTUI, app.showConnected.serviceAvailable =
      app.serviceAvailable ∧ app.showConnected.serviceAvailableSeen = app.serviceAvailableSeen :=
    fun app => by
      unfold ToothPasteTUI.showConnected
      split
      · split_ifs <;> exact ⟨rfl, rfl⟩
      · split_ifs <;> exact ⟨rfl, rfl⟩
      · exact ⟨rfl, rfl⟩
  have hpairing : ∀ app : ToothPasteTUI, app.showPairingInput.serviceAvailable =
      app.serviceAvailable ∧ app.showPairingInput.serviceAvailableSeen = app.serviceAvailableSeen :=
    fun app => by
      unfold ToothPasteTUI.showPairingInput
      split
      · split_ifs <;> exact ⟨rfl, rfl⟩
      · exact ⟨rfl, rfl⟩
  unfold ToothPasteTUI.syncAppState
  split_ifs
  · rw [(hpairing _).1, (hpairing _).2, (hconnected _).1, (hconnected _).2, (hlist _).1,
      (hlist _).2]
    exact ⟨rfl, rfl⟩
  · exact ⟨rfl, rfl⟩

/-- On the home screen, while the service is gone, a key leads nowhere. -/
theorem handleKey_home {screen : ScreenVariant} {view : View} (hkind : screen.kind = .home)
    (hgone : view.serviceAvailable = false) (key : KeyCode) (newScreen : ScreenVariant) :
    (screen.handleKey cr view key).signal ≠ .screen newScreen := by
  cases screen with
  | home screen =>
    cases key with
    | enter =>
      dsimp only [ScreenVariant.handleKey, ScreenVariant.handleEnterKey, Answer.map,
        HomeScreen.handleEnterKey]
      rw [hgone]
      grind
    | char c =>
      dsimp only [ScreenVariant.handleKey, ScreenVariant.handleNavKey, Answer.map,
        HomeScreen.handleNavKey]
      split_ifs <;> exact fun h => by cases h
    | backspace | up | down | esc | other => exact fun h => by cases h
  | scanning | deviceList | connected | pairingInput => cases hkind

theorem handleKeypress_home {app : ToothPasteTUI} {view : View} (h : AtHome app)
    (hgone : view.serviceAvailable = false) (key : KeyCode) :
    AtHome (app.handleKeypress cr view key).1 := by
  obtain ⟨hkind, hstack⟩ := h
  have hscreen : (app.currentScreen.handleKey cr view key).screen.kind = app.currentScreen.kind :=
    app.currentScreen.kind_handleKey key
  rw [ToothPasteTUI.handleKeypress]
  cases hsignal : (app.currentScreen.handleKey cr view key).signal with
  | screen newScreen => exact absurd hsignal (handleKey_home hkind hgone key newScreen)
  | command => exact ⟨hscreen.trans hkind, hstack⟩
  | back =>
    -- there is nothing to go back to
    dsimp only [ToothPasteTUI.applyNavSignal]
    rw [hstack]
    exact ⟨hscreen.trans hkind, rfl⟩

/-- The screens keep to what they know of the service, if the channel is sent on only when they have
no news of it. -/
theorem Informed.step {cl cl' : Client} (h : Informed cl) {b : ClientAction}
    (hst : cl.step cr b = some cl')
    (hprompt : ∀ v, b = .sendServiceAvailable v →
      ¬ cl.serviceAvailable.HasChanged cl.app.serviceAvailableSeen) : Informed cl' := by
  cases Client.moves_of_step hst with
  | sendAppState | recvCommand => exact h.of_app rfl rfl rfl fun _ hhome => hhome
  | fail => exact h.of_app rfl rfl rfl fun _ hhome => hhome
  | sendServiceAvailable available =>
    have hsame := hprompt available rfl
    refine ⟨h.seen_le.trans (Nat.le_succ _), fun hsame' => ?_, fun hgone => ?_⟩
    · exact absurd (Decidable.not_not.mp hsame') (Nat.lt_succ_of_le h.seen_le).ne
    -- they had seen that the service is gone
    · rcases h.home hgone with hathome | hback
      · exact .inl hathome
      · exact absurd ((h.known hsame).symm.trans hgone) (by rw [hback]; exact nofun)
  | syncService hpoint =>
    unfold ToothPasteTUI.syncServiceAvailable
    split_ifs with hchanged hreset
    · exact ⟨le_rfl, fun _ => rfl, fun _ => .inl ⟨rfl, rfl⟩⟩
    · refine ⟨le_rfl, fun _ => rfl, fun hgone => ?_⟩
      have hgone : cl.serviceAvailable.value = false := hgone
      cases happ : cl.app.serviceAvailable with
      | true => simp [hgone, happ] at hreset
      | false => exact h.home happ
    · exact h.of_app rfl rfl rfl fun _ hhome => hhome
  | syncState hpoint =>
    obtain ⟨havailable, hseen⟩ := serviceAvailable_syncAppState cl.app cl.appState
    exact h.of_app rfl hseen havailable fun _ hhome => syncAppState_home _ hhome
  | draw hpoint select =>
    exact h.of_app rfl rfl rfl fun _ hhome =>
      ⟨(ScreenVariant.kind_render select _).trans hhome.1, hhome.2⟩
  | poll => exact h.of_app rfl rfl rfl fun _ hhome => hhome
  | key hpoint key =>
    have happ : ((cl.app.handleKeypress cr cl.view key).2.foldl Client.emit
        { cl with app := (cl.app.handleKeypress cr cl.view key).1 }).next.app =
          (cl.app.handleKeypress cr cl.view key).1 := Client.foldl_emit_app _ _
    have hchannel : ((cl.app.handleKeypress cr cl.view key).2.foldl Client.emit
        { cl with app := (cl.app.handleKeypress cr cl.view key).1 }).next.serviceAvailable =
          cl.serviceAvailable :=
      (channels_of_ofScreens rfl
        (.key hpoint key : cl.Moves cr (.poll (some (.key key .press))) _)).2
    have hkept : (cl.app.handleKeypress cr cl.view key).1.serviceAvailable =
        cl.app.serviceAvailable ∧
        (cl.app.handleKeypress cr cl.view key).1.serviceAvailableSeen =
          cl.app.serviceAvailableSeen := by
      rw [ToothPasteTUI.handleKeypress]
      cases (cl.app.currentScreen.handleKey cr cl.view key).signal with
      | screen | command => exact ⟨rfl, rfl⟩
      | back => cases cl.app.screenStack <;> simp [ToothPasteTUI.applyNavSignal]
    refine h.of_app hchannel (by rw [happ, hkept.2]) (by rw [happ, hkept.1]) fun hgone hhome => ?_
    rw [happ]
    exact handleKeypress_home hhome hgone key

/-- The bridge sends on the channel of the availability only when the screens have no news of it.
The bridge sleeps for a second before it tries to connect again, and the screens look at the channel
ten times in a second. -/
def Prompt (s : Desktop ι) : Action ι → Prop
  | .sendUnavailable i | .sendAvailable i => (s.parties i).started = true →
    ¬ (s.parties i).screens.serviceAvailable.HasChanged
      (s.parties i).screens.app.serviceAvailableSeen
  | _ => True

instance : ∀ (s : Desktop ι) (a : Action ι), Decidable (Prompt s a)
  | s, .sendUnavailable i | s, .sendAvailable i => inferInstanceAs (Decidable
    ((s.parties i).started = true → ¬ (s.parties i).screens.serviceAvailable.HasChanged
      (s.parties i).screens.app.serviceAvailableSeen))
  | _, .connect _ | _, .quit _ | _, .startTui _ | _, .screens _ _ | _, .sendDefault _
  | _, .bridge _ _ | _, .leaveInner _ | _, .publish _ | _, .dropReceiver | _, .accept
  | _, .serve _ | _, .leave | _, .endService | _, .startService => .isTrue trivial

omit [DecidableEq ι] in
theorem Prompt.of_sends (h : Prompt s a) {i : ι} (hsends : a.Sends i)
    (hstarted : (s.parties i).started = true) :
    ¬ (s.parties i).screens.serviceAvailable.HasChanged
      (s.parties i).screens.app.serviceAvailableSeen := by
  rcases hsends with rfl | rfl <;> exact h hstarted

/-- In every run in which the screens of each client take note of each change of the service's
availability before the next one: a client that has taken note that the service is gone is on the
home screen, with nothing to go back to, as long as the service is gone. -/
theorem home_when_unavailable (h : (desktop codec cr).ReachableVia Prompt s) {i : ι}
    (hstarted : (s.parties i).started = true)
    (hgone : (s.parties i).screens.serviceAvailable.value = false)
    (hseen : ¬ (s.parties i).screens.serviceAvailable.HasChanged
      (s.parties i).screens.app.serviceAvailableSeen) :
    (s.parties i).screens.app.currentScreen.kind = .home ∧
    (s.parties i).screens.app.screenStack = [] := by
  have hinv : (s.parties i).started = true → Informed (s.parties i).screens := by
    refine h.invariant (I := fun s => (s.parties i).started = true →
      Informed (s.parties i).screens) ?_ fun s a t hs hprompt hst => ?_
    · rintro _ rfl
      exact nofun
    · cases screensMove_of_moves (moves_of_step hst) i with
      | none hscreens hstarted => rwa [hscreens, hstarted]
      | start hbefore hstarted hscreens =>
        rw [hscreens]
        exact fun _ => ⟨Nat.zero_le _, fun _ => rfl, fun hgone => .inl ⟨rfl, rfl⟩⟩
      | step b hclient hscreens hstarted hown hsends =>
        rw [hscreens, hstarted]
        exact fun hyes => (hs hyes).step hclient fun v hv => hprompt.of_sends (hsends v hv) hyes
  have hinformed := hinv hstarted
  rcases hinformed.home ((hinformed.known hseen).trans hgone) with hathome | hback
  · exact hathome
  · exact absurd (hgone.symm.trans hback) nofun

/-- The service ends while a client scans. -/
def Sample.homeRun : List (Action Unit) :=
  Sample.joinRun ++ [.startTui ()] ++ Sample.scanRun ++ Sample.lossRun

theorem home_when_unavailable_sample : ∃ s : Desktop Unit,
    (s.parties ()).point = .retrying ∧
    (s.parties ()).screens.app.currentScreen.kind = .home ∧
    (s.parties ()).screens.app.screenStack = [] := by
  have hrun : ((desktop Ipc.Sample.codec sampleTuiCrates).replay Prompt start
      Sample.homeRun).map (fun s => ((s.parties ()).point, (s.parties ()).started,
        (s.parties ()).screens.serviceAvailable.value,
        decide ((s.parties ()).screens.serviceAvailable.HasChanged
          (s.parties ()).screens.app.serviceAvailableSeen))) =
      some (.retrying, true, false, false) := by
    decide +kernel
  obtain ⟨s, hs, hfacts⟩ := Option.map_eq_some_iff.mp hrun
  simp only [Prod.mk.injEq] at hfacts
  obtain ⟨hpoint, hstarted, hgone, hseen⟩ := hfacts
  have hinit : (desktop Ipc.Sample.codec sampleTuiCrates).Init (start : Desktop Unit) := rfl
  exact ⟨s, hpoint, home_when_unavailable (.of_replay Sample.homeRun (.init hinit) hs) hstarted
    hgone (of_decide_eq_false hseen)⟩

end Desktop

end ToothPaste
