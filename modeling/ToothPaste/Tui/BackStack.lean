import Mathlib.Logic.Function.Iterate
import ToothPaste.Lib.RankedStack
import ToothPaste.Tui.Navigation

/-!
# The back stack

The device list stays on the stack when a new scan is started from it, and `sync_app_state` replaces
the scan in place by a device list when devices are found, which then stands on the other one.
Nothing else puts a screen on one of its kind: otherwise the screens rise in rank from the home
screen up (`ScreenKind.rank`).

* `back_stack_bounded`: in every run in which no scan that was started from the device list leads to
  a device list, no kind of screen is stacked twice, and the home screen is reached by going back
  four times at most. The first such scan stacks the device list twice.
* `rescans_pile_up`: four scans from the device list, and the way back takes five steps.
* `back_stack_unbounded`: with more scans the way back takes more steps than any number.
-/

namespace ToothPaste

namespace Tui

open RankedStack

/-- Where a screen stands among the others. -/
def ScreenKind.rank : ScreenKind → Fin 5
  | .home => 0
  | .deviceList => 1
  | .scanning => 2
  | .connected => 3
  | .pairingInput => 4

namespace ToothPasteTUI

variable {s : ToothPasteTUI} {cr : TuiCrates} {view : View}

/-- The kinds of the current screen and of the screens on the stack. -/
def kinds (s : ToothPasteTUI) : List ScreenKind :=
  s.currentScreen.kind :: s.screenStack.map ScreenVariant.kind

/-- No kind of screen occurs twice. -/
def NoneTwice (s : ToothPasteTUI) : Prop := s.kinds.Nodup

instance (s : ToothPasteTUI) : Decidable s.NoneTwice := inferInstanceAs (Decidable s.kinds.Nodup)

/-- Going back `n` times. -/
def goBack (n : ℕ) (s : ToothPasteTUI) : ToothPasteTUI := (fun s => s.applyNavSignal .back)^[n] s

/-- The home screen is reached by going back at most `n` times. -/
def HomeWithin (n : ℕ) (s : ToothPasteTUI) : Prop :=
  ∃ k ≤ n, (s.goBack k).currentScreen.kind = .home

/-! ## Going back -/

/-- Going back leads down the stack. -/
theorem kind_goBack {n : ℕ} (h : n ≤ s.screenStack.length) :
    s.kinds[n]? = some (s.goBack n).currentScreen.kind := by
  induction n generalizing s with
  | zero => rfl
  | succ n ih =>
    cases hstack : s.screenStack with
    | nil =>
      rw [hstack] at h
      cases h
    | cons prev stack =>
      rw [hstack] at h
      have hback : s.applyNavSignal .back =
          { s with currentScreen := prev, screenStack := stack } := by
        rw [applyNavSignal, hstack]
      have hrest := ih (s := s.applyNavSignal .back) (by
        rw [hback]
        exact Nat.le_of_succ_le_succ h)
      rw [goBack, Function.iterate_succ_apply]
      rw [← goBack, ← hrest, hback, kinds, hstack]
      rfl

/-- It takes as many steps back to the home screen as there are screens on the stack. -/
theorem Stacked.homeWithin_iff (h : s.Stacked) {n : ℕ} :
    s.HomeWithin n ↔ s.screenStack.length ≤ n := by
  have hhome : ∀ k ≤ s.screenStack.length,
      (s.goBack k).currentScreen.kind = .home ↔ k = s.screenStack.length := by
    intro k hk
    have hiff := ScreenPath.getElem?_eq_home_iff h k
    rwa [← kinds, kind_goBack hk, Option.some_inj, List.length_map] at hiff
  constructor
  · rintro ⟨k, hk, hback⟩
    by_contra hlt
    have hle : k ≤ s.screenStack.length := by omega
    have heq := (hhome k hle).mp hback
    omega
  · intro hle
    exact ⟨_, hle, (hhome _ le_rfl).mpr rfl⟩

/-! ## Keys -/

/-- The screens rise in rank from the home screen up. -/
def Rising (s : ToothPasteTUI) : Prop := Rises ScreenKind.rank s.kinds

theorem Rising.noneTwice (h : s.Rising) : s.NoneTwice := h.nodup

/-- Screens that rise in rank are at most as many as there are kinds. -/
theorem Rising.length_le (h : s.Rising) : s.screenStack.length ≤ 4 := by
  have hlength := h.length_le_card
  rw [Fintype.card_fin, kinds, List.length_cons, List.length_map] at hlength
  exact Nat.le_of_succ_le_succ hlength

/-- A screen can change to one of at least its rank. -/
theorem Rising.withScreen (h : s.Rising) {screen : ScreenVariant}
    (hrank : s.currentScreen.kind.rank ≤ screen.kind.rank) :
    ToothPasteTUI.Rising { s with currentScreen := screen } :=
  h.raise hrank

theorem Rising.applyNavSignal (h : s.Rising) {signal : NavSignal}
    (hrank : ∀ newScreen, signal = .screen newScreen →
      s.currentScreen.kind.rank < newScreen.kind.rank) : (s.applyNavSignal signal).Rising := by
  cases signal with
  | command => exact h
  | screen newScreen => exact h.push (hrank newScreen rfl)
  | back =>
    rw [Rising, kinds] at h
    rw [ToothPasteTUI.applyNavSignal]
    cases hstack : s.screenStack with
    | nil => exact Rises.singleton ScreenKind.rank _
    | cons prev stack =>
      rw [hstack] at h
      exact h.pop

/-- A key leads to a screen of a higher rank, or back. -/
theorem Rising.handleKeypress (h : s.Rising) (key : KeyCode) :
    (s.handleKeypress cr view key).1.Rising := by
  have hkind : (s.currentScreen.handleKey cr view key).screen.kind = s.currentScreen.kind :=
    s.currentScreen.kind_handleKey key
  refine (h.withScreen (by rw [hkind])).applyNavSignal fun newScreen hsignal => ?_
  rw [hkind]
  rcases ScreenVariant.screen_of_handleKey hsignal with ⟨hhome | hlist, rfl⟩ | ⟨hconnected, rfl⟩
  · rw [hhome]
    decide
  · rw [hlist]
    decide
  · rw [hconnected]
    decide

/-! ## The two channels -/

/-- A service that is lost leads back to the home screen. -/
theorem Rising.syncServiceAvailable (h : s.Rising) (w : Watch Bool) :
    (s.syncServiceAvailable w).Rising := by
  unfold ToothPasteTUI.syncServiceAvailable
  split_ifs
  · exact .singleton _ _
  · exact h
  · exact h

/-- The update shows devices, and no connected one, while a scan is shown that was started from the
device list. -/
def RepeatsDeviceList (s : ToothPasteTUI) (w : Watch AppState) : Prop :=
  w.HasChanged s.appStateSeen ∧ s.currentScreen = .scanning ∧
    s.kinds[1]? = some .deviceList ∧ w.value.devices ≠ [] ∧ w.value.connectedDevice = none

instance (s : ToothPasteTUI) (w : Watch AppState) : Decidable (s.RepeatsDeviceList w) :=
  inferInstanceAs (Decidable (_ ∧ _ ∧ _ ∧ _ ∧ _))

/-- The device list takes the place of a scan that was not started from it. -/
theorem Rising.toDeviceList (h : s.Rising) (hscan : s.currentScreen = .scanning)
    (hbelow : s.kinds[1]? ≠ some .deviceList) (screen : DeviceListScreen) :
    ToothPasteTUI.Rising { s with currentScreen := .deviceList screen } := by
  rw [Rising, kinds, hscan] at h
  refine h.replace fun below hhead => ?_
  have hrank := List.rel_of_pairwise_cons h (List.mem_of_mem_head? hhead)
  have hne : below ≠ .deviceList := by
    rintro rfl
    rw [kinds, List.getElem?_cons_succ, ← List.head?_eq_getElem?] at hbelow
    exact hbelow hhead
  show below.rank < ScreenKind.deviceList.rank
  -- only the home screen is left of the two that rank below a scan
  cases below with
  | home => decide
  | deviceList => exact absurd rfl hne
  | scanning | connected | pairingInput => exact absurd hrank (by decide)

/-- The connected screen takes the place of a scan or of the device list. -/
theorem Rising.showConnected (h : s.Rising) : s.showConnected.Rising := by
  unfold ToothPasteTUI.showConnected
  split
  case h_1 hscreen | h_2 hscreen =>
    split_ifs
    · refine h.withScreen ?_
      simp only [hscreen, ScreenVariant.kind]
      decide
    · exact h
  case h_3 => exact h

/-- A device list that is shown in the place of a scan is replaced at once if a device is
connected. -/
theorem showConnected_showDeviceList (hconnected : s.appState.connectedDevice.isSome = true) :
    s.showDeviceList.showConnected = s.showConnected := by
  rw [showDeviceList]
  split
  case h_1 hscreen =>
    split_ifs
    · rw [showConnected, showConnected, hscreen]
      simp only [hconnected, if_true]
    · rfl
  case h_2 => rfl

theorem Rising.showDeviceList (h : s.Rising)
    (hbelow : s.currentScreen = .scanning → s.appState.devices ≠ [] →
      s.kinds[1]? ≠ some .deviceList) : s.showDeviceList.Rising := by
  unfold ToothPasteTUI.showDeviceList
  split
  case h_1 hscreen =>
    split_ifs with hdevices
    · exact h.toDeviceList hscreen (hbelow hscreen hdevices) _
    · exact h
  case h_2 => exact h

/-- The input of a key is put on the connected screen. -/
theorem Rising.showPairingInput (h : s.Rising) : s.showPairingInput.Rising := by
  unfold ToothPasteTUI.showPairingInput
  split
  case h_1 hscreen =>
    split_ifs
    · rw [Rising, kinds, hscreen] at h
      exact h.push (show ScreenKind.connected.rank < ScreenKind.pairingInput.rank by decide)
    · exact h
  case h_2 => exact h

theorem Rising.syncAppState (h : s.Rising) {w : Watch AppState} (hnot : ¬ s.RepeatsDeviceList w) :
    (s.syncAppState w).Rising := by
  unfold ToothPasteTUI.syncAppState
  split_ifs with hchanged
  · have hread : Rising { s with appState := w.value, appStateSeen := w.version } := h
    refine Rising.showPairingInput ?_
    by_cases hconnected : w.value.connectedDevice.isSome = true
    -- the scan gives way to the connected screen, whatever it stands on
    · rw [showConnected_showDeviceList hconnected]
      exact hread.showConnected
    · refine (hread.showDeviceList fun hscan hdevices hlist => ?_).showConnected
      exact hnot ⟨hchanged, hscan, hlist, hdevices, by simpa using hconnected⟩
  · exact h

/-- The device list comes to stand on the device list. -/
theorem RepeatsDeviceList.kinds_syncAppState {w : Watch AppState} (h : s.RepeatsDeviceList w) :
    ∃ rest, (s.syncAppState w).kinds = .deviceList :: .deviceList :: rest := by
  obtain ⟨hchanged, hscan, hlist, hdevices, hnone⟩ := h
  rw [kinds, List.getElem?_cons_succ, ← List.head?_eq_getElem?] at hlist
  obtain ⟨rest, hrest⟩ := List.head?_eq_some_iff.mp hlist
  refine ⟨rest, ?_⟩
  rw [ToothPasteTUI.syncAppState, if_pos hchanged, showDeviceList]
  simp only [hscan, hdevices, ne_eq, not_false_eq_true, if_true, showConnected, hnone,
    Option.isSome_none, Bool.false_eq_true, if_false, showPairingInput, kinds, hrest]
  rfl

/-- So it occurs twice. -/
theorem RepeatsDeviceList.not_noneTwice {w : Watch AppState} (h : s.RepeatsDeviceList w) :
    ¬ (s.syncAppState w).NoneTwice := by
  obtain ⟨rest, hkinds⟩ := h.kinds_syncAppState
  rw [NoneTwice, hkinds]
  simp

end ToothPasteTUI

namespace Client

variable {c t : Client} {cr : TuiCrates}

/-! ## Runs -/

/-- The step shows the devices that a scan from the device list has found. -/
def RepeatsDeviceList (c : Client) : ClientAction → Prop
  | .syncState => c.app.RepeatsDeviceList c.appState
  | _ => False

instance (c : Client) (a : ClientAction) : Decidable (c.RepeatsDeviceList a) :=
  match a with
  | .syncState => inferInstanceAs (Decidable (c.app.RepeatsDeviceList c.appState))
  | .sendAppState _ | .sendServiceAvailable _ | .recvCommand | .syncService | .draw _ | .poll _
  | .fail => inferInstanceAs (Decidable False)

/-- Every other step leaves the screens rising in rank. -/
theorem rising_step (h : c.app.Rising) {a : ClientAction} (hnot : ¬ c.RepeatsDeviceList a)
    (hst : c.step cr a = some t) : t.app.Rising := by
  cases moves_of_step hst with
  | sendAppState | sendServiceAvailable | recvCommand | poll | fail => exact h
  | syncService => exact h.syncServiceAvailable _
  | syncState => exact h.syncAppState hnot
  | draw hpoint select =>
    refine h.withScreen ?_
    rw [ScreenVariant.kind_render]
  | key hpoint key =>
    rw [Client.next, foldl_emit_app]
    exact h.handleKeypress key

/-- The step puts the device list on the device list. -/
theorem RepeatsDeviceList.not_noneTwice {a : ClientAction} (h : c.RepeatsDeviceList a)
    (hst : c.step cr a = some t) : ¬ t.app.NoneTwice := by
  cases moves_of_step hst with
  | syncState => exact ToothPasteTUI.RepeatsDeviceList.not_noneTwice h
  | _ => exact h.elim

end Client

variable {cr : TuiCrates}

/-- In every run of the client in which no update shows devices, and no connected one, while a scan
is shown that was started from the device list: no kind of screen occurs twice among the current
screen and the stacked ones, and the home screen is reached by going back four times at most. The
first such update stacks the device list twice. -/
theorem back_stack_bounded {c : Client}
    (h : (client cr).ReachableVia (fun c a => ¬ c.RepeatsDeviceList a) c) :
    c.app.NoneTwice ∧ c.app.HomeWithin 4 ∧
    ∀ a t, (client cr).step c a = some t → c.RepeatsDeviceList a → ¬ t.app.NoneTwice := by
  have hinv : c.Inv ∧ c.app.Rising := by
    refine h.invariant (I := fun c => c.Inv ∧ c.app.Rising) ?_ fun c a t hc hnot hst =>
      ⟨Client.inv_step hc.1 hst, Client.rising_step hc.2 hnot hst⟩
    rintro _ ⟨appState, serviceAvailable, rfl⟩
    exact ⟨⟨.home, nofun⟩, .singleton _ _⟩
  exact ⟨hinv.2.noneTwice, hinv.1.stacked.homeWithin_iff.mpr hinv.2.length_le,
    fun a t hst hrepeats => hrepeats.not_noneTwice hst⟩

/-- The state with a device nearby that is not connected. -/
def foundState : AppState :=
  { AppState.initial with devices := [{ refusingDevice with state := .disconnected }] }

/-- A scan is started from the home screen; then, `n` times, the device is found and another scan is
started from the device list. -/
def rescanRun (n : ℕ) : List ClientAction :=
  roundWith .down ++ roundWith .enter ++
    (List.replicate n (.sendAppState foundState :: roundWith (.char 's'))).flatten

/-- The client as it is set up while the service is available. -/
def startedClient : Client :=
  ⟨.new ⟨AppState.initial, 0⟩ ⟨true, 0⟩, .syncService, ⟨AppState.initial, 0⟩, ⟨true, 0⟩, []⟩

/-- The second scan, on the device list, has not found the device yet. -/
theorem back_stack_bounded_sample : ∃ c : Client,
    c.app.kinds = [.scanning, .deviceList, .home] ∧ c.app.NoneTwice ∧ c.app.HomeWithin 4 := by
  have hrun : ((client sampleTuiCrates).replay (fun c a => ¬ c.RepeatsDeviceList a) startedClient
      (rescanRun 1)).map (fun c => c.app.kinds) = some [.scanning, .deviceList, .home] := by
    decide +kernel
  obtain ⟨c, hc, hkinds⟩ := Option.map_eq_some_iff.mp hrun
  obtain ⟨hnone, hhome, -⟩ := back_stack_bounded (.of_replay _ (.init ⟨_, _, rfl⟩) hc)
  exact ⟨c, hkinds, hnone, hhome⟩

/-- After four scans that have found the device, and one more that was started, it takes five steps
back to the home screen. -/
theorem rescans_pile_up :
    (¬ ∀ c : Client, (client sampleTuiCrates).Reachable c → c.app.NoneTwice) ∧
    ¬ ∀ c : Client, (client sampleTuiCrates).Reachable c → c.app.HomeWithin 4 := by
  have hrun : ((client sampleTuiCrates).replay (fun _ _ => True) startedClient
      (rescanRun 4)).map (fun c => c.app.kinds) =
        some [.scanning, .deviceList, .deviceList, .deviceList, .deviceList, .home] := by
    decide +kernel
  obtain ⟨c, hc, hkinds⟩ := Option.map_eq_some_iff.mp hrun
  have hreach : (client sampleTuiCrates).Reachable c := .of_replay _ (.init ⟨_, _, rfl⟩) hc
  refine ⟨fun hclaim => ?_, fun hclaim => ?_⟩
  · have hnone := hclaim c hreach
    rw [ToothPasteTUI.NoneTwice, hkinds] at hnone
    exact absurd hnone (by decide)
  · have hlength := congrArg List.length hkinds
    rw [ToothPasteTUI.kinds, List.length_cons, List.length_map] at hlength
    have hle := (Client.inv_of_reachable hreach).stacked.homeWithin_iff.mp (hclaim c hreach)
    rw [Nat.succ.inj hlength] at hle
    exact absurd hle (by decide)

/-! ## Growth -/

namespace Client

/-- A round of the loop starts on a scan, with nothing of the service to take over. -/
structure AtScan (c : Client) : Prop where
  point : c.point = .syncService
  scanning : c.app.currentScreen = .scanning
  serviceSeen : ¬ c.serviceAvailable.HasChanged c.app.serviceAvailableSeen
  stateSeen : c.app.appStateSeen ≤ c.appState.version
  exit : c.app.exit = false

/-- The scan finds a device, and another one is started from the device list. -/
theorem AtScan.rescan {c : Client} (h : c.AtScan) (hreach : (client cr).Reachable c) :
    ∃ t : Client, (client cr).Reachable t ∧ t.AtScan ∧
      t.app.screenStack.length = c.app.screenStack.length + 1 := by
  obtain ⟨⟨screen, stack, shown, available, exit, seen, serviceSeen⟩, point, appState, service,
    commands⟩ := c
  obtain ⟨rfl, rfl, hservice, hseen, rfl⟩ := h
  have hchanged : (appState.send foundState).HasChanged seen :=
    Nat.ne_of_lt (Nat.lt_succ_of_le hseen)
  have hsent := hreach.step (a := .sendAppState foundState) rfl
  have hserviced := hsent.step (a := .syncService) rfl
  rw [ToothPasteTUI.syncServiceAvailable, if_neg hservice] at hserviced
  have hsynced := hserviced.step (a := .syncState) rfl
  rw [ToothPasteTUI.syncAppState, if_pos hchanged] at hsynced
  -- the device list has taken the place of the scan
  have hdrawn : (client cr).Reachable ⟨⟨.deviceList (.new foundState), stack, foundState, available,
      false, appState.version + 1, serviceSeen⟩, .poll, appState.send foundState, service,
      commands⟩ := hsynced.step (a := .draw clampSelection) rfl
  have hkey : (client cr).Reachable (emit ⟨⟨.scanning, .deviceList (.new foundState) :: stack,
      foundState, available, false, appState.version + 1, serviceSeen⟩, .poll,
      appState.send foundState, service, commands⟩ (.trySend .scanForDevices)).next :=
    hdrawn.step (a := .poll (some (.key (.char 's') .press))) rfl
  rw [emit] at hkey
  split_ifs at hkey
  · exact ⟨_, hkey, ⟨rfl, rfl, hservice, le_rfl, rfl⟩, rfl⟩
  · exact ⟨_, hkey, ⟨rfl, rfl, hservice, le_rfl, rfl⟩, rfl⟩

/-- The first scan is started from the home screen. -/
theorem exists_atScan : ∃ c : Client, (client sampleTuiCrates).Reachable c ∧ c.AtScan := by
  have hrun : ((client sampleTuiCrates).replay (fun _ _ => True) startedClient (rescanRun 0)).map
      (fun c => (c.point, c.app.currentScreen, c.app.serviceAvailableSeen,
        c.serviceAvailable.version, c.app.appStateSeen, c.app.exit)) =
      some (.syncService, .scanning, 0, 0, 0, false) := by decide +kernel
  obtain ⟨c, hc, hfacts⟩ := Option.map_eq_some_iff.mp hrun
  simp only [Prod.mk.injEq] at hfacts
  obtain ⟨hpoint, hscan, hseen, hversion, hstate, hexit⟩ := hfacts
  refine ⟨c, .of_replay _ (.init ⟨_, _, rfl⟩) hc, hpoint, hscan, fun hchanged => ?_, ?_, hexit⟩
  · exact hchanged (hseen.trans hversion.symm)
  · rw [hstate]
    exact Nat.zero_le _

end Client

/-- However far, the home screen can be farther away. -/
theorem back_stack_unbounded (n : ℕ) :
    ∃ c : Client, (client sampleTuiCrates).Reachable c ∧ ¬ c.app.HomeWithin n := by
  have hgrows : ∃ c : Client, (client sampleTuiCrates).Reachable c ∧ c.AtScan ∧
      n ≤ c.app.screenStack.length := by
    induction n with
    | zero =>
      obtain ⟨c, hreach, hscan⟩ := Client.exists_atScan
      exact ⟨c, hreach, hscan, Nat.zero_le _⟩
    | succ n ih =>
      obtain ⟨c, hreach, hscan, hlength⟩ := ih
      obtain ⟨t, ht, htscan, hgrown⟩ := hscan.rescan hreach
      exact ⟨t, ht, htscan, by omega⟩
  obtain ⟨c, hreach, hscan, hlength⟩ := hgrows
  obtain ⟨t, ht, -, hgrown⟩ := hscan.rescan hreach
  refine ⟨t, ht, fun hhome => ?_⟩
  have hle := (Client.inv_of_reachable ht).stacked.homeWithin_iff.mp hhome
  omega

end Tui

end ToothPaste
