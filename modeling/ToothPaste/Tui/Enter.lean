import ToothPaste.Tui.Navigation

/-!
# Enter on what was drawn

A screen draws its items from what is in the watch channels, and Enter looks into the channels once
more. What is published in between moves the items under the selection, and nothing compares the two
reads.

* `enter_does_shown_iff`: with renders, keys and updates in any order, Enter does what the item
  does that the last render drew at the selected index, or nothing, exactly when there is no item at
  the index any more or Enter reads what the last render read.
* `Client.enter_does_shown_iff_at_poll`: so it is in every run of the client.
* `quit_kills_service`: Quit is highlighted, the service comes up, and Enter shuts it down.
-/

namespace ToothPaste

namespace Tui

/-- The items that the screens draw. -/
inductive MenuItem where
  /-- `"  Scan for Devices"`. -/
  | scanForDevices
  /-- `"  Shut down Service"`. -/
  | shutDownService
  /-- `"  Start Service"`. -/
  | startService
  /-- `"  Quit"`. -/
  | quit
  /-- The name of a device and its signal strength. -/
  | connectTo (device : Device)
  /-- `"  Pair Device"`. -/
  | pairDevice
  /-- `"  Disconnect"`. -/
  | disconnect
  deriving DecidableEq

/-- What a key makes the application do: the signal to it, and the outputs. -/
def Answer.effect {σ : Type} (answer : Answer σ) : NavSignal × List TuiOutput :=
  (answer.signal, answer.outputs)

namespace MenuItem

/-- What it means to choose the item. -/
def effect : MenuItem → NavSignal × List TuiOutput
  | .scanForDevices => (.screen .scanning, [.trySend .scanForDevices])
  | .shutDownService => (.command, [.trySend .killService])
  | .startService => (.command, [.spawnService])
  | .quit => (.back, [])
  | .connectTo device => (.command, [.trySend (.connectToDevice device)])
  | .pairDevice => (.screen (.pairingInput .new), [])
  | .disconnect => (.back, [.trySend .disconnectDevice])

/-- The same item, whatever else is known of a device. -/
def SameAs : MenuItem → MenuItem → Prop
  | .connectTo device, .connectTo device' => device.address = device'.address
  | item, item' => item = item'

@[simp]
theorem SameAs.refl (item : MenuItem) : item.SameAs item := by
  cases item <;> rfl

/-- No two items mean the same. -/
theorem effect_injective : Function.Injective effect := by
  intro item item' h
  cases item <;> cases item' <;> simp_all [effect]

/-- Every item does something. -/
theorem effect_ne_nothing (item : MenuItem) : item.effect ≠ (.command, []) := by
  cases item <;> simp [effect]

end MenuItem

/-- The items of the home screen. -/
def homeItems (serviceAvailable : Bool) : List MenuItem :=
  if serviceAvailable then [.scanForDevices, .shutDownService, .quit] else [.startService, .quit]

/-- The items of the connected screen. -/
def connectedItems (authenticated : Bool) : List MenuItem :=
  if authenticated then [.disconnect] else [.pairDevice, .disconnect]

/-- The item at the selected index. -/
def pick {α : Type} (items : List α) (selected : Option ℕ) : Option α :=
  selected.bind fun idx => items[idx]?

@[simp]
theorem pick_nil {α : Type} (selected : Option ℕ) : pick ([] : List α) selected = none := by
  cases selected <;> rfl

/-- Items can be mapped before or after one is picked. -/
theorem pick_map {α β : Type} (f : α → β) (items : List α) (selected : Option ℕ) :
    pick (items.map f) selected = (pick items selected).map f := by
  cases selected with
  | none => rfl
  | some idx => exact List.getElem?_map

namespace ScreenVariant

/-- A screen with a list. -/
def HasList : ScreenVariant → Prop
  | .home _ | .deviceList _ | .connected _ => True
  | .scanning | .pairingInput _ => False

/-- The selected index of the list. -/
def selected : ScreenVariant → Option ℕ
  | .home s => s.selected
  | .deviceList s => s.selected
  | .connected s => s.selected
  | .scanning | .pairingInput _ => none

/-- The device list is waiting for a connection. -/
def Connecting : ScreenVariant → Prop
  | .deviceList s => s.connectingTo.isSome = true
  | _ => False

/-- The items that Enter chooses from. -/
def items (view : View) : ScreenVariant → List MenuItem
  | .home _ => homeItems view.serviceAvailable
  | .deviceList s =>
    if s.connectingTo.isSome then [] else view.appState.devices.map .connectTo
  | .connected _ => connectedItems view.appState.isAuthenticated
  | .scanning | .pairingInput _ => []

/-- The items that `render` draws. -/
def drawnItems (view : View) : ScreenVariant → List MenuItem
  -- without a connected device the screen returns before it draws anything
  | .connected s =>
    if view.appState.connectedDevice.isSome then (connected s).items view else []
  | screen => screen.items view

/-- The item that Enter finds at the selected index. -/
def selectedItem (view : View) (screen : ScreenVariant) : Option MenuItem :=
  pick (screen.items view) screen.selected

variable {cr : TuiCrates} {view : View}

/-- A list that waits for a connection has no items. -/
theorem not_connecting {screen : ScreenVariant} {item : MenuItem}
    (hitem : screen.selectedItem view = some item) : ¬ screen.Connecting := by
  intro h
  cases screen with
  | deviceList s =>
    have hconnecting : s.connectingTo.isSome = true := h
    rw [selectedItem, items, if_pos hconnecting, pick_nil] at hitem
    cases hitem
  | home | scanning | connected | pairingInput => exact h.elim

end ScreenVariant

/-! ## What Enter does -/

/-- The answer does what the item does, or nothing where there is none. -/
def Chooses {σ : Type} (item : Option MenuItem) (screen : σ) (answer : Answer σ) : Prop :=
  match item with
  | some item => answer.effect = item.effect
  | none => answer = ⟨.command, screen, []⟩

/-- A screen answers as its inner one does. -/
theorem Chooses.map {σ τ : Type} {item : Option MenuItem} {screen : σ} {answer : Answer σ}
    (h : Chooses item screen answer) (f : σ → τ) : Chooses item (f screen) (answer.map f) := by
  cases item with
  | some item => exact h
  | none => exact congrArg (Answer.map f) h

variable {cr : TuiCrates} {view : View}

/-- Enter on the home screen does what the item says. -/
theorem HomeScreen.chooses (s : HomeScreen) :
    Chooses (pick (homeItems view.serviceAvailable) s.selected) s (s.handleEnterKey view) := by
  unfold HomeScreen.handleEnterKey
  cases view.serviceAvailable with
  | true => rcases s with ⟨_ | _ | _ | _ | idx, status⟩ <;> rfl
  | false => rcases s with ⟨_ | _ | _ | idx, status⟩ <;> rfl

/-- Enter on the list connects to the device, unless a connection is on its way. -/
theorem DeviceListScreen.chooses (s : DeviceListScreen) :
    Chooses (pick (if s.connectingTo.isSome then [] else
        view.appState.devices.map MenuItem.connectTo) s.selected) s (s.handleEnterKey view) := by
  unfold DeviceListScreen.handleEnterKey
  split_ifs
  · cases s.selected <;> rfl
  · rw [pick_map, pick]
    cases s.selected.bind fun idx => view.appState.devices[idx]? <;> rfl

/-- Enter on the connected screen does what the item says. -/
theorem ConnectedScreen.chooses (s : ConnectedScreen) :
    Chooses (pick (connectedItems view.appState.isAuthenticated) s.selected) s
      (s.handleEnterKey view) := by
  unfold ConnectedScreen.handleEnterKey
  cases view.appState.isAuthenticated with
  | true => rcases s with ⟨_ | _ | _ | idx, status⟩ <;> rfl
  | false => rcases s with ⟨_ | _ | _ | idx, status⟩ <;> rfl

/-- Enter does what the item does that it finds. -/
theorem ScreenVariant.chooses {screen : ScreenVariant} (hlist : screen.HasList) :
    Chooses (screen.selectedItem view) screen (screen.handleEnterKey cr view) := by
  cases screen with
  | home s => exact s.chooses.map ScreenVariant.home
  | deviceList s => exact s.chooses.map ScreenVariant.deviceList
  | connected s => exact s.chooses.map ScreenVariant.connected
  | scanning | pairingInput => exact hlist.elim

/-! ## What was drawn -/

/-- A render: what was in the channels, and the items that were drawn. -/
structure Drawing where
  view : View
  items : List MenuItem

/-- The item that the last render drew at the selected index. -/
def shownItem (drawing : Option Drawing) (screen : ScreenVariant) : Option MenuItem :=
  drawing.bind fun d => pick d.items screen.selected

/-- Enter does what the item does that is shown at the selected index, or nothing. -/
def EnterDoesShown (cr : TuiCrates) (drawing : Option Drawing) (view : View)
    (screen : ScreenVariant) : Prop :=
  screen.handleEnterKey cr view = ⟨.command, screen, []⟩ ∨
    ∃ shown item, shownItem drawing screen = some shown ∧ shown.SameAs item ∧
      (screen.handleEnterKey cr view).effect = item.effect

/-- What Enter goes by is as it was when the screen was drawn. -/
def ReadsAlike (drawn view : View) : ScreenVariant → Prop
  | .home _ => drawn.serviceAvailable = view.serviceAvailable
  | .deviceList s =>
    (pick drawn.appState.devices s.selected).map Device.address =
      (pick view.appState.devices s.selected).map Device.address
  | .connected _ =>
    drawn.appState.connectedDevice.isSome = true ∧
      drawn.appState.isAuthenticated = view.appState.isAuthenticated
  | .scanning | .pairingInput _ => True

/-- Enter finds no item at the selected index, or it reads what the last render read. -/
def EnterReadsDrawn (drawing : Option Drawing) (view : View) (screen : ScreenVariant) : Prop :=
  screen.selectedItem view = none ∨ ∃ d ∈ drawing, ReadsAlike d.view view screen

/-- The drawing is one of the screen, unless a device is being connected by now. -/
def DrawnFrom (drawing : Option Drawing) (screen : ScreenVariant) : Prop :=
  ∀ d ∈ drawing, d.items = screen.drawnItems d.view ∨ screen.Connecting

/-- Of two lists that agree at no index, only the list itself has an item where the item was. -/
theorem pick_sameAs_iff {items : Bool → List MenuItem}
    (hdiffer : ∀ b, ∀ p ∈ (items b).zip (items !b), ¬ p.1.SameAs p.2) {before now : Bool}
    {selected : Option ℕ} {item : MenuItem} (hitem : pick (items now) selected = some item) :
    (∃ shown, pick (items before) selected = some shown ∧ shown.SameAs item) ↔ before = now := by
  constructor
  · rintro ⟨shown, hshown, hsame⟩
    by_contra hne
    obtain rfl : now = !before := Bool.eq_not_of_ne (Ne.symm hne)
    obtain ⟨idx, rfl, hbefore⟩ := Option.bind_eq_some_iff.mp hshown
    have hzip : ((items before).zip (items !before))[idx]? = some (shown, item) :=
      List.getElem?_zip_eq_some.mpr ⟨hbefore, hitem⟩
    exact hdiffer before _ (List.mem_of_getElem? hzip) hsame
  · rintro rfl
    exact ⟨item, hitem, .refl item⟩

/-- No item of the home screen keeps its place when the service comes or goes. -/
theorem homeItems_differ (b : Bool) :
    ∀ p ∈ (homeItems b).zip (homeItems !b), ¬ p.1.SameAs p.2 := by
  cases b <;> simp [homeItems, MenuItem.SameAs]

/-- No item of the connected screen keeps its place when the authentication changes. -/
theorem connectedItems_differ (b : Bool) :
    ∀ p ∈ (connectedItems b).zip (connectedItems !b), ¬ p.1.SameAs p.2 := by
  cases b <;> simp [connectedItems, MenuItem.SameAs]

/-- The item at the selected index was drawn there exactly when the two reads agree. -/
theorem drawn_sameAs_iff {drawn : View} {screen : ScreenVariant} {item : MenuItem}
    (hitem : screen.selectedItem view = some item) :
    (∃ shown, pick (screen.drawnItems drawn) screen.selected = some shown ∧ shown.SameAs item) ↔
      ReadsAlike drawn view screen := by
  cases screen with
  | home s => exact pick_sameAs_iff homeItems_differ hitem
  -- a device may be listed again with another signal strength
  | deviceList s =>
    have hidle : s.connectingTo.isSome = false := Bool.eq_false_iff.mpr
      (ScreenVariant.not_connecting hitem)
    simp only [ScreenVariant.selectedItem, ScreenVariant.items, ScreenVariant.drawnItems, hidle,
      Bool.false_eq_true, if_false, pick_map, ScreenVariant.selected, ReadsAlike] at hitem ⊢
    obtain ⟨device, hdevice, rfl⟩ := Option.map_eq_some_iff.mp hitem
    rw [hdevice]
    cases pick drawn.appState.devices s.selected with
    | none => simp
    | some device' => simp [MenuItem.SameAs]
  | connected s =>
    simp only [ScreenVariant.drawnItems, ReadsAlike]
    cases drawn.appState.connectedDevice.isSome with
    | true =>
      simpa [ScreenVariant.items] using pick_sameAs_iff connectedItems_differ hitem
    | false =>
      simp only [Bool.false_eq_true, if_false, false_and, iff_false]
      rintro ⟨shown, hshown, -⟩
      exact Option.some_ne_none shown (hshown.symm.trans (pick_nil _))
  | scanning | pairingInput => cases hitem

/-- With the screen as it was drawn: Enter does what is shown, or nothing, exactly when it finds no
item or reads what the render read. -/
theorem enterDoesShown_iff {drawing : Option Drawing} {screen : ScreenVariant}
    (hlist : screen.HasList) (hdrawn : DrawnFrom drawing screen) :
    EnterDoesShown cr drawing view screen ↔ EnterReadsDrawn drawing view screen := by
  have hchooses : Chooses (screen.selectedItem view) screen (screen.handleEnterKey cr view) :=
    ScreenVariant.chooses hlist
  cases hitem : screen.selectedItem view with
  | none =>
    rw [hitem] at hchooses
    exact iff_of_true (.inl hchooses) (.inl hitem)
  | some item =>
    rw [hitem] at hchooses
    -- the item does something, and no other item does the same
    have hact : screen.handleEnterKey cr view ≠ ⟨.command, screen, []⟩ := by
      intro hnothing
      rw [hnothing] at hchooses
      exact item.effect_ne_nothing hchooses.symm
    have heffect : ∀ item', (screen.handleEnterKey cr view).effect = item'.effect ↔
        item = item' := fun item' => by
      rw [show _ = item.effect from hchooses, MenuItem.effect_injective.eq_iff]
    simp only [EnterDoesShown, EnterReadsDrawn, hact, false_or, heffect, hitem, reduceCtorEq]
    cases drawing with
    -- nothing has been drawn yet
    | none => simp [shownItem]
    | some d =>
      have hitems := (hdrawn d rfl).resolve_right (ScreenVariant.not_connecting hitem)
      simp only [shownItem, Option.bind_some, hitems, Option.mem_def, Option.some.injEq,
        exists_eq_left', ← drawn_sameAs_iff hitem, exists_and_left, exists_eq_right']

/-! ## Runs of a screen -/

theorem DeviceListScreen.connectingTo_handleNavKey (s : DeviceListScreen) (key : KeyCode) :
    (s.handleNavKey cr key).screen.connectingTo = s.connectingTo := by
  unfold DeviceListScreen.handleNavKey
  split_ifs
  · rfl
  · cases key with
    | char c =>
      dsimp only
      split_ifs <;> rfl
    | backspace | enter | up | down | esc | other => rfl

theorem DeviceListScreen.connectingTo_handleEnterKey (s : DeviceListScreen) :
    (s.handleEnterKey view).screen.connectingTo = s.connectingTo ∨
      (s.handleEnterKey view).screen.connectingTo.isSome = true := by
  unfold DeviceListScreen.handleEnterKey
  split_ifs
  · exact .inl rfl
  · split
    · exact .inr rfl
    · exact .inl rfl

/-- A screen, and what is in the channels. -/
structure OnScreen where
  screen : ScreenVariant
  view : View

/-- What may happen while a screen is shown. -/
inductive ScreenAction where
  | sendAppState (newState : AppState)
  | sendServiceAvailable (available : Bool)
  /-- `select` is what drawing a list of so many items makes of the selection. -/
  | render (select : ℕ → Option ℕ → Option ℕ)
  | key (code : KeyCode)

/-- One step; a key that leaves the screen is none. -/
def OnScreen.step (cr : TuiCrates) (s : OnScreen) : ScreenAction → Option OnScreen
  | .sendAppState newState => some { s with view := { s.view with appState := newState } }
  | .sendServiceAvailable available =>
    some { s with view := { s.view with serviceAvailable := available } }
  | .render select => some { s with screen := s.screen.render s.view select }
  | .key code =>
    let answer := s.screen.handleKey cr s.view code
    if answer.signal = .command then some { s with screen := answer.screen } else none

/-- A screen with a list, from the time it is entered, in any order of renders, keys and
updates. -/
def onScreen (cr : TuiCrates) : Transition.System OnScreen ScreenAction where
  Init s := s.screen.HasList
  step := OnScreen.step cr

/-- The drawing after a step. -/
def drawingAfter (drawing : Option Drawing) (s : OnScreen) : ScreenAction → Option Drawing
  | .render _ => some ⟨s.view, s.screen.drawnItems s.view⟩
  | _ => drawing

/-- The screen with its last drawing. -/
def withDrawing (cr : TuiCrates) : Transition.System (OnScreen × Option Drawing) ScreenAction :=
  (onScreen cr).withHistory none fun drawing s a _ => drawingAfter drawing s a

namespace ScreenVariant

/-- The kinds of screens with a list. -/
theorem hasList_congr {screen screen' : ScreenVariant} (hkind : screen'.kind = screen.kind)
    (h : screen.HasList) : screen'.HasList := by
  cases screen <;> cases screen' <;> first | exact h | cases hkind

/-- A render draws the same items again. -/
theorem drawnItems_render (select : ℕ → Option ℕ → Option ℕ) (drawn : View)
    (screen : ScreenVariant) :
    (screen.render view select).drawnItems drawn = screen.drawnItems drawn := by
  cases screen with
  | home | scanning | pairingInput => rfl
  | deviceList s | connected s =>
    simp only [render]
    split_ifs <;> rfl

/-- A key leaves the items as they are, unless it connects a device. -/
theorem drawnItems_handleKey (drawn : View) (screen : ScreenVariant) (key : KeyCode) :
    (screen.handleKey cr view key).screen.drawnItems drawn = screen.drawnItems drawn ∨
      (screen.handleKey cr view key).screen.Connecting := by
  cases screen with
  | home | scanning | connected | pairingInput => cases key <;> exact .inl rfl
  | deviceList s =>
    have hitems : ∀ s' : DeviceListScreen, s'.connectingTo = s.connectingTo →
        (deviceList s').drawnItems drawn = (deviceList s).drawnItems drawn := by
      intro s' hsame
      simp only [drawnItems, items, hsame]
    cases key with
    | backspace => exact .inl rfl
    | enter => exact s.connectingTo_handleEnterKey.imp (hitems _) id
    | up | down | esc | char | other => exact .inl (hitems _ (s.connectingTo_handleNavKey _))

/-- A connection that is on its way stays so. -/
theorem connecting_handleKey {screen : ScreenVariant} (h : screen.Connecting) (key : KeyCode) :
    (screen.handleKey cr view key).screen.Connecting := by
  cases screen with
  | deviceList s =>
    have hconnecting : s.connectingTo.isSome = true := h
    cases key with
    | backspace => exact h
    | enter =>
      show (s.handleEnterKey view).screen.connectingTo.isSome = true
      rw [DeviceListScreen.handleEnterKey, if_pos hconnecting]
      exact h
    | up | down | esc | char | other =>
      show (s.handleNavKey cr _).screen.connectingTo.isSome = true
      rw [s.connectingTo_handleNavKey]
      exact h
  | home | scanning | connected | pairingInput => exact h.elim

end ScreenVariant

/-- The drawing stays one of the screen. -/
theorem DrawnFrom.step {s t : OnScreen} {drawing : Option Drawing} {a : ScreenAction}
    (h : DrawnFrom drawing s.screen) (hstep : s.step cr a = some t) :
    DrawnFrom (drawingAfter drawing s a) t.screen := by
  cases a with
  | sendAppState | sendServiceAvailable =>
    obtain rfl := Option.some.inj hstep
    exact h
  | render select =>
    obtain rfl := Option.some.inj hstep
    rintro d ⟨⟩
    exact .inl (ScreenVariant.drawnItems_render select s.view s.screen).symm
  | key code =>
    simp only [OnScreen.step] at hstep
    split_ifs at hstep
    obtain rfl := Option.some.inj hstep
    intro d hd
    -- the list drawn before a device was chosen is still on the screen
    rcases h d hd with hitems | hconnecting
    · rw [hitems]
      exact (s.screen.drawnItems_handleKey d.view code).imp_left Eq.symm
    · exact .inr (ScreenVariant.connecting_handleKey hconnecting code)

/-- Every step keeps a screen with a list one. -/
theorem hasList_step {s t : OnScreen} {a : ScreenAction} (h : s.screen.HasList)
    (hstep : s.step cr a = some t) : t.screen.HasList := by
  cases a with
  | sendAppState | sendServiceAvailable =>
    obtain rfl := Option.some.inj hstep
    exact h
  | render select =>
    obtain rfl := Option.some.inj hstep
    exact ScreenVariant.hasList_congr (s.screen.kind_render select) h
  | key code =>
    simp only [OnScreen.step] at hstep
    split_ifs at hstep
    obtain rfl := Option.some.inj hstep
    exact ScreenVariant.hasList_congr (s.screen.kind_handleKey code) h

/-- In every run what was drawn is what the screen had then. -/
theorem drawnFrom_of_reachable {p : OnScreen × Option Drawing} (h : (withDrawing cr).Reachable p) :
    p.1.screen.HasList ∧ DrawnFrom p.2 p.1.screen := by
  refine h.invariant_withHistory (I := fun s drawing => s.screen.HasList ∧
    DrawnFrom drawing s.screen) ?_ ?_
  · exact fun s hs => ⟨hs, fun d hd => by cases hd⟩
  · rintro s drawing a t ⟨hlist, hdrawn⟩ - hstep
    exact ⟨hasList_step hlist hstep, hdrawn.step hstep⟩

/-- On the home screen, the device list and the connected screen, for every order of renders, keys
and updates: Enter does what the item does that the last render drew at the selected index, or
nothing, exactly when it finds no item at the index or what it reads is as the last render read
it. -/
theorem enter_does_shown_iff {p : OnScreen × Option Drawing} (h : (withDrawing cr).Reachable p) :
    EnterDoesShown cr p.2 p.1.view p.1.screen ↔ EnterReadsDrawn p.2 p.1.view p.1.screen := by
  obtain ⟨hlist, hdrawn⟩ := drawnFrom_of_reachable h
  exact enterDoesShown_iff hlist hdrawn

/-- The home screen without a service, and Quit is highlighted. -/
def toQuit : List ScreenAction :=
  [.render clampSelection, .key .down, .render clampSelection, .key .down, .render clampSelection]

/-- The home screen after the steps. -/
def homeAfter (steps : List ScreenAction) : Option (OnScreen × Option Drawing) :=
  (withDrawing sampleTuiCrates).replay (fun _ _ => True)
    (⟨.home .new, ⟨.initial, false⟩⟩, none) steps

theorem reachable_of_homeAfter {steps : List ScreenAction} {p : OnScreen × Option Drawing}
    (hp : homeAfter steps = some p) : (withDrawing sampleTuiCrates).Reachable p := by
  have hinit : (withDrawing sampleTuiCrates).Init (⟨.home .new, ⟨.initial, false⟩⟩, none) :=
    ⟨trivial, rfl⟩
  exact .of_replay steps (.init hinit) hp

/-- Quit is shown, and Enter quits. -/
theorem enter_does_shown_sample : ∃ p : OnScreen × Option Drawing,
    shownItem p.2 p.1.screen = some .quit ∧
      EnterDoesShown sampleTuiCrates p.2 p.1.view p.1.screen := by
  have hrun : (homeAfter toQuit).map (fun p => (shownItem p.2 p.1.screen, p.1.screen,
      p.1.view.serviceAvailable, p.2.map fun d => d.view.serviceAvailable)) =
      some (some .quit, .home ⟨some 1, ""⟩, false, some false) := by decide +kernel
  obtain ⟨p, hp, hfacts⟩ := Option.map_eq_some_iff.mp hrun
  simp only [Prod.mk.injEq] at hfacts
  obtain ⟨hshown, hscreen, hservice, hdrawn⟩ := hfacts
  obtain ⟨d, hd, hservice'⟩ := Option.map_eq_some_iff.mp hdrawn
  refine ⟨p, hshown, (enter_does_shown_iff (reachable_of_homeAfter hp)).mpr (.inr ⟨d, hd, ?_⟩)⟩
  rw [hscreen]
  exact hservice'.trans hservice.symm

/-- Quit is shown, the service comes up before the next render, and Enter shuts it down. -/
theorem quit_kills_service : ¬ ∀ p, (withDrawing sampleTuiCrates).Reachable p →
    EnterDoesShown sampleTuiCrates p.2 p.1.view p.1.screen := by
  intro hclaim
  have hrun : (homeAfter (toQuit ++ [.sendServiceAvailable true])).map (fun p =>
      (shownItem p.2 p.1.screen,
        (p.1.screen.handleEnterKey sampleTuiCrates p.1.view).effect)) =
      some (some .quit, MenuItem.shutDownService.effect) := by decide +kernel
  obtain ⟨p, hp, hfacts⟩ := Option.map_eq_some_iff.mp hrun
  obtain ⟨hshown, heffect⟩ := Prod.mk.inj hfacts
  rcases hclaim p (reachable_of_homeAfter hp) with hnothing | ⟨shown, item, hitem, hsame, hdoes⟩
  · rw [hnothing] at heffect
    exact MenuItem.effect_ne_nothing _ heffect.symm
  · obtain rfl := Option.some.inj (hshown.symm.trans hitem)
    obtain rfl := MenuItem.effect_injective (heffect.symm.trans hdoes)
    cases hsame

/-! ## Runs of the client -/

/-- The client with the last drawing of its loop. -/
def clientWithDrawing (cr : TuiCrates) : Transition.System (Client × Option Drawing) ClientAction :=
  (client cr).withHistory none fun drawing c a _ =>
    match a with
    | .draw _ => some ⟨c.view, c.app.currentScreen.drawnItems c.view⟩
    | _ => drawing

namespace Client

/-- While the client waits for an event, the drawing is one of its screen. -/
theorem drawnFrom_of_reachable {p : Client × Option Drawing}
    (h : (clientWithDrawing cr).Reachable p) :
    p.1.point = .poll → DrawnFrom p.2 p.1.app.currentScreen := by
  refine h.invariant_withHistory (I := fun c drawing => c.point = .poll →
    DrawnFrom drawing c.app.currentScreen) ?_ ?_
  · rintro _ ⟨appState, serviceAvailable, rfl⟩ hpoint
    cases hpoint
  · intro c drawing a t hc _ hstep
    cases moves_of_step hstep with
    | sendAppState | sendServiceAvailable | recvCommand => exact hc
    | syncService | syncState | fail => exact fun hpoint => by cases hpoint
    | draw _ select =>
      rintro - d ⟨⟩
      exact .inl (ScreenVariant.drawnItems_render select c.view _).symm
    -- the loop has gone on
    | key | poll =>
      intro hpoint
      rw [Client.next] at hpoint
      split_ifs at hpoint

/-- In every run of the client, while it waits for an event on a screen with a list: Enter does what
is drawn at the selected index, or nothing, exactly when it finds no item there or what it reads is
as the loop drew it. -/
theorem enter_does_shown_iff_at_poll {p : Client × Option Drawing}
    (h : (clientWithDrawing cr).Reachable p) (hpoint : p.1.point = .poll)
    (hlist : p.1.app.currentScreen.HasList) :
    EnterDoesShown cr p.2 p.1.view p.1.app.currentScreen ↔
      EnterReadsDrawn p.2 p.1.view p.1.app.currentScreen :=
  enterDoesShown_iff hlist (drawnFrom_of_reachable h hpoint)

end Client

end Tui

end ToothPaste
