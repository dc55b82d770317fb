import ToothPaste.Ble.Published
import ToothPaste.Ble.Sample
import ToothPaste.Input.Spec

/-!
# The published state and its two writers

The watch channel of the application state is a cell with two writers. The BLE task changes it in
place (`BleUpdate`). The input handler reads the whole state when it starts to handle an event, and
a hotkey later sends the whole of what was read, with one capture flag flipped. `watchCell`
interleaves the updates of the BLE task with the handler's steps: the start of `handle_event` and,
one at a time, what it does to its channels.

A run keeps what the BLE task last wrote to `devices` and `connected_device` and what the handler
last set each capture flag to.

* `updates_kept`: in every run in which each hotkey sends back the `devices` and
  `connected_device` that are in the cell, no update is lost; the first send that does not loses
  one.
* `connect_lost`: a run in which a hotkey undoes the publication of a connected device.
-/

namespace ToothPaste

/-- The cell, the handler, and what it has yet to do for the event it handles. The handler holds a
receiver of the channel, so that `send` always finds one. -/
structure WatchCell where
  value : AppState
  handler : SysInputHandler
  pending : List HandlerOutput

/-- The steps of the two writers. -/
inductive WatchAction where
  | ble (u : BleUpdate)
  /-- `handle_event` starts: it reads the cell. -/
  | handleEvent (event : Event) (clipboard : SysInputHandler.ClipboardEnv)
  /-- The handler does what it has to do next. -/
  | output

/-- What the writers last wrote. -/
structure LastWrites where
  devices : List Device
  connectedDevice : Option Device
  /-- What each capture flag was last set to by the hotkey that flips it. -/
  flags : CaptureFlag → Bool

namespace WatchCell

variable {s t : WatchCell} {a : WatchAction}

/-- One step of either writer. Once the handler's thread has panicked it does nothing more. -/
def step (s : WatchCell) : WatchAction → Option WatchCell
  | .ble u => some { s with value := u.apply s.value }
  | .handleEvent event clipboard =>
    match s.pending with
    | [] =>
      let (handler, pending) := s.handler.handleEvent s.value event clipboard
      some { s with handler, pending }
    | _ :: _ => none
  | .output =>
    match s.pending with
    -- the whole cell is overwritten, whatever was written to it since it was read
    | .updateState newState :: pending => some { s with value := newState, pending }
    | .trySend _ :: pending => some { s with pending }
    | .panic :: _ | [] => none

end WatchCell

/-- The cell and its writers, from the time the handler is created and the cell holds `app`. -/
def watchCell (app : AppState) : Transition.System WatchCell WatchAction where
  Init s := ∃ now, s = ⟨app, SysInputHandler.new app now, []⟩
  step := WatchCell.step

namespace WatchCell

/-- A hotkey is between its read and its send. -/
def ToggleInProgress (s : WatchCell) : Prop := ¬ SysInputHandler.SendsNoState s.pending

/-- What one step of a run writes. -/
def lastWrites (h : LastWrites) (s : WatchCell) : WatchAction → WatchCell → LastWrites
  | .ble u, _ => { h with
      devices := u.devicesWritten.getD h.devices
      connectedDevice := (u.deviceWritten s.value.connectedDevice).or h.connectedDevice }
  | .handleEvent .., _ => h
  | .output, _ =>
    match s.pending with
    -- only a flag in which the sent state differs from the one read counts as set
    | .updateState newState :: _ => { h with
        flags := fun flag =>
          if newState.flag flag = s.handler.currentState.flag flag then h.flags flag
          else newState.flag flag }
    | _ => h

/-- The cell and what was last written. -/
def withWrites (app : AppState) : Transition.System (WatchCell × LastWrites) WatchAction :=
  (watchCell app).withHistory ⟨app.devices, app.connectedDevice, app.flag⟩ lastWrites

/-- The cell holds what was last written: no update is lost. -/
structure Kept (s : WatchCell) (h : LastWrites) : Prop where
  devices : s.value.devices = h.devices
  connectedDevice : s.value.connectedDevice = h.connectedDevice
  flags : ∀ flag, s.value.flag flag = h.flags flag

/-- What the handler read when it started still has the cell's `devices` and
`connected_device`. -/
def ReadIsCurrent (s : WatchCell) : Prop :=
  s.handler.currentState.devices = s.value.devices ∧
    s.handler.currentState.connectedDevice = s.value.connectedDevice

/-- A step that sends a state back is taken while what was read is current. -/
def SendsCurrent (s : WatchCell) : WatchAction → Prop
  | .output =>
    match s.pending with
    | .updateState _ :: _ => s.ReadIsCurrent
    | _ => True
  | _ => True

instance (s : WatchCell) : Decidable s.ReadIsCurrent :=
  inferInstanceAs (Decidable (_ ∧ _))

instance (s : WatchCell) (a : WatchAction) : Decidable (s.SendsCurrent a) :=
  match a with
  | .output =>
    match h : s.pending with
    | .updateState _ :: _ => decidable_of_iff s.ReadIsCurrent (by simp [SendsCurrent, h])
    | .trySend _ :: _ | .panic :: _ | [] => isTrue (by simp [SendsCurrent, h])
  | .ble _ | .handleEvent .. => isTrue trivial

/-! ## The steps -/

/-- The steps from `s`, and the state after each. -/
inductive Moves (s : WatchCell) : WatchAction → WatchCell → Prop
  | ble (u : BleUpdate) : Moves s (.ble u) { s with value := u.apply s.value }
  | handleEvent {event : Event} {clipboard : SysInputHandler.ClipboardEnv}
      {handler : SysInputHandler} {pending : List HandlerOutput} (hidle : s.pending = [])
      (hread : handler.currentState = s.value)
      (hsends : SysInputHandler.SendsToggle s.value pending) :
      Moves s (.handleEvent event clipboard) { s with handler, pending }
  | updateState {newState : AppState} {pending : List HandlerOutput}
      (hpending : s.pending = .updateState newState :: pending) :
      Moves s .output { s with value := newState, pending }
  | trySend {event : InputEvent} {pending : List HandlerOutput}
      (hpending : s.pending = .trySend event :: pending) :
      Moves s .output { s with pending }

theorem moves_of_step (h : s.step a = some t) : Moves s a t := by
  cases a with
  | ble u =>
    cases h
    exact .ble u
  | handleEvent event clipboard =>
    cases hpending : s.pending with
    | cons output rest => simp [step, hpending] at h
    | nil =>
      -- the event is handled with the state that is in the cell now
      obtain ⟨hread, hsends⟩ := s.handler.handleEvent_sendsToggle s.value event clipboard
      simp only [step, hpending, Option.some.injEq] at h
      exact h ▸ .handleEvent hpending hread hsends
  | output =>
    cases hpending : s.pending with
    | nil => simp [step, hpending] at h
    | cons output rest =>
      cases output with
      | updateState newState =>
        simp only [step, hpending, Option.some.injEq] at h
        exact h ▸ .updateState hpending
      | trySend event =>
        simp only [step, hpending, Option.some.injEq] at h
        exact h ▸ .trySend hpending
      | panic => simp [step, hpending] at h

/-! ## The invariant -/

/-- No update touches a capture flag. -/
@[simp]
theorem flag_apply (u : BleUpdate) (app : AppState) (flag : CaptureFlag) :
    (u.apply app).flag flag = app.flag flag := by
  cases flag <;> rfl

/-- What holds of the cell, the handler and the last writes while every send is current. -/
structure Sound (s : WatchCell) (h : LastWrites) : Prop where
  kept : Kept s h
  sends : SysInputHandler.SendsToggle s.handler.currentState s.pending
  flags : s.ToggleInProgress → ∀ flag, s.handler.currentState.flag flag = s.value.flag flag

/-- After the first output nothing is sent that could be a state. -/
theorem sendsNoState_of_cons {state : AppState} {output : HandlerOutput}
    {pending : List HandlerOutput} (h : SysInputHandler.SendsToggle state (output :: pending)) :
    SysInputHandler.SendsNoState pending := by
  rcases h with ⟨rest, hrest, rfl | ⟨flag, heq⟩⟩
  · exact fun newState hmem => hrest newState (List.mem_cons_of_mem _ hmem)
  · exact (List.cons.inj heq).2 ▸ hrest

/-- A state that is sent next is the one that was read, with one flag flipped. -/
theorem toggled_of_pending {state newState : AppState} {outputs pending : List HandlerOutput}
    (h : SysInputHandler.SendsToggle state outputs)
    (hpending : outputs = .updateState newState :: pending) :
    ∃ flag, newState = state.toggle flag := by
  subst hpending
  rcases h with ⟨rest, hrest, rfl | ⟨flag, heq⟩⟩
  · exact absurd List.mem_cons_self (hrest newState)
  · exact ⟨flag, HandlerOutput.updateState.inj (List.cons.inj heq).1⟩

theorem sound_ble {h : LastWrites} (hs : Sound s h) (u : BleUpdate) :
    Sound { s with value := u.apply s.value } (lastWrites h s (.ble u) t) where
  kept := by
    refine ⟨?_, ?_, fun flag => ?_⟩
    · simp only [lastWrites, BleUpdate.apply, hs.kept.devices]
    · simp only [lastWrites, BleUpdate.apply, hs.kept.connectedDevice]
    · rw [flag_apply]
      exact hs.kept.flags flag
  sends := hs.sends
  flags hbusy flag := by
    rw [flag_apply]
    exact hs.flags hbusy flag

theorem sound_updateState {h : LastWrites} (hs : Sound s h) {newState : AppState}
    {pending : List HandlerOutput} (hpending : s.pending = .updateState newState :: pending)
    (hcurrent : s.ReadIsCurrent) :
    Sound { s with value := newState, pending } (lastWrites h s .output t) := by
  have hsends := hs.sends
  rw [hpending] at hsends
  have hquiet := sendsNoState_of_cons hsends
  -- the state that is about to be sent shows that a hotkey is in progress
  have hbusy : s.ToggleInProgress := by
    intro hno
    exact hno newState (hpending ▸ List.mem_cons_self)
  obtain ⟨flag, rfl⟩ := toggled_of_pending hs.sends hpending
  refine ⟨⟨?_, ?_, fun g => ?_⟩, hquiet.sendsToggle _, fun hbusy => absurd hquiet hbusy⟩
  · simp only [lastWrites, hpending, AppState.toggle_devices, hcurrent.1, hs.kept.devices]
  · simp only [lastWrites, hpending, AppState.toggle_connectedDevice, hcurrent.2,
      hs.kept.connectedDevice]
  · simp only [lastWrites, hpending]
    -- a flag that is not flipped is still the cell's; the flipped one is written now
    split_ifs with heq
    · rw [heq, hs.flags hbusy, hs.kept.flags]
    · rfl

/-- A step keeps the invariant, if it sends no state or what was read is current. -/
theorem sound_step {h : LastWrites} (hs : Sound s h) (hm : Moves s a t)
    (hcurrent : s.SendsCurrent a) : Sound t (lastWrites h s a t) := by
  cases hm with
  | ble u => exact sound_ble hs u
  | handleEvent hidle hread hsends =>
    exact ⟨⟨hs.kept.devices, hs.kept.connectedDevice, hs.kept.flags⟩, hread ▸ hsends,
      fun _ _ => by rw [hread]⟩
  | updateState hpending =>
    refine sound_updateState hs hpending ?_
    simpa only [SendsCurrent, hpending] using hcurrent
  | @trySend event pending hpending =>
    have hquiet := sendsNoState_of_cons (hpending ▸ hs.sends)
    have hwrites : lastWrites h s .output { s with pending } = h := by
      simp only [lastWrites, hpending]
    rw [hwrites]
    exact ⟨⟨hs.kept.devices, hs.kept.connectedDevice, hs.kept.flags⟩, hquiet.sendsToggle _,
      fun hbusy => absurd hquiet hbusy⟩

/-- Sending a state that was read before the last update of `devices` or `connected_device` loses
this update. -/
theorem not_kept_of_stale {h : LastWrites} (hs : Sound s h) (hm : Moves s a t)
    (hstale : ¬ s.SendsCurrent a) :
    ¬ t.ToggleInProgress ∧ ¬ Kept t (lastWrites h s a t) := by
  cases hm with
  | ble | handleEvent => exact absurd trivial hstale
  | trySend hpending => simp [SendsCurrent, hpending] at hstale
  | updateState hpending =>
    simp only [SendsCurrent, hpending] at hstale
    obtain ⟨flag, rfl⟩ := toggled_of_pending hs.sends hpending
    -- had the two been kept, what was read would have been current
    refine ⟨not_not_intro (sendsNoState_of_cons (hpending ▸ hs.sends)), fun hkept => hstale ?_⟩
    have hdevices := hkept.devices
    have hdevice := hkept.connectedDevice
    simp only [lastWrites, hpending, AppState.toggle_devices] at hdevices
    simp only [lastWrites, hpending, AppState.toggle_connectedDevice] at hdevice
    exact ⟨hdevices.trans hs.kept.devices.symm, hdevice.trans hs.kept.connectedDevice.symm⟩

/-! ## Runs -/

/-- In every run in which each hotkey sends back the `devices` and `connected_device` that are in
the cell, the cell always holds what the BLE task last wrote to the two and what the handler last
set each capture flag to. The first hotkey that sends back anything else leaves the cell, with no
hotkey in progress, without what was last written. -/
theorem updates_kept {app : AppState} {p : WatchCell × LastWrites}
    (h : (withWrites app).ReachableVia (fun p a => p.1.SendsCurrent a) p) :
    Kept p.1 p.2 ∧ ∀ a q, (withWrites app).step p a = some q → ¬ p.1.SendsCurrent a →
      ¬ q.1.ToggleInProgress ∧ ¬ Kept q.1 q.2 := by
  have hsound : Sound p.1 p.2 := h.invariant_withHistory
    (by
      rintro _ ⟨now, rfl⟩
      exact ⟨⟨rfl, rfl, fun _ => rfl⟩, SysInputHandler.sendsNoState_nil.sendsToggle _,
        fun hbusy => absurd SysInputHandler.sendsNoState_nil hbusy⟩)
    (fun s x a t hs hcurrent hst => sound_step hs (moves_of_step hst) hcurrent)
  refine ⟨hsound.kept, fun a q hstep hstale => ?_⟩
  obtain ⟨hst, hwrites⟩ := Transition.System.withHistory_step_iff.mp hstep
  rw [hwrites]
  exact not_kept_of_stale hsound (moves_of_step hst) hstale

/-- A key press. -/
def press (key : Key) : WatchAction := .handleEvent ⟨0, none, .keyPress key⟩ .noText

/-- Ctrl and Alt are pressed. -/
def modifiersRun : List WatchAction := [press .controlLeft, press .alt]

/-- A device is published as connected, then Ctrl+Alt+C is handled: nothing is lost. -/
theorem updates_kept_sample : ∃ p : WatchCell × LastWrites,
    p.1.value.enableKeyCapture = true ∧ Kept p.1 p.2 := by
  have hrun : ((withWrites AppState.initial).replay (fun p a => p.1.SendsCurrent a)
      (⟨AppState.initial, SysInputHandler.new AppState.initial 0, []⟩,
        ⟨[], none, AppState.initial.flag⟩)
      (modifiersRun ++ [.ble (.connect Sample.device), press .keyC, .output])).map
        (fun p => p.1.value.enableKeyCapture) = some true := by
    decide +kernel
  obtain ⟨p, hp, hflag⟩ := Option.map_eq_some_iff.mp hrun
  exact ⟨p, hflag, (updates_kept (.of_replay _ (.init ⟨⟨0, rfl⟩, rfl⟩) hp)).1⟩

/-- A device is published as connected while Ctrl+Alt+C is handled: when the hotkey is done, no
device is connected. -/
theorem connect_lost :
    ¬ ∀ p, (withWrites AppState.initial).Reachable p →
      ¬ p.1.ToggleInProgress → Kept p.1 p.2 := by
  intro hclaim
  have hrun : ((withWrites AppState.initial).replay (fun _ _ => True)
      (⟨AppState.initial, SysInputHandler.new AppState.initial 0, []⟩,
        ⟨[], none, AppState.initial.flag⟩)
      (modifiersRun ++ [press .keyC, .ble (.connect Sample.device), .output])).map
        (fun p => (p.1.value.connectedDevice, p.2.connectedDevice.isSome, p.1.pending.length)) =
      some (none, true, 0) := by
    decide +kernel
  obtain ⟨p, hp, hfacts⟩ := Option.map_eq_some_iff.mp hrun
  simp only [Prod.mk.injEq] at hfacts
  obtain ⟨hvalue, hwritten, hpending⟩ := hfacts
  have hidle : ¬ p.1.ToggleInProgress := by
    rw [ToggleInProgress, List.eq_nil_of_length_eq_zero hpending, not_not]
    exact SysInputHandler.sendsNoState_nil
  -- the cell holds no device although the BLE task's last write was one
  have hkept := hclaim p (.of_replay _ (.init ⟨⟨0, rfl⟩, rfl⟩) hp) hidle
  rw [← hkept.connectedDevice, hvalue] at hwritten
  cases hwritten

end WatchCell

end ToothPaste
