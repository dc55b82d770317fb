import ToothPaste.Core
import ToothPaste.Lib.Transition
import ToothPaste.Lib.Watch

/-!
# Connecting without a client

`auto_connect_task`, with a clock. Five seconds after the start of the service, and if no client is
there by then, the task asks for a scan and waits for the published state to list a device. Anyone
may publish, at any time, and the task looks at the clock only after it has looked at the state.

A run keeps the changes published since the scan was asked for, each with its time, and the
`ConnectToDevice` that is sent, with the time at which its `send` returns. In every run it is sent
once at most, for the first device listed (`connectsOnce_of_reachable`).
-/

namespace ToothPaste

/-- A `Duration` or an `Instant`, in nanoseconds. -/
abbrev Nanos : Type := ℕ

/-- `Duration::from_secs`. -/
def fromSecs (secs : ℕ) : Nanos := secs * 1000000000

/-- `scan_timeout`. -/
def scanTimeout : Nanos := fromSecs 10

/-- Where `auto_connect_task` is. -/
inductive AutoConnectPhase where
  /-- In the `sleep` it starts with. -/
  | sleeping (wakeAt : Nanos)
  /-- `ScanForDevices` is being sent. -/
  | scanning
  /-- In `app_state_rx.changed`. -/
  | waiting (start : Nanos)
  /-- After a change, before it looks at the state. -/
  | woken (start : Nanos)
  /-- No device is listed, and it has not looked at the clock yet. -/
  | checking (start : Nanos)
  /-- `ConnectToDevice` is being sent. -/
  | connecting (device : Device)
  | returned
  deriving DecidableEq

/-- The task with what it reads: the clock, the published state and the flag of the client. -/
structure AutoConnect where
  now : Nanos
  appState : Watch AppState
  tuiConnected : Bool
  /-- The version of the state that `app_state_rx` has seen. -/
  seen : ℕ
  phase : AutoConnectPhase

/-- What may happen next: to the task, or around it. -/
inductive AutoConnectAction where
  | tick (elapsed : Nanos)
  /-- Someone publishes a state. -/
  | publish (newState : AppState)
  | setTuiConnected (connected : Bool)
  | wake
  /-- The scan command is sent, or the channel is closed. -/
  | scanSent (ok : Bool)
  | changed
  /-- `changed` fails, which it does only when there is no change left to see. -/
  | changedFails
  | look
  | checkTimeout
  /-- The `send` of the connect command returns: it has waited for a place in the channel, or the
  channel is closed. -/
  | connectSent (ok : Bool)

namespace AutoConnect

/-- The task goes on in another phase. -/
def goto (s : AutoConnect) (phase : AutoConnectPhase) : AutoConnect := { s with phase }

@[simp]
theorem goto_phase (s : AutoConnect) (phase : AutoConnectPhase) : (s.goto phase).phase = phase :=
  rfl

/-- The steps of `auto_connect_task` and of its surroundings. -/
def step (s : AutoConnect) : AutoConnectAction → Option AutoConnect
  | .tick elapsed => some { s with now := s.now + elapsed }
  | .publish newState => some { s with appState := s.appState.send newState }
  | .setTuiConnected connected => some { s with tuiConnected := connected }
  | .wake =>
    match s.phase with
    | .sleeping wakeAt =>
      -- a sleep may last longer, and the flag is read only now
      if wakeAt ≤ s.now then some (s.goto (if s.tuiConnected then .returned else .scanning))
      else none
    | _ => none
  | .scanSent ok =>
    match s.phase with
    -- `start` is read when the command is in the channel
    | .scanning => some (s.goto (if ok then .waiting s.now else .returned))
    | _ => none
  | .changed =>
    match s.phase with
    | .waiting start =>
      if s.appState.HasChanged s.seen then
        some { s with seen := s.appState.version, phase := .woken start }
      else none
    | _ => none
  | .changedFails =>
    match s.phase with
    | .waiting _ => if s.appState.HasChanged s.seen then none else some (s.goto .returned)
    | _ => none
  | .look =>
    match s.phase with
    | .woken start =>
      -- the state as it is now, which may be a later one than the change that was seen
      match s.appState.value.devices.head? with
      | some device => some (s.goto (.connecting device))
      | none => some (s.goto (.checking start))
    | _ => none
  | .checkTimeout =>
    match s.phase with
    | .checking start =>
      some (s.goto (if s.now - start > scanTimeout then .returned else .waiting start))
    | _ => none
  -- an error is printed, and the task returns either way
  | .connectSent _ =>
    match s.phase with
    | .connecting _ => some (s.goto .returned)
    | _ => none

/-- The task from its start on, in any surroundings. -/
def autoConnectTask : Transition.System AutoConnect AutoConnectAction where
  Init s := s.phase = .sleeping (s.now + fromSecs 5) ∧ s.seen ≤ s.appState.version
  step := step

/-! ## Timelines -/

/-- A published change: when, and the devices it lists. -/
structure Change where
  time : Nanos
  devices : List Device
  deriving DecidableEq

/-- A `ConnectToDevice` that is sent: when, for which device, and the list it was chosen from. -/
structure Sent where
  time : Nanos
  device : Device
  listed : List Device
  deriving DecidableEq

/-- What a run leaves behind. -/
structure Timeline where
  /-- When the scan was asked for. -/
  start : Option Nanos
  /-- The changes since then, and before them the one that had not been seen by then. -/
  changes : List Change
  /-- The devices listed at the last look. -/
  looked : List Device
  sends : List Sent
  /-- One of the two channels was found closed. -/
  failed : Bool

/-- What one step adds. -/
def Timeline.record (T : Timeline) (s : AutoConnect) : AutoConnectAction → Timeline
  | .publish newState => { T with changes := T.changes ++ [⟨s.now, newState.devices⟩] }
  | .scanSent true => { T with
      start := some s.now
      changes :=
        if s.appState.HasChanged s.seen then [⟨s.now, s.appState.value.devices⟩] else [] }
  | .changedFails => { T with failed := true }
  | .look => { T with looked := s.appState.value.devices }
  | .connectSent ok =>
    match s.phase, ok with
    | .connecting device, true => { T with sends := T.sends ++ [⟨s.now, device, T.looked⟩] }
    | _, _ => { T with failed := true }
  | _ => T

/-- The task with its timeline. -/
def withTimeline : Transition.System (AutoConnect × Timeline) AutoConnectAction :=
  autoConnectTask.withHistory ⟨none, [], [], [], false⟩ fun T s a _ => T.record s a

/-- At most one `ConnectToDevice` is sent, for the first of the devices listed. -/
def Timeline.ConnectsOnce (T : Timeline) : Prop :=
  T.sends.length ≤ 1 ∧ ∀ x ∈ T.sends, x.listed.head? = some x.device

variable {s t : AutoConnect} {a : AutoConnectAction} {T : Timeline}

/-! ## Steps -/

/-- The steps from `s`: what each action needs, and the state after it. -/
inductive Moves (s : AutoConnect) : AutoConnectAction → AutoConnect → Prop
  | tick (elapsed : Nanos) : Moves s (.tick elapsed) { s with now := s.now + elapsed }
  | publish (newState : AppState) :
      Moves s (.publish newState) { s with appState := s.appState.send newState }
  | setTuiConnected (connected : Bool) :
      Moves s (.setTuiConnected connected) { s with tuiConnected := connected }
  | wake {wakeAt : Nanos} (hphase : s.phase = .sleeping wakeAt) :
      Moves s .wake (s.goto (if s.tuiConnected then .returned else .scanning))
  | scanSent (hphase : s.phase = .scanning) (ok : Bool) :
      Moves s (.scanSent ok) (s.goto (if ok then .waiting s.now else .returned))
  | changed {start : Nanos} (hphase : s.phase = .waiting start)
      (hunseen : s.appState.HasChanged s.seen) :
      Moves s .changed { s with seen := s.appState.version, phase := .woken start }
  | changedFails {start : Nanos} (hphase : s.phase = .waiting start) :
      Moves s .changedFails (s.goto .returned)
  | found {start : Nanos} {device : Device} (hphase : s.phase = .woken start)
      (hhead : s.appState.value.devices.head? = some device) :
      Moves s .look (s.goto (.connecting device))
  | foundNone {start : Nanos} (hphase : s.phase = .woken start)
      (hhead : s.appState.value.devices.head? = none) : Moves s .look (s.goto (.checking start))
  | checkTimeout {start : Nanos} (hphase : s.phase = .checking start) :
      Moves s .checkTimeout
        (s.goto (if s.now - start > scanTimeout then .returned else .waiting start))
  | connectSent {device : Device} (hphase : s.phase = .connecting device) (ok : Bool) :
      Moves s (.connectSent ok) (s.goto .returned)

/-- Every step is one of the cases. -/
theorem moves_of_step (h : s.step a = some t) : s.Moves a t := by
  cases a with
  | tick elapsed => exact Option.some.inj h ▸ .tick elapsed
  | publish newState => exact Option.some.inj h ▸ .publish newState
  | setTuiConnected connected => exact Option.some.inj h ▸ .setTuiConnected connected
  | wake =>
    simp only [step] at h
    split at h
    next hphase =>
      obtain ⟨-, h⟩ := Option.ite_none_right_eq_some.mp h
      exact Option.some.inj h ▸ .wake hphase
    next => cases h
  | scanSent ok =>
    simp only [step] at h
    split at h
    next hphase => exact Option.some.inj h ▸ .scanSent hphase ok
    next => cases h
  | changed =>
    simp only [step] at h
    split at h
    next hphase =>
      split_ifs at h with hunseen
      exact Option.some.inj h ▸ .changed hphase hunseen
    next => cases h
  | changedFails =>
    simp only [step] at h
    split at h
    next hphase =>
      split_ifs at h
      exact Option.some.inj h ▸ .changedFails hphase
    next => cases h
  | look =>
    simp only [step] at h
    split at h
    next hphase =>
      split at h
      next hhead => exact Option.some.inj h ▸ .found hphase hhead
      next hhead => exact Option.some.inj h ▸ .foundNone hphase hhead
    next => cases h
  | checkTimeout =>
    simp only [step] at h
    split at h
    next hphase => exact Option.some.inj h ▸ .checkTimeout hphase
    next => cases h
  | connectSent ok =>
    simp only [step] at h
    split at h
    next hphase => exact Option.some.inj h ▸ .connectSent hphase ok
    next => cases h

/-! ## One send -/

/-- What is sent in any run: nothing before the task returns, and the task is about to send the
first device that it saw at its last look. -/
structure Sends (s : AutoConnect) (T : Timeline) : Prop where
  connecting : ∀ device, s.phase = .connecting device → T.looked.head? = some device
  quiet : s.phase ≠ .returned → T.sends = []
  once : T.ConnectsOnce

/-- Nothing has been sent. -/
theorem connectsOnce_nil (h : T.sends = []) : T.ConnectsOnce := by simp [Timeline.ConnectsOnce, h]

/-- Nothing is sent by a step that leads to another phase than `connecting`. -/
theorem Sends.goto {T' : Timeline} (h : Sends s T) (hbefore : s.phase ≠ .returned)
    (hphase : ∀ device, t.phase ≠ .connecting device) (hsends : T'.sends = T.sends) :
    Sends t T' where
  connecting device hconnecting := absurd hconnecting (hphase device)
  quiet _ := hsends.trans (h.quiet hbefore)
  once := connectsOnce_nil (hsends.trans (h.quiet hbefore))

/-- Every step keeps what is known of the sends. -/
theorem sends_step (h : Sends s T) (hm : s.Moves a t) : Sends t (T.record s a) := by
  cases hm with
  | tick | publish | setTuiConnected => exact ⟨h.connecting, h.quiet, h.once⟩
  | wake hphase =>
    refine h.goto (by simp [hphase]) (fun device => ?_) rfl
    rw [goto_phase]
    split_ifs <;> simp
  | scanSent hphase ok => cases ok <;> exact h.goto (by simp [hphase]) (by simp) rfl
  | changed hphase | changedFails hphase | foundNone hphase =>
    exact h.goto (by simp [hphase]) (by simp) rfl
  | found hphase hhead =>
    have hquiet := h.quiet (by simp [hphase])
    refine ⟨fun device hdevice => ?_, fun _ => hquiet, connectsOnce_nil hquiet⟩
    cases hdevice
    exact hhead
  | checkTimeout hphase =>
    refine h.goto (by simp [hphase]) (fun device => ?_) rfl
    rw [goto_phase]
    split_ifs <;> simp
  | connectSent hphase ok =>
    have hquiet := h.quiet (by simp [hphase])
    cases ok with
    | false =>
      simp only [Timeline.record, hphase]
      exact ⟨by simp, fun hreturned => absurd rfl hreturned, connectsOnce_nil hquiet⟩
    | true =>
      simp only [Timeline.record, hphase, hquiet, List.nil_append]
      exact ⟨by simp, fun hreturned => absurd rfl hreturned, by
        simp [Timeline.ConnectsOnce, h.connecting _ hphase]⟩

/-- In every run at most one command is sent, for the first device listed at the last look. -/
theorem connectsOnce_of_reachable {p : AutoConnect × Timeline} (h : withTimeline.Reachable p) :
    p.2.ConnectsOnce := by
  have hsends : Sends p.1 p.2 := h.invariant_withHistory
    (fun s hs => ⟨fun device hphase => by simp [hs.1] at hphase, fun _ => rfl,
      connectsOnce_nil rfl⟩)
    fun s T a t hs _ hstep => sends_step hs (moves_of_step hstep)
  exact hsends.once

end AutoConnect

end ToothPaste
