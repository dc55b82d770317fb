import ToothPaste.Ble.Connecting
import ToothPaste.Input.WatchCell

/-!
# The service

What `main` puts together: the BLE task in its surroundings and the input handler, which share the
published state and the input channel. The handler reads the published state when it starts to
handle an event, and does what it has to do one output at a time; the task, the other producers of
the two channels and the device take their steps in between.

As far as the published state and the handler go, every run of the service is a run of the watch
cell (`watchCell_of_service`); as far as the transport goes, it is a run of the manager
(`bleManager_of_service`).
-/

namespace ToothPaste

/-- The service: the BLE task, the handler, and what it has yet to do for the event it handles. -/
structure Service (SK : Type) where
  task : BleTask SK
  handler : SysInputHandler
  pending : List HandlerOutput

/-- The steps of the service. -/
inductive ServiceAction (SK : Type) where
  | task (a : BleAction SK)
  /-- `handle_event` starts: it reads the published state. -/
  | handleEvent (event : Event) (clipboard : SysInputHandler.ClipboardEnv)
  /-- The handler does what it has to do next. -/
  | output

namespace BleTask

variable {SK : Type} (s : BleTask SK)

/-- The published state is overwritten by `app_state_tx.send`. -/
def overwrite (newState : AppState) : BleTask SK :=
  { s with iface := { s.iface with appState := newState } }

/-- The input channel takes another event: it is not full, and the task still holds its
receiver. -/
def HasRoom : Prop := s.phase ≠ .stopped ∧ s.inputs.length < inputCapacity

instance : Decidable s.HasRoom := inferInstanceAs (Decidable (_ ∧ _))

/-- `input_event_tx.try_send`: an event that finds no room is dropped. -/
def trySend (event : InputEvent) : BleTask SK :=
  if s.HasRoom then { s with inputs := s.inputs ++ [event] } else s

@[simp]
theorem trySend_phase (event : InputEvent) : (s.trySend event).phase = s.phase := by
  unfold trySend
  split_ifs <;> rfl

@[simp]
theorem trySend_iface (event : InputEvent) : (s.trySend event).iface = s.iface := by
  unfold trySend
  split_ifs <;> rfl

end BleTask

namespace Service

variable {SK PK : Type} (cr : Crates SK PK) (pb : Prost)

/-- One step of the task, of its surroundings or of the handler. Once the handler's thread has
panicked it does nothing more. -/
def step (s : Service SK) : ServiceAction SK → Option (Service SK)
  | .task a => (BleTask.step cr pb s.task a).map fun task => { s with task }
  | .handleEvent event clipboard =>
    match s.pending with
    | [] =>
      let (handler, pending) := s.handler.handleEvent s.task.iface.appState event clipboard
      some { s with handler, pending }
    | _ :: _ => none
  | .output =>
    match s.pending with
    -- the whole state is overwritten, whatever was published since it was read
    | .updateState newState :: pending => some { s with task := s.task.overwrite newState, pending }
    | .trySend event :: pending => some { s with task := s.task.trySend event, pending }
    | .panic :: _ | [] => none

end Service

/-- The service from the time `main` has set it up, over every store. -/
def service {SK PK : Type} (cr : Crates SK PK) (pb : Prost) :
    Transition.System (Service SK) (ServiceAction SK) where
  Init s := ∃ storage now,
    s = ⟨BleTask.start storage, SysInputHandler.new AppState.initial now, []⟩
  step := Service.step cr pb

namespace Service

variable {SK PK : Type} {cr : Crates SK PK} {pb : Prost} {s t : Service SK} {a : ServiceAction SK}

/-! ## The steps -/

/-- The steps from `s`, and the state after each. -/
inductive Moves (cr : Crates SK PK) (pb : Prost) (s : Service SK) :
    ServiceAction SK → Service SK → Prop
  | task {a : BleAction SK} {task : BleTask SK} (hm : BleTask.Moves cr pb s.task a task) :
      Moves cr pb s (.task a) { s with task }
  | handleEvent {event : Event} {clipboard : SysInputHandler.ClipboardEnv}
      {handler : SysInputHandler} {pending : List HandlerOutput} (hidle : s.pending = [])
      (hhandled : s.handler.handleEvent s.task.iface.appState event clipboard =
        (handler, pending)) :
      Moves cr pb s (.handleEvent event clipboard) { s with handler, pending }
  | updateState {newState : AppState} {pending : List HandlerOutput}
      (hpending : s.pending = .updateState newState :: pending) :
      Moves cr pb s .output { s with task := s.task.overwrite newState, pending }
  | trySend {event : InputEvent} {pending : List HandlerOutput}
      (hpending : s.pending = .trySend event :: pending) :
      Moves cr pb s .output { s with task := s.task.trySend event, pending }

theorem moves_of_step (h : step cr pb s a = some t) : Moves cr pb s a t := by
  cases a with
  | task a =>
    obtain ⟨task, hstep, rfl⟩ := Option.map_eq_some_iff.mp h
    exact .task (BleTask.moves_of_step hstep)
  | handleEvent event clipboard =>
    cases hpending : s.pending with
    | cons output rest => simp [step, hpending] at h
    | nil =>
      simp only [step, hpending, Option.some.injEq] at h
      exact h ▸ .handleEvent hpending rfl
  | output =>
    cases hpending : s.pending with
    | nil => simp [step, hpending] at h
    | cons output rest =>
      cases output with
      | updateState newState =>
        simp only [step, hpending, Option.some.injEq] at h
        exact h ▸ .updateState hpending
      | trySend event =>
        simp only [step, hpending, Option.some.injEq] at h
        exact h ▸ .trySend hpending
      | panic => simp [step, hpending] at h

/-! ## Well-formed states -/

/-- What holds of the service in every reachable state: the task is well formed, the handler sends
one state at most, with one flag flipped, and before the loop is entered what it read is not
authenticated. -/
structure WellFormed (s : Service SK) : Prop where
  task : BleTask.WellFormed s.task.phase s.task.iface
  sends : SysInputHandler.SendsToggle s.handler.currentState s.pending
  unauthenticated : s.task.phase.entered = false → s.handler.currentState.isAuthenticated = false

/-- A flipped flag authenticates nobody. -/
theorem isAuthenticated_toggle (app : AppState) (flag : CaptureFlag) :
    (app.toggle flag).isAuthenticated = app.isAuthenticated :=
  isAuthenticated_congr (app.toggle_connectedDevice flag)

/-- The loop is not left once it is entered. -/
theorem entered_of_moves {b t : BleTask SK} {a : BleAction SK} (hm : BleTask.Moves cr pb b a t)
    (h : b.phase.entered = true) : t.phase.entered = true := by
  have hafter : ∀ (u : BleTask SK) deviceId r,
      (u.after (.running deviceId) r).phase.entered = true := fun u deviceId r => by
    rcases u.after_phase (.running deviceId) r with hphase | hphase <;> rw [hphase] <;> rfl
  cases hm with
  | putInput | putCommand | notify | notifyLost | endStream => exact h
  | command | recvInput | recvNotification => exact hafter ..
  | idleCommand hphase | greet hphase | publish hphase | publishNone hphase | subscribe hphase
  | subscribeFails hphase | openStream hphase | openStreamFails hphase =>
    rw [hphase] at h
    cases h

/-- Overwriting the published state with one that is authenticated no earlier than the loop keeps
the task well formed. -/
theorem wellFormed_overwrite {b : BleTask SK} (h : BleTask.WellFormed b.phase b.iface)
    {newState : AppState} (hauth : b.phase.entered = false → newState.isAuthenticated = false) :
    BleTask.WellFormed (b.overwrite newState).phase (b.overwrite newState).iface where
  linked := h.linked
  cached := h.cached
  device := h.device
  keyless := h.keyless
  unauthenticated := hauth

theorem wellFormed_step (hcr : cr.Lawful) (h : WellFormed s) (hm : Moves cr pb s a t) :
    WellFormed t := by
  cases hm with
  | task hm =>
    refine ⟨BleTask.wellFormed_step hcr h.task hm, h.sends, fun hentered => h.unauthenticated ?_⟩
    by_contra hne
    rw [entered_of_moves hm (by simpa using hne)] at hentered
    cases hentered
  | @handleEvent event clipboard _ _ hidle hhandled =>
    obtain ⟨hread, hsends⟩ :=
      s.handler.handleEvent_sendsToggle s.task.iface.appState event clipboard
    rw [hhandled] at hread hsends
    exact ⟨h.task, hread ▸ hsends, fun hentered => hread ▸ h.task.unauthenticated hentered⟩
  -- what is sent back is the state that was read, with a flag flipped
  | updateState hpending =>
    obtain ⟨flag, rfl⟩ := WatchCell.toggled_of_pending h.sends hpending
    have hquiet := WatchCell.sendsNoState_of_cons (hpending ▸ h.sends)
    exact ⟨wellFormed_overwrite h.task fun hentered => by
        rw [isAuthenticated_toggle, h.unauthenticated hentered],
      hquiet.sendsToggle _, h.unauthenticated⟩
  | trySend hpending =>
    have hquiet := WatchCell.sendsNoState_of_cons (hpending ▸ h.sends)
    exact ⟨by simpa using h.task, hquiet.sendsToggle _, by simpa using h.unauthenticated⟩

theorem wellFormed_start (storage : StorageService) (now : ℤ) :
    WellFormed (⟨BleTask.start storage, SysInputHandler.new AppState.initial now, []⟩ :
      Service SK) :=
  ⟨BleTask.wellFormed_start storage, SysInputHandler.sendsNoState_nil.sendsToggle _, fun _ => rfl⟩

/-- Every reachable state is well formed. -/
theorem wellFormed_of_reachable (hcr : cr.Lawful) (h : (service cr pb).Reachable s) :
    WellFormed s :=
  h.invariant (by rintro _ ⟨storage, now, rfl⟩; exact wellFormed_start storage now)
    fun _ _ _ hs hst => wellFormed_step hcr hs (moves_of_step hst)

/-! ## Runs of its parts -/

/-- The published state, the handler and what it has yet to do, as the watch cell. -/
def watched (s : Service SK) : WatchCell := ⟨s.task.iface.appState, s.handler, s.pending⟩

/-- Every run of the service is a run of the watch cell. -/
theorem watchCell_of_service (hcr : cr.Lawful) (h : (service cr pb).Reachable s) :
    (watchCell AppState.initial).Reachable s.watched := by
  induction h with
  | init h =>
    obtain ⟨storage, now, rfl⟩ := h
    exact .init ⟨now, rfl⟩
  | @step s t a hreach _ hst ih =>
    have hwf := wellFormed_of_reachable hcr hreach
    cases moves_of_step hst with
    -- a step of the task makes one update of the cell at most
    | @task b task hm =>
      rcases BleTask.published_step hcr hwf.task hm with happ | ⟨u, happ⟩
      · rw [watched, happ]
        exact ih
      · refine ih.step (a := WatchAction.ble u) ?_
        simp only [watchCell, WatchCell.step, watched, happ]
    | @handleEvent event clipboard handler pending hidle hhandled =>
      refine ih.step (a := WatchAction.handleEvent event clipboard) ?_
      simp only [watchCell, WatchCell.step, watched, hidle, hhandled]
    | updateState hpending =>
      refine ih.step (a := WatchAction.output) ?_
      simp only [watchCell, WatchCell.step, watched, hpending]
      rfl
    | trySend hpending =>
      refine ih.step (a := WatchAction.output) ?_
      simp only [watchCell, WatchCell.step, watched, hpending, BleTask.trySend_iface]

/-- Every run of the service is a run of the manager. -/
theorem bleManager_of_service (h : (service cr pb).Reachable s) :
    bleManager.Reachable s.task.iface.ble := by
  refine h.invariant (I := fun s => bleManager.Reachable s.task.iface.ble) ?_ fun s a t hs hst => ?_
  · rintro _ ⟨storage, now, rfl⟩
    exact .init rfl
  cases moves_of_step hst with
  | task hm => exact bleManager_of_moves hm hs
  | handleEvent | updateState => exact hs
  | trySend => rwa [BleTask.trySend_iface]

/-- Every run of the task is a run of the service in which the handler does nothing. -/
theorem service_of_bleTask {b : BleTask SK} (h : (bleTask cr pb).Reachable b) :
    ∃ s, (service cr pb).Reachable s ∧ s.task = b := by
  induction h with
  | init h =>
    obtain ⟨storage, rfl⟩ := h
    exact ⟨_, .init ⟨storage, 0, rfl⟩, rfl⟩
  | @step b t a _ _ hst ih =>
    obtain ⟨s, hs, rfl⟩ := ih
    exact ⟨{ s with task := t }, hs.step (a := ServiceAction.task a)
      (Option.map_eq_some_iff.mpr ⟨t, hst, rfl⟩), rfl⟩

end Service

namespace Sample

/-- The service in its initial state. -/
def startService : Service UInt8 := ⟨startTask, SysInputHandler.new AppState.initial 0, []⟩

/-- A key press, with no text in the clipboard. -/
def press (key : Key) : ServiceAction UInt8 := .handleEvent ⟨0, none, .keyPress key⟩ .noText

/-- Ctrl and Alt are pressed. -/
def modifiersRun : List (ServiceAction UInt8) := [press .controlLeft, press .alt]

end Sample

end ToothPaste
