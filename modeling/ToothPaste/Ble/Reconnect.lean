import ToothPaste.Ble.Published
import ToothPaste.Ble.Sample

/-!
# The challenge after a greeting

`connect_to_device` greets a paired device with our stored public key, and the device answers each
greeting with one challenge, at any later moment. The task and the device are one system here:
`answer` is the device's step, enabled while it owes an answer.

`run` opens the notification stream only later, after the published state was changed, the
semaphore characteristic was subscribed to and the stream was opened. An answer that comes before
is lost, and so is one that comes when the stream has ended or the task has stopped. In the stream
an answer waits for the loop, which a `PeerKnown` ahead of it or a `KillService` ends. A run keeps
the answers emitted, those lost in each of the three ways and those handed to `on_challenge`.

* `answers_delivered_iff`: in every run, the answers handled or on their way to a running loop are
  all the answers emitted if and only if none was lost in one of the three ways, and a running loop
  hands over all those on their way.
* `early_answer_lost`: a run in which the device answers at once.
-/

namespace ToothPaste

/-- The steps of the task in its surroundings, and the device's answer to a greeting. -/
inductive ReconnectAction (SK : Type) where
  | task (a : BleAction SK)
  | answer (n : ValueNotification)

/-- The answers of a run. -/
structure Answers where
  emitted : List ValueNotification
  /-- Emitted while the notification stream was not open: before `subscribe_notifications` had
  returned it, after it had ended or after the task had stopped. -/
  early : List ValueNotification
  /-- Emitted while a `PeerKnown` waited in the stream. -/
  behind : List ValueNotification
  /-- Waiting in the stream when the loop took a `KillService`. -/
  dropped : List ValueNotification
  /-- Handed to `on_challenge`. -/
  handled : List ValueNotification

namespace BleTask

variable {SK PK : Type} {cr : Crates SK PK} {pb : Prost} {s t : BleTask SK} {a : BleAction SK}

/-- The notification is a challenge. -/
def isChallenge (pb : Prost) (n : ValueNotification) : Bool := (challengeOf pb n).isSome

/-- The greetings a step gets across to the device. -/
def greetings (s : BleTask SK) (a : BleAction SK) (t : BleTask SK) : ℕ :=
  match a with
  | .greet (.ok ()) => t.iface.ble.written.length - s.iface.ble.written.length
  | _ => 0

/-- The task and the number of greetings the device has not answered yet. Challenges come from
answers only; the device may send any other notification at any time. -/
def reconnect (cr : Crates SK PK) (pb : Prost) :
    Transition.System (BleTask SK × ℕ) (ReconnectAction SK) where
  Init p := (bleTask cr pb).Init p.1 ∧ p.2 = 0
  step p
    | .task (.notify n) =>
      if isChallenge pb n then none
      else ((bleTask cr pb).step p.1 (.notify n)).map fun t => (t, p.2)
    | .task a => ((bleTask cr pb).step p.1 a).map fun t => (t, p.2 + greetings p.1 a t)
    | .answer n =>
      if 0 < p.2 ∧ isChallenge pb n = true then
        ((bleTask cr pb).step p.1 (.notify n)).map fun t => (t, p.2 - 1)
      else none

/-- The notification a step hands to `on_challenge`. -/
def handedOver (pb : Prost) (s : BleTask SK) : BleAction SK → List ValueNotification
  | .recvNotification =>
    match s.phase, s.notifications with
    | .running _, n :: _ => if isChallenge pb n then [n] else []
    | _, _ => []
  | _ => []

/-- The challenges on their way to the loop of `run`: those with no `PeerKnown` ahead of them, which
ends the loop. -/
def waiting (pb : Prost) (notifications : List ValueNotification) : List ValueNotification :=
  (notifications.takeWhile fun n => !isPeerKnown pb n).filter (isChallenge pb)

/-- The step is the `KillService` that ends the loop of `run`. -/
def killsLoop (s : BleTask SK) : BleAction SK → Bool
  | .recvCommand _ =>
    match s.phase, s.commands with
    | .running _, .killService :: _ => true
    | _, _ => false
  | _ => false

/-- The challenges that a step drops with the loop. -/
def droppedBy (pb : Prost) (s : BleTask SK) (a : BleAction SK) : List ValueNotification :=
  if s.killsLoop a then waiting pb s.notifications else []

/-- What one step adds to the answers. -/
def answers (pb : Prost) (h : Answers) (p : BleTask SK × ℕ) :
    ReconnectAction SK → BleTask SK × ℕ → Answers
  | .task a, _ => { h with
      dropped := h.dropped ++ droppedBy pb p.1 a
      handled := h.handled ++ handedOver pb p.1 a }
  | .answer n, _ =>
    let h := { h with emitted := h.emitted ++ [n] }
    if p.1.streamOpen = false then { h with early := h.early ++ [n] }
    else if p.1.notifications.any (isPeerKnown pb) then { h with behind := h.behind ++ [n] }
    else h

/-- The task, the device and the answers of the run. -/
def withAnswers (cr : Crates SK PK) (pb : Prost) :
    Transition.System ((BleTask SK × ℕ) × Answers) (ReconnectAction SK) :=
  (reconnect cr pb).withHistory ⟨[], [], [], [], []⟩ (answers pb)

/-! ## The stream -/

/-- The stream is open in the loop of `run` only, and nothing waits in it elsewhere. -/
def StreamUnused (s : BleTask SK) : Prop :=
  (∀ deviceId, s.phase ≠ .running deviceId) → s.notifications = [] ∧ s.streamOpen = false

/-- A task that stops drops its stream. -/
theorem streamUnused_after {next : Phase} {r : Except Fault Unit × BleInterface SK}
    (h : StreamUnused { s with phase := next }) : StreamUnused (s.after next r) := by
  rcases s.after_cases next r with heq | heq <;> rw [heq]
  · exact h
  · exact fun _ => ⟨rfl, rfl⟩

/-- Every step keeps the stream to the loop of `run`. -/
theorem streamUnused_step (hwf : WellFormed s.phase s.iface) (h : StreamUnused s)
    (hm : Moves cr pb s a t) : StreamUnused t := by
  have hloop : ∀ {s : BleTask SK} {deviceId : String},
      StreamUnused { s with phase := .running deviceId } :=
    fun hphase => absurd rfl (hphase _)
  cases hm with
  | putInput | putCommand | notifyLost => exact h
  | notify hopen =>
    intro hphase
    rw [(h hphase).2] at hopen
    cases hopen
  | endStream => exact fun hphase => ⟨(h hphase).1, rfl⟩
  | @idleCommand env cmd rest hphase hcmd =>
    have hunused := h (by simp [hphase])
    intro _
    rcases (idleStep_keeps cr pb hwf hphase cmd rest env).stream with ⟨hn, hopen⟩ | hdropped
    · rw [hn, hopen]
      exact hunused
    · exact hdropped
  -- these are steps of the loop
  | command | recvInput | recvNotification => exact streamUnused_after hloop
  | greet hphase => exact streamUnused_after fun _ => h (by simp [hphase])
  | publish hphase | publishNone hphase | subscribe hphase | subscribeFails hphase
  | openStreamFails hphase => exact fun _ => h (by simp [hphase])
  | openStream => exact fun hphase => absurd rfl (hphase _)

/-! ## What waits in it -/

/-- No notification is both a challenge and a `PeerKnown`. -/
theorem isPeerKnown_of_isChallenge {n : ValueNotification} (h : isChallenge pb n = true) :
    isPeerKnown pb n = false := by
  unfold isChallenge challengeOf at h
  unfold isPeerKnown
  split_ifs at h with huuid
  · cases h
  · cases hunpack : unpackResponsePacket pb n.value with
    | error e => simp
    | ok packet =>
      by_cases htype : pb.responseType packet.responseType = some .challenge
      · simp [htype]
      · simp [hunpack, htype] at h

@[simp]
theorem waiting_nil : waiting pb [] = [] := rfl

/-- A `PeerKnown` hides what is behind it. -/
theorem waiting_cons (n : ValueNotification) (rest : List ValueNotification) :
    waiting pb (n :: rest) = if isPeerKnown pb n then [] else
      (if isChallenge pb n then [n] else []) ++ waiting pb rest := by
  cases hknown : isPeerKnown pb n <;> cases hchallenge : isChallenge pb n <;>
    simp [waiting, hknown, hchallenge]

/-- A challenge that comes is on its way, unless a `PeerKnown` waits ahead of it. -/
theorem waiting_append (l : List ValueNotification) (n : ValueNotification) :
    waiting pb (l ++ [n]) = waiting pb l ++
      if isChallenge pb n = true ∧ l.any (isPeerKnown pb) = false then [n] else [] := by
  induction l with
  | nil =>
    cases hchallenge : isChallenge pb n
    · simp [waiting_cons, hchallenge]
    · simp [waiting_cons, hchallenge, isPeerKnown_of_isChallenge hchallenge]
  | cons m l ih =>
    rw [List.cons_append, waiting_cons, waiting_cons, ih]
    cases hknown : isPeerKnown pb m <;> simp [hknown]

/-- Outside the loop nothing waits. -/
theorem StreamUnused.waiting (h : StreamUnused s)
    (hphase : ∀ deviceId, s.phase ≠ .running deviceId) : waiting pb s.notifications = [] := by
  rw [(h hphase).1, waiting_nil]

/-- In the loop, taking a notification other than a `PeerKnown` goes on with the next. -/
theorem after_notification (hconnected : s.Connected) {deviceId : String} {n : ValueNotification}
    {rest : List ValueNotification} (hphase : s.phase = .running deviceId)
    (hknown : isPeerKnown pb n = false) :
    after { s with notifications := rest } (.running deviceId)
        (s.iface.handleNotification cr pb deviceId n) =
      { s with
        iface := (s.iface.handleNotification cr pb deviceId n).2
        notifications := rest
        phase := .running deviceId } := by
  obtain ⟨device, hdevice⟩ := Option.isSome_iff_exists.mp (hconnected (by rw [hphase]; rfl))
  have hresult := s.iface.handleNotification_panics_iff cr pb deviceId n
  rw [if_neg (by simp [hknown, hdevice])] at hresult
  rcases hhandled : s.iface.handleNotification cr pb deviceId n with ⟨r, iface⟩
  rw [hhandled] at hresult
  simp only at hresult
  rw [hresult, after_ok]

/-- What a step of the task does to the challenges on their way: it takes the one it hands over,
and a `KillService` drops them all. -/
theorem waiting_step (hcr : cr.Lawful) (hwf : WellFormed s.phase s.iface) (h : StreamUnused s)
    (hconnected : s.Connected) (hm : Moves cr pb s a t)
    (hnotify : ∀ n, a = .notify n → isChallenge pb n = false) :
    handedOver pb s a ++ droppedBy pb s a ++ waiting pb t.notifications =
      waiting pb s.notifications := by
  cases hm with
  | putInput | putCommand | notifyLost | endStream => rfl
  | @notify n hopen =>
    simp [handedOver, droppedBy, killsLoop, waiting_append, hnotify n rfl]
  | @idleCommand env cmd rest hphase hcmd =>
    have hempty := (h (by simp [hphase])).1
    have hnow : (idleCommand cr pb { s with commands := rest } cmd env).notifications = [] := by
      rcases (idleStep_keeps cr pb hwf hphase cmd rest env).stream with ⟨hn, -⟩ | ⟨hn, -⟩
      · exact hn.trans hempty
      · exact hn
    rw [hnow, hempty]
    simp [handedOver, droppedBy, killsLoop, hphase]
  | @command env deviceId cmd rest hphase hcmd =>
    by_cases hkill : cmd = .killService
    · subst hkill
      simp [handedOver, droppedBy, killsLoop, hphase, hcmd, after, stop,
        BleInterface.handleCommand]
    · have hreturns := BleInterface.handleCommand_returns hcr pb hwf.linked deviceId hkill
        env.pair env.send
      rcases hhandled : s.iface.handleCommand cr pb deviceId cmd env.pair env.send with ⟨r, iface⟩
      rw [hhandled] at hreturns
      simp only at hreturns
      have hkills : s.killsLoop (.recvCommand env) = false := by
        simp only [killsLoop, hphase, hcmd]
        cases cmd <;> first | rfl | exact absurd rfl hkill
      simp [handedOver, droppedBy, hkills, hreturns, after_ok]
  | @greet write device hphase =>
    have hempty := (h (by simp [hphase])).1
    rcases s.after_cases (.publishing device) (s.iface.greet cr pb write) with heq | heq <;>
      simp [handedOver, droppedBy, killsLoop, heq, stop, hempty]
  | publish | publishNone | subscribe | subscribeFails | openStreamFails => rfl
  -- opening the stream empties it, but nothing can have waited in it
  | openStream hphase =>
    have hempty := (h (by simp [hphase])).1
    simp [handedOver, droppedBy, killsLoop, hempty]
  | @recvInput envs deviceId event =>
    obtain ⟨values, hevent, -⟩ := BleInterface.handleInputEvent_spec hcr pb hwf.linked event envs
    simp [handedOver, droppedBy, killsLoop, hevent, after_ok]
  | @recvNotification deviceId n rest hphase hn =>
    cases hknown : isPeerKnown pb n with
    | false =>
      rw [after_notification hconnected hphase hknown]
      simp [handedOver, droppedBy, killsLoop, hphase, hn, waiting_cons, hknown]
    -- the loop is gone, and nothing behind the `PeerKnown` was on its way
    | true =>
      have hresult := s.iface.handleNotification_panics_iff cr pb deviceId n
      have hother : isChallenge pb n = false := by
        by_contra hchallenge
        rw [isPeerKnown_of_isChallenge (by simpa using hchallenge)] at hknown
        cases hknown
      rw [if_pos (.inl hknown)] at hresult
      rcases hhandled : s.iface.handleNotification cr pb deviceId n with ⟨r, iface⟩
      rw [hhandled] at hresult
      simp only at hresult
      simp [handedOver, droppedBy, killsLoop, hphase, hn, waiting_cons, hknown, hother, hresult,
        after, stop]

/-- What holds of the answers of a run. -/
structure Accounts (pb : Prost) (s : BleTask SK) (h : Answers) : Prop where
  all : h.early = [] ∧ h.behind = [] ∧ h.dropped = [] →
    h.handled ++ waiting pb s.notifications = h.emitted
  length : h.handled.length + (waiting pb s.notifications).length + h.early.length +
    h.behind.length + h.dropped.length = h.emitted.length

/-- A step of the task hands over, drops or leaves the challenges on their way. -/
theorem accounts_task {h : Answers} (hacc : Accounts pb s h)
    (hwaiting : handedOver pb s a ++ droppedBy pb s a ++ waiting pb t.notifications =
      waiting pb s.notifications) :
    Accounts pb t { h with
      dropped := h.dropped ++ droppedBy pb s a
      handled := h.handled ++ handedOver pb s a } := by
  refine ⟨fun ⟨hearly, hbehind, hdropped⟩ => ?_, ?_⟩
  · obtain ⟨hbefore, hnow⟩ := List.append_eq_nil_iff.mp hdropped
    rw [hnow, List.append_nil] at hwaiting
    rw [List.append_assoc, hwaiting]
    exact hacc.all ⟨hearly, hbehind, hbefore⟩
  · have hlength := congrArg List.length hwaiting
    have hold := hacc.length
    simp only [List.length_append] at hlength ⊢
    omega

/-- An answer is on its way, or early, or behind a `PeerKnown`. -/
theorem accounts_answer {h : Answers} (hacc : Accounts pb s h) {n : ValueNotification} {owed : ℕ}
    (hn : isChallenge pb n = true) (hm : Moves cr pb s (.notify n) t) (q : BleTask SK × ℕ) :
    Accounts pb t (answers pb h (s, owed) (.answer n : ReconnectAction SK) q) := by
  obtain ⟨hall, hlength⟩ := hacc
  cases hm with
  -- the answer is emitted and never seen again
  | notifyLost hclosed =>
    simp only [answers, hclosed, ↓reduceIte]
    refine ⟨fun hnone => by simp at hnone, ?_⟩
    simp only [List.length_append, List.length_singleton]
    omega
  | notify hopen =>
    simp only [answers, hopen, Bool.true_eq_false, ↓reduceIte]
    split_ifs with hknown
    · refine ⟨fun hnone => by simp at hnone, ?_⟩
      simp only [waiting_append, hknown, List.length_append, List.length_singleton]
      simp
      omega
    · have hwaiting : waiting pb (s.notifications ++ [n]) = waiting pb s.notifications ++ [n] := by
        rw [waiting_append, if_pos ⟨hn, by simpa using hknown⟩]
      refine ⟨fun hnone => ?_, ?_⟩
      · simp only [hwaiting, ← List.append_assoc, hall hnone]
      · simp only [hwaiting, List.length_append, List.length_singleton]
        omega

/-! ## Runs -/

/-- A step of the system is a step of the task, and never the emission of a challenge unless it is
an answer. -/
theorem reconnect_step {p q : BleTask SK × ℕ} {act : ReconnectAction SK}
    (h : (reconnect cr pb).step p act = some q) :
    (∃ a, act = .task a ∧ Moves cr pb p.1 a q.1 ∧
      ∀ n, a = .notify n → isChallenge pb n = false) ∨
    ∃ n, act = .answer n ∧ isChallenge pb n = true ∧ Moves cr pb p.1 (.notify n) q.1 := by
  cases act with
  | task a =>
    refine .inl ⟨a, rfl, ?_⟩
    cases a with
    | notify n =>
      simp only [reconnect] at h
      split_ifs at h with hchallenge
      obtain ⟨t, ht, rfl⟩ := Option.map_eq_some_iff.mp h
      refine ⟨moves_of_step ht, ?_⟩
      rintro _ ⟨⟩
      simpa using hchallenge
    | _ =>
      simp only [reconnect] at h
      obtain ⟨t, ht, rfl⟩ := Option.map_eq_some_iff.mp h
      exact ⟨moves_of_step ht, nofun⟩
  | answer n =>
    simp only [reconnect] at h
    split_ifs at h with hanswer
    obtain ⟨t, ht, rfl⟩ := Option.map_eq_some_iff.mp h
    exact .inr ⟨n, rfl, hanswer.2, moves_of_step ht⟩

/-- What holds in every run of the task and the device. -/
structure Reconnecting (pb : Prost) (s : BleTask SK) (h : Answers) : Prop where
  wellFormed : WellFormed s.phase s.iface
  stream : StreamUnused s
  connected : s.Connected
  accounts : Accounts pb s h

/-- It holds in every run. -/
theorem reconnecting_of_reachable (hcr : cr.Lawful) {p : (BleTask SK × ℕ) × Answers}
    (h : (withAnswers cr pb).Reachable p) : Reconnecting pb p.1.1 p.2 := by
  refine h.invariant_withHistory (I := fun p h => Reconnecting pb p.1 h) ?_ ?_
  · rintro ⟨s, owed⟩ ⟨⟨storage, rfl⟩, -⟩
    exact ⟨wellFormed_start storage, fun _ => ⟨rfl, rfl⟩, nofun, fun _ => rfl, rfl⟩
  · rintro ⟨s, owed⟩ h act t ⟨hwf, hstream, hconnected, hacc⟩ - hst
    rcases reconnect_step hst with ⟨a, rfl, hm, hnotify⟩ | ⟨n, rfl, hn, hm⟩
    · exact ⟨wellFormed_step hcr hwf hm, streamUnused_step hwf hstream hm,
        connected_step hcr hwf hconnected hm,
        accounts_task hacc (waiting_step hcr hwf hstream hconnected hm hnotify)⟩
    · exact ⟨wellFormed_step hcr hwf hm, streamUnused_step hwf hstream hm,
        connected_step hcr hwf hconnected hm, accounts_answer hacc hn hm t⟩

/-- The loop of `run` takes a notification other than a `PeerKnown` and goes on. -/
theorem exists_taken (hcr : cr.Lawful) {p : (BleTask SK × ℕ) × Answers}
    (hp : (withAnswers cr pb).Reachable p) {deviceId : String} {n : ValueNotification}
    {rest : List ValueNotification} (hphase : p.1.1.phase = .running deviceId)
    (hn : p.1.1.notifications = n :: rest) (hknown : isPeerKnown pb n = false) :
    ∃ q, (withAnswers cr pb).step p (.task .recvNotification) = some q ∧
      q.1.1.phase = .running deviceId ∧ q.1.1.notifications = rest ∧
      q.2.handled = p.2.handled ++ (if isChallenge pb n then [n] else []) ∧
      q.2.emitted = p.2.emitted := by
  have hconnected := (reconnecting_of_reachable hcr hp).connected
  have hstep : (bleTask cr pb).step p.1.1 .recvNotification = some { p.1.1 with
      iface := (p.1.1.iface.handleNotification cr pb deviceId n).2
      notifications := rest
      phase := .running deviceId } := by
    rw [← after_notification hconnected hphase hknown]
    simp only [bleTask, step, hphase, hn]
  refine ⟨((_, _), _), Transition.System.withHistory_step_iff.mpr
    ⟨Option.map_eq_some_iff.mpr ⟨_, hstep, rfl⟩, rfl⟩, rfl, rfl, ?_, rfl⟩
  simp only [handedOver, hphase, hn]

/-- The loop of `run` takes what waits in the stream and hands over every challenge on its way. -/
theorem handled_of_replay (hcr : cr.Lawful) {deviceId : String} (l : List ValueNotification)
    {p : (BleTask SK × ℕ) × Answers} (hp : (withAnswers cr pb).Reachable p)
    (hphase : p.1.1.phase = .running deviceId) (hl : p.1.1.notifications = l) :
    ∃ k q, (withAnswers cr pb).replay (fun _ _ => True) p
        (List.replicate k (.task .recvNotification)) = some q ∧
      q.1.1.phase = .running deviceId ∧ q.2.handled = p.2.handled ++ waiting pb l ∧
      q.2.emitted = p.2.emitted := by
  induction l generalizing p with
  | nil => exact ⟨0, p, rfl, hphase, by simp, rfl⟩
  | cons n rest ih =>
    cases hknown : isPeerKnown pb n with
    -- the loop ends here, and nothing behind it is on its way
    | true => exact ⟨0, p, rfl, hphase, by simp [waiting_cons, hknown], rfl⟩
    | false =>
      obtain ⟨q, hq, hphase', hrest, hhandled, hemitted⟩ := exists_taken hcr hp hphase hl hknown
      obtain ⟨k, r, hreplay, hrunning, hall, hsame⟩ := ih (hp.step hq) hphase' hrest
      refine ⟨k + 1, r, ?_, hrunning, ?_, hsame.trans hemitted⟩
      · rw [List.replicate_succ, Transition.System.replay, if_pos trivial, hq]
        exact hreplay
      · rw [hall, hhandled, waiting_cons, hknown]
        simp

/-- In every run of the task and the device: every answer has been handed to `on_challenge` or is on
its way to it, in order, if and only if none was emitted while the stream was not open, none behind
a `PeerKnown`, and none waited when a `KillService` ended the loop. Nothing is on its way but to a
running loop, which hands over all that is by taking what waits in the stream. -/
theorem answers_delivered_iff (hcr : cr.Lawful) {p : (BleTask SK × ℕ) × Answers}
    (h : (withAnswers cr pb).Reachable p) :
    (p.2.handled ++ waiting pb p.1.1.notifications = p.2.emitted ↔
      p.2.early = [] ∧ p.2.behind = [] ∧ p.2.dropped = []) ∧
    ((∀ deviceId, p.1.1.phase ≠ .running deviceId) → waiting pb p.1.1.notifications = []) ∧
    ∀ deviceId, p.1.1.phase = .running deviceId →
      ∃ k q, (withAnswers cr pb).replay (fun _ _ => True) p
          (List.replicate k (.task .recvNotification)) = some q ∧
        q.1.1.phase = .running deviceId ∧
        q.2.handled = p.2.handled ++ waiting pb p.1.1.notifications ∧
        q.2.emitted = p.2.emitted := by
  obtain ⟨-, hstream, -, hacc⟩ := reconnecting_of_reachable hcr h
  refine ⟨⟨fun heq => ?_, hacc.all⟩, hstream.waiting, fun deviceId hphase =>
    handled_of_replay hcr _ h hphase rfl⟩
  -- an answer that is lost is missing from the count
  have hlength := congrArg List.length heq
  have hall := hacc.length
  rw [List.length_append] at hlength
  exact ⟨List.eq_nil_of_length_eq_zero (by omega), List.eq_nil_of_length_eq_zero (by omega),
    List.eq_nil_of_length_eq_zero (by omega)⟩

/-- The device answers once the loop is running: the answer is handed to `on_challenge`. -/
theorem answers_delivered_sample :
    ∃ p : (BleTask UInt8 × ℕ) × Answers, p.2.handled = [Sample.notification 3 [9]] ∧
      p.2.handled ++ waiting Sample.prost p.1.1.notifications = p.2.emitted := by
  have hrun : ((withAnswers sampleCrates Sample.prost).replay (fun _ _ => True)
      ((Sample.startPaired, 0), ⟨[], [], [], [], []⟩)
      ((Sample.greetRun ++ Sample.subscribeRun).map .task ++
        [.answer (Sample.notification 3 [9]), .task .recvNotification])).map
        (fun p => ((p.2.early, p.2.behind, p.2.dropped), p.2.handled)) =
      some (([], [], []), [Sample.notification 3 [9]]) := by
    decide +kernel
  obtain ⟨p, hp, hfacts⟩ := Option.map_eq_some_iff.mp hrun
  simp only [Prod.mk.injEq] at hfacts
  obtain ⟨hnone, hhandled⟩ := hfacts
  exact ⟨p, hhandled, (answers_delivered_iff sampleCrates_lawful
    (.of_replay _ (.init ⟨⟨⟨_, rfl⟩, rfl⟩, rfl⟩) hp)).1.mpr hnone⟩

/-- The device answers the greeting at once, before `run` has subscribed: the challenge is neither
handled nor on its way once the loop is running. -/
theorem early_answer_lost :
    ¬ ∀ p : (BleTask UInt8 × ℕ) × Answers,
      (withAnswers sampleCrates Sample.prost).Reachable p →
        p.2.handled ++ waiting Sample.prost p.1.1.notifications = p.2.emitted := by
  intro hclaim
  have hrun : ((withAnswers sampleCrates Sample.prost).replay (fun _ _ => True)
      ((Sample.startPaired, 0), ⟨[], [], [], [], []⟩)
      (Sample.greetRun.map .task ++ [.answer (Sample.notification 3 [9])] ++
        Sample.subscribeRun.map .task)).map
        (fun p => (p.2.handled, waiting Sample.prost p.1.1.notifications, p.2.emitted)) =
      some ([], [], [Sample.notification 3 [9]]) := by
    decide +kernel
  obtain ⟨p, hp, hfacts⟩ := Option.map_eq_some_iff.mp hrun
  simp only [Prod.mk.injEq] at hfacts
  obtain ⟨hhandled, hwaiting, hemitted⟩ := hfacts
  have hdelivered := hclaim p (.of_replay _ (.init ⟨⟨⟨_, rfl⟩, rfl⟩, rfl⟩) hp)
  rw [hhandled, hwaiting, hemitted] at hdelivered
  cases hdelivered

end BleTask

end ToothPaste
