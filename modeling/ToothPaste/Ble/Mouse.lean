import ToothPaste.Ble.Payloads
import ToothPaste.Input.Buttons

/-!
# Mouse packets

`run` sends one mouse packet for each mouse event, built from that event alone: a packet reports a
button as down for the press of that button and for nothing else. The service keeps no record of
the buttons that are held.

* `mouse_packets_report`: in every run, what each mouse packet reports about a button is whether
  its own event is the press of it. This is the level of the button after the events so far
  exactly when the event is about that button, or the button was up.
* `drag_reports_release`: a button is held, the mouse moves, and the packet reports it as up.
-/

namespace ToothPaste

/-- A mouse event. -/
def EventType.isMouse : EventType → Bool
  | .keyPress _ | .keyRelease _ => false
  | _ => true

/-- A mouse event that was taken, and the sends attempted for it. -/
structure MouseReport where
  event : EventType
  attempted : List (EncryptedData × Bool)

namespace BleTask

variable {SK PK : Type} {cr : Crates SK PK} {pb : Prost}

/-- What one step adds to the mouse events taken. -/
def mouseReports (cr : Crates SK PK) (pb : Prost) (reports : List MouseReport) (s : BleTask SK)
    (a : BleAction SK) (_ : BleTask SK) : List MouseReport :=
  match a, s.phase, s.inputs with
  | .recvInput _, .running _, .rdevEvent event :: _ =>
    if event.eventType.isMouse then reports ++ [⟨event.eventType, attempts cr pb s a⟩] else reports
  | _, _, _ => reports

/-- The task with the mouse events it has taken. -/
def withMouseReports (cr : Crates SK PK) (pb : Prost) :
    Transition.System (BleTask SK × List MouseReport) (BleAction SK) :=
  (bleTask cr pb).withHistory [] (mouseReports cr pb)

/-! ## One packet -/

/-- `value` reports the button's level after `before` and `event` exactly when the event is about
the button, or the button was up. -/
theorem level_iff {button : Button} {before : List EventType} {event : EventType} {value : ℤ}
    (hvalue : value = 1 ↔ event = .buttonPress button) :
    (value = 1 ↔ isDown button (before ++ [event]) = true) ↔
      (isDown button before = true → event.IsAbout button) := by
  have hne : EventType.buttonPress button ≠ .buttonRelease button := nofun
  rw [hvalue]
  exact Level.eq_on_iff_level_concat hne before event

/-- The one packet that is sent for a mouse event. -/
theorem inputPayloads_of_mouse {event : Event} (h : event.eventType.isMouse = true) :
    ∃ packet payload, inputPayloads (.rdevEvent event) = [payload] ∧
      payload.packetData = some (.mousePacket packet) ∧
      (packet.lClick = 1 ↔ event.eventType = .buttonPress .left) ∧
      (packet.rClick = 1 ↔ event.eventType = .buttonPress .right) := by
  obtain ⟨time, name, eventType⟩ := event
  cases eventType with
  | keyPress | keyRelease => cases h
  -- both buttons are written, and only the event's own one as down
  | buttonPress button =>
    refine ⟨_, _, rfl, rfl, ?_, ?_⟩ <;> cases button <;> simp [pressedButtons]
  | buttonRelease button => exact ⟨_, _, rfl, rfl, by simp, by simp⟩
  | mouseMove x y => exact ⟨_, _, rfl, rfl, by simp, by simp⟩
  | wheel deltaX deltaY => exact ⟨_, _, rfl, rfl, by simp, by simp⟩

/-- What holds of a mouse event that was taken: one packet was attempted for it, which reports the
presses of the two buttons. -/
def ReportsPresses (r : MouseReport) : Prop :=
  ∃ packet payload ok, r.attempted = [(payload, ok)] ∧
    payload.packetData = some (.mousePacket packet) ∧
    (packet.lClick = 1 ↔ r.event = .buttonPress .left) ∧
    (packet.rClick = 1 ↔ r.event = .buttonPress .right)

theorem reportsPresses_step {reports : List MouseReport} {s t : BleTask SK} {a : BleAction SK}
    (h : ∀ r ∈ reports, ReportsPresses r) :
    ∀ r ∈ mouseReports cr pb reports s a t, ReportsPresses r := by
  unfold mouseReports
  split
  next _ _ envs deviceId event rest hphase hinputs =>
    split_ifs with hmouse
    · intro r hr
      rcases List.mem_append.mp hr with hr | hr
      · exact h r hr
      -- the event that is taken in this step
      obtain ⟨packet, payload, hpayloads, hpacket⟩ := inputPayloads_of_mouse hmouse
      obtain ⟨ok, hone⟩ :=
        BleInterface.attempts_singleton cr pb s.iface payload envs
      rw [List.mem_singleton.mp hr]
      exact ⟨packet, payload, ok, by simp only [attempts, hphase, hinputs, hpayloads, hone],
        hpacket⟩
    · exact h
  next => exact h

/-! ## Runs -/

/-- In every run, for every mouse event that was taken: each packet attempted for it reports the
left button as down exactly when the event is the press of the left button, and likewise for the
right one. So a packet reports the level of a button exactly when its event is about that button,
or the button was up before it. -/
theorem mouse_packets_report {p : BleTask SK × List MouseReport}
    (h : (withMouseReports cr pb).Reachable p) {earlier later : List MouseReport}
    {r : MouseReport} (hr : p.2 = earlier ++ r :: later) :
    ∃ packet payload ok, r.attempted = [(payload, ok)] ∧
      payload.packetData = some (.mousePacket packet) ∧
      (packet.lClick = 1 ↔ r.event = .buttonPress .left) ∧
      (packet.rClick = 1 ↔ r.event = .buttonPress .right) ∧
      ((packet.lClick = 1 ↔ isDown .left (earlier.map MouseReport.event ++ [r.event]) = true) ↔
        (isDown .left (earlier.map MouseReport.event) = true → r.event.IsAbout .left)) ∧
      ((packet.rClick = 1 ↔ isDown .right (earlier.map MouseReport.event ++ [r.event]) = true) ↔
        (isDown .right (earlier.map MouseReport.event) = true → r.event.IsAbout .right)) := by
  have hall : ∀ r ∈ p.2, ReportsPresses r := h.invariant_withHistory
    (I := fun _ reports => ∀ r ∈ reports, ReportsPresses r) (fun _ _ _ hr => by cases hr)
    fun _ _ _ _ hall _ _ => reportsPresses_step hall
  obtain ⟨packet, payload, ok, hattempted, hpacket, hleft, hright⟩ :=
    hall r (by rw [hr]; exact List.mem_append_right _ List.mem_cons_self)
  exact ⟨packet, payload, ok, hattempted, hpacket, hleft, hright, level_iff hleft,
    level_iff hright⟩

/-- An event of the input listener. -/
def mouseEvent (eventType : EventType) : InputEvent := .rdevEvent ⟨0, none, eventType⟩

/-- A device is connected, paired and challenged; the left button is pressed and the mouse moves. -/
def dragRun : List (BleAction UInt8) :=
  Sample.connectRun ++ Sample.pairRun 3 5 ++ Sample.challengeRun [9] ++
    [.putInput (mouseEvent (.buttonPress .left)), .recvInput Sample.sendEnvs,
      .putInput (mouseEvent (.mouseMove 10 0)), .recvInput Sample.sendEnvs]

/-- The press of the left button and a movement were taken, and the packet that was sent for the
movement reports the button as up. -/
def isDrag : List MouseReport → Bool
  | [⟨.buttonPress .left, _⟩, ⟨.mouseMove _ _, [(⟨_, some (.mousePacket packet)⟩, true)]⟩] =>
    packet.lClick = 0
  | _ => false

/-- The sample run is such a run. -/
theorem exists_drag : ∃ p : BleTask UInt8 × List MouseReport,
    (withMouseReports sampleCrates Sample.prost).Reachable p ∧ ∃ pressed moved payload packet x y,
      p.2 = [pressed, moved] ∧ pressed.event = .buttonPress .left ∧ moved.event = .mouseMove x y ∧
      moved.attempted = [(payload, true)] ∧ payload.packetData = some (.mousePacket packet) ∧
      packet.lClick = 0 := by
  have hrun : ((withMouseReports sampleCrates Sample.prost).replay (fun _ _ => True)
      (Sample.startTask, []) dragRun).map (fun p => isDrag p.2) = some true := by decide +kernel
  obtain ⟨p, hp, hdrag⟩ := Option.map_eq_some_iff.mp hrun
  unfold isDrag at hdrag
  split at hdrag
  next attempted x y type packet hreports =>
    exact ⟨p, .of_replay _ (.init ⟨⟨_, rfl⟩, rfl⟩) hp, _, _, _, packet, x, y, hreports, rfl, rfl,
      rfl, rfl, by simpa using hdrag⟩
  next => cases hdrag

/-- The packet of the movement reports what its own event says, not the level of the button. -/
theorem mouse_packets_report_sample : ∃ (r : MouseReport) (packet : MousePacket) (x y : ℚ),
    r.event = .mouseMove x y ∧ (packet.lClick = 1 ↔ r.event = .buttonPress .left) := by
  obtain ⟨p, hp, pressed, moved, -, -, x, y, hreports, -, hmoved, -⟩ := exists_drag
  obtain ⟨packet, -, -, -, -, hleft, -⟩ :=
    mouse_packets_report hp (show p.2 = [pressed] ++ moved :: [] from hreports)
  exact ⟨moved, packet, x, y, hmoved, hleft⟩

/-- The left button is held while the mouse moves, and the packet of the movement reports it as
up. -/
theorem drag_reports_release :
    ¬ ∀ p : BleTask UInt8 × List MouseReport,
      (withMouseReports sampleCrates Sample.prost).Reachable p →
      ∀ earlier r later, p.2 = earlier ++ r :: later →
      ∀ payload packet, (payload, true) ∈ r.attempted →
        payload.packetData = some (.mousePacket packet) →
        (packet.lClick = 1 ↔ isDown .left (earlier.map MouseReport.event ++ [r.event]) = true) := by
  intro hclaim
  obtain ⟨p, hp, pressed, moved, payload, packet, x, y, hreports, hpressed, hmoved, hone, hpacket,
    hleft⟩ := exists_drag
  have hlevel := hclaim p hp [pressed] moved [] hreports payload packet
    (by rw [hone]; exact List.mem_singleton_self _) hpacket
  rw [List.map_singleton, hpressed, hmoved, hleft] at hlevel
  exact absurd (hlevel.mpr rfl) (by decide)

end BleTask

end ToothPaste
