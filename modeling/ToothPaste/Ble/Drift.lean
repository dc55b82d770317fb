import ToothPaste.Ble.Mouse
import ToothPaste.Input.Motion
import ToothPaste.Lib.Rounding

/-!
# Drift of the motion that is sent

The movement of a mouse event is rounded to whole units when its packet is made, and what the
rounding leaves out is kept nowhere. So the errors of a run of movements add up.

* `drift_le`: in every run with every send succeeding, what was sent of the motion is at most as
  many halves away from it as there were movements that were no whole number of units.
* `small_moves_vanish`: the mouse moves down by three eighths of a unit, twice, and none of it is
  sent.
-/

namespace ToothPaste

open Rounding

/-! ## Frames -/

/-- The rounded value fits in 32 bits. -/
def FitsI32 (x : ℚ) : Prop := -2 ^ 31 ≤ roundHalfAway x ∧ roundHalfAway x ≤ 2 ^ 31 - 1

instance (x : ℚ) : Decidable (FitsI32 x) := inferInstanceAs (Decidable (_ ∧ _))

/-- What fits is rounded half away from zero. -/
theorem roundAsI32_eq {x : ℚ} (h : FitsI32 x) : roundAsI32 x = roundHalfAway x := by
  have hround : (if 0 ≤ x then ⌊x + 1 / 2⌋ else ⌈x - 1 / 2⌉) = roundHalfAway x := by
    unfold roundHalfAway
    split_ifs
    · rw [round_eq]
    · rw [round_eq, neg_add_eq_sub, ← Int.ceil_neg, neg_sub]
  rw [roundAsI32, hround, min_eq_right h.2, max_eq_right h.1]

@[simp]
theorem roundAsI32_zero : roundAsI32 0 = 0 := by decide +kernel

/-- A coordinate of a frame. -/
def Axis.frame : Axis → Frame → ℤ
  | .x => Frame.x
  | .y => Frame.y

/-- The frames of a mouse packet. -/
def mouseFrames (payload : EncryptedData) : List Frame :=
  match payload.packetData with
  | some (.mousePacket packet) => packet.frames
  | _ => []

/-- How far the frames of the mouse packets go on an axis. -/
def frameSum (axis : Axis) (payloads : List EncryptedData) : ℤ :=
  ((payloads.flatMap mouseFrames).map axis.frame).sum

@[simp]
theorem frameSum_append (axis : Axis) (payloads payloads' : List EncryptedData) :
    frameSum axis (payloads ++ payloads') = frameSum axis payloads + frameSum axis payloads' := by
  rw [frameSum, List.flatMap_append, List.map_append, List.sum_append]
  rfl

/-- Payloads without frames do not move the mouse. -/
theorem frameSum_eq_zero (axis : Axis) {payloads : List EncryptedData}
    (h : ∀ payload ∈ payloads, mouseFrames payload = []) : frameSum axis payloads = 0 := by
  rw [frameSum, List.flatMap_eq_nil_iff.mpr h]
  rfl

/-- The frame of a mouse packet is its movement, rounded. -/
theorem frameSum_mousePacket (axis : Axis) (x y : ℚ) (left right : Bool) (scroll : ℤ) :
    frameSum axis [createMousePacket x y left right scroll] = roundAsI32 (axis.coord (x, y)) := by
  cases axis <;> exact add_zero _

/-! ## Input events -/

/-- The movement an input event reports. -/
def InputEvent.delta : InputEvent → Option (ℚ × ℚ)
  | .rdevEvent event => event.eventType.position
  | _ => none

/-- The movements on an axis, each of them rounded. -/
def roundedSum (axis : Axis) (deltas : List (ℚ × ℚ)) : ℤ :=
  (deltas.map fun delta => roundAsI32 (axis.coord delta)).sum

@[simp]
theorem roundedSum_append (axis : Axis) (deltas deltas' : List (ℚ × ℚ)) :
    roundedSum axis (deltas ++ deltas') = roundedSum axis deltas + roundedSum axis deltas' := by
  rw [roundedSum, List.map_append, List.sum_append]
  rfl

/-- What is sent for an input event moves the mouse by the rounded movement, and not at all if the
event reports none. -/
theorem frameSum_inputPayloads (axis : Axis) (event : InputEvent) :
    frameSum axis (inputPayloads event) = roundedSum axis event.delta.toList := by
  cases event with
  | keycode | consumerControl => rfl
  | clipboard text =>
    refine frameSum_eq_zero axis fun payload hpayload => ?_
    obtain ⟨chunk, -, rfl⟩ := List.mem_map.mp hpayload
    rfl
  | rdevEvent event =>
    obtain ⟨time, name, eventType⟩ := event
    cases eventType with
    | mouseMove x y =>
      show frameSum axis [createMousePacket x y false false 0] = roundAsI32 (axis.coord (x, y)) + 0
      rw [frameSum_mousePacket, add_zero]
    | buttonPress | buttonRelease | wheel =>
      show frameSum axis [createMousePacket 0 0 _ _ _] = 0
      rw [frameSum_mousePacket, Axis.coord_zero, roundAsI32_zero]
    | keyPress | keyRelease => cases name <;> rfl

/-- No command moves the mouse. -/
theorem frameSum_commandPayloads (axis : Axis) (cmd : AppCommand) :
    frameSum axis (commandPayloads cmd) = 0 := by
  cases cmd <;> rfl

namespace BleTask

variable {SK PK : Type} {cr : Crates SK PK} {pb : Prost}

/-! ## One step -/

/-- The movement a step takes from the input channel. -/
def takenDelta (s : BleTask SK) : BleAction SK → Option (ℚ × ℚ)
  | .recvInput _ =>
    match s.phase, s.inputs with
    | .running _, event :: _ => event.delta
    | _, _ => none
  | _ => none

/-- The movements that were taken, and the sends that were attempted. -/
structure MotionLog where
  deltas : List (ℚ × ℚ)
  attempted : List (EncryptedData × Bool)

/-- The payloads that were sent. -/
def MotionLog.sent (log : MotionLog) : List EncryptedData :=
  (log.attempted.filter Prod.snd).map Prod.fst

/-- What one step adds. -/
def motionLog (cr : Crates SK PK) (pb : Prost) (log : MotionLog) (s : BleTask SK)
    (a : BleAction SK) (_ : BleTask SK) : MotionLog where
  deltas := log.deltas ++ (takenDelta s a).toList
  attempted := log.attempted ++ attempts cr pb s a

/-- The task with the movements it has taken and the sends it has attempted. -/
def withMotionLog (cr : Crates SK PK) (pb : Prost) :
    Transition.System (BleTask SK × MotionLog) (BleAction SK) :=
  (bleTask cr pb).withHistory ⟨[], []⟩ (motionLog cr pb)

/-- When every send returned `Ok`, what was sent are the payloads. -/
theorem sent_of_all {i : BleInterface SK} {payloads : List EncryptedData} {envs : ℕ → SendEnv}
    (h : (i.attempts cr pb payloads envs).all Prod.snd = true) :
    ((i.attempts cr pb payloads envs).filter Prod.snd).map Prod.fst = payloads := by
  rw [BleInterface.attempts_of_all h, List.filter_map, List.map_map]
  simp [Function.comp_def]

/-- A step whose sends succeed sends the movement that it takes, rounded. -/
theorem frameSum_attempts (axis : Axis) {s : BleTask SK} {a : BleAction SK}
    (h : (attempts cr pb s a).all Prod.snd = true) :
    frameSum axis (((attempts cr pb s a).filter Prod.snd).map Prod.fst) =
      roundedSum axis (takenDelta s a).toList := by
  unfold attempts at h ⊢
  unfold takenDelta
  cases a with
  | recvCommand env =>
    show _ = 0
    dsimp only at h ⊢
    split at h
    case h_1 | h_2 => rw [sent_of_all h, frameSum_commandPayloads]
    case h_3 => rfl
  | recvInput envs =>
    cases hphase : s.phase with
    | running deviceId =>
      cases hinputs : s.inputs with
      | nil => rfl
      | cons event rest =>
        simp only [hphase, hinputs] at h ⊢
        rw [sent_of_all h, frameSum_inputPayloads]
    | _ => rfl
  | _ => rfl

/-! ## Runs -/

/-- In every run in which every send succeeded, what was sent are the movements, each of them
rounded. -/
theorem frameSum_sent {p : BleTask SK × MotionLog} (h : (withMotionLog cr pb).Reachable p)
    (hsent : p.2.attempted.all Prod.snd = true) (axis : Axis) :
    frameSum axis p.2.sent = roundedSum axis p.2.deltas := by
  refine h.invariant_withHistory
    (I := fun _ log => log.attempted.all Prod.snd = true →
      frameSum axis log.sent = roundedSum axis log.deltas) (fun _ _ _ => rfl) ?_ hsent
  intro s log a t ih _ _ hall
  rw [motionLog, List.all_append, Bool.and_eq_true] at hall
  rw [motionLog, MotionLog.sent, List.filter_append, List.map_append, frameSum_append,
    roundedSum_append, frameSum_attempts axis hall.2]
  exact congrArg (· + _) (ih hall.1)

/-- In every run in which every send succeeded, on each axis on which the rounded movements fit in
32 bits: after every event, the frames that were sent add up to the movements that were taken, up
to a half for each movement that is no integer. -/
theorem drift_le {p : BleTask SK × MotionLog} (h : (withMotionLog cr pb).Reachable p)
    (hsent : p.2.attempted.all Prod.snd = true) (axis : Axis)
    (hfits : ∀ delta ∈ p.2.deltas, FitsI32 (axis.coord delta)) :
    |(frameSum axis p.2.sent : ℚ) - (p.2.deltas.map axis.coord).sum| ≤
      (p.2.deltas.countP fun delta => Int.fract (axis.coord delta) ≠ 0 : ℕ) * (1 / 2) := by
  have hrounded : roundedSum axis p.2.deltas =
      ((p.2.deltas.map axis.coord).map roundHalfAway).sum := by
    rw [roundedSum, List.map_map]
    exact congrArg List.sum (List.map_congr_left fun delta hdelta =>
      roundAsI32_eq (hfits delta hdelta))
  have hcount : (p.2.deltas.countP fun delta => Int.fract (axis.coord delta) ≠ 0) =
      (p.2.deltas.map axis.coord).countP fun x => Int.fract x ≠ 0 := by
    rw [List.countP_map]
    rfl
  rw [frameSum_sent h hsent, hrounded, hcount]
  exact abs_sum_roundHalfAway_sub_le _

/-- Half a unit to the right and three eighths of a unit down. -/
def smallMove : ℚ × ℚ := (1 / 2, 3 / 8)

/-- A device is connected, paired and challenged, and there are two small movements. -/
def smallMovesRun : List (BleAction UInt8) :=
  Sample.connectRun ++ Sample.pairRun 3 5 ++ Sample.challengeRun [9] ++
    [.putInput (mouseEvent (.mouseMove smallMove.1 smallMove.2)), .recvInput Sample.sendEnvs,
      .putInput (mouseEvent (.mouseMove smallMove.1 smallMove.2)), .recvInput Sample.sendEnvs]

/-- Both movements are sent as one unit to the right. -/
theorem exists_small_moves : ∃ p : BleTask UInt8 × MotionLog,
    (withMotionLog sampleCrates Sample.prost).Reachable p ∧
      p.2.attempted.all Prod.snd = true ∧ p.2.deltas = [smallMove, smallMove] ∧
      p.2.sent.flatMap mouseFrames = [⟨1, 0⟩, ⟨1, 0⟩] := by
  have hrun : ((withMotionLog sampleCrates Sample.prost).replay (fun _ _ => True)
      (Sample.startTask, ⟨[], []⟩) smallMovesRun).map
        (fun p => (p.2.attempted.all Prod.snd, p.2.deltas, p.2.sent.flatMap mouseFrames)) =
      some (true, [smallMove, smallMove], [⟨1, 0⟩, ⟨1, 0⟩]) := by decide +kernel
  obtain ⟨p, hp, hlog⟩ := Option.map_eq_some_iff.mp hrun
  obtain ⟨hsent, hlog⟩ := Prod.mk.inj hlog
  obtain ⟨hdeltas, hframes⟩ := Prod.mk.inj hlog
  exact ⟨p, .of_replay _ (.init ⟨⟨_, rfl⟩, rfl⟩) hp, hsent, hdeltas, hframes⟩

/-- Of the way of one unit to the right two are sent, as each movement is rounded up. -/
theorem drift_le_sample : ∃ p : BleTask UInt8 × MotionLog,
    p.2.deltas = [smallMove, smallMove] ∧ frameSum .x p.2.sent = 2 ∧
      |(frameSum .x p.2.sent : ℚ) - (p.2.deltas.map Axis.x.coord).sum| ≤
        (p.2.deltas.countP fun delta => Int.fract (Axis.x.coord delta) ≠ 0 : ℕ) * (1 / 2) := by
  obtain ⟨p, hp, hsent, hdeltas, hframes⟩ := exists_small_moves
  refine ⟨p, hdeltas, by rw [frameSum, hframes]; rfl, drift_le hp hsent .x ?_⟩
  rw [hdeltas]
  decide +kernel

/-- Of the way of three quarters of a unit down nothing is sent. -/
theorem small_moves_vanish :
    ¬ ∀ p : BleTask UInt8 × MotionLog, (withMotionLog sampleCrates Sample.prost).Reachable p →
      p.2.attempted.all Prod.snd = true →
      (∀ delta ∈ p.2.deltas, ∀ axis : Axis, FitsI32 (axis.coord delta)) →
      ∀ axis : Axis,
        |(frameSum axis p.2.sent : ℚ) - (p.2.deltas.map axis.coord).sum| ≤ 1 / 2 := by
  intro hclaim
  obtain ⟨p, hp, hsent, hdeltas, hframes⟩ := exists_small_moves
  have hfits : ∀ delta ∈ p.2.deltas, ∀ axis : Axis, FitsI32 (axis.coord delta) := by
    rw [hdeltas]
    intro delta hdelta axis
    cases axis <;> revert delta <;> decide +kernel
  have hdrift := hclaim p hp hsent hfits .y
  rw [frameSum, hframes, hdeltas] at hdrift
  exact absurd hdrift (by decide +kernel)

end BleTask

end ToothPaste
