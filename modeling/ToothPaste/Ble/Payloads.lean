import ToothPaste.Ble.Sample
import ToothPaste.Ble.Steps

/-!
# The payloads handed to `encrypt_and_send`

`attempts` lists, for a step of the task, the payloads it hands to `encrypt_and_send` and whether
each of these sends returned `Ok`. A send that returned `Ok` has written exactly its payload, under
the active key (`sendPayloads_sent`).

Text reaches the device in keyboard packets. Only clipboard text is cut into packets of 100
characters; the text of a `SendKeyboardInput` command, in either loop, and the name of a key event
go out in one packet whatever their length.

* `keyboard_packets_bounded`: in every run in which no such text is longer than 100 characters, no
  keyboard packet is; the first longer text makes a longer packet.
* `long_text_unbounded`: a run that sends a packet of 101 characters.
-/

namespace ToothPaste

/-- The payloads a command is sent as: those of `send_keyboard_string` and `send_mouse_jiggle`, in
either loop. -/
def commandPayloads : AppCommand → List EncryptedData
  | .sendKeyboardInput text => [createKeyboardPacket text]
  | .sendMouseJiggle enable => [createMouseJigglePacket enable]
  | _ => []

namespace BleInterface

variable {SK PK : Type} (cr : Crates SK PK) (pb : Prost)

/-- The payloads that `sendPayloads` hands to `encrypt_and_send`, and whether the send returned
`Ok`. -/
def attempts (i : BleInterface SK) :
    List EncryptedData → (ℕ → SendEnv) → List (EncryptedData × Bool)
  | [], _ => []
  | payload :: payloads, envs =>
    match encryptAndSend cr pb i payload (envs 0) with
    | (.error _, _) => [(payload, false)]
    | (.ok (), i) => (payload, true) :: attempts i payloads fun n => envs (n + 1)

variable {cr} {pb}

/-- Only payloads that are to be sent are attempted. -/
theorem mem_of_mem_attempts {i : BleInterface SK} {payloads : List EncryptedData}
    {envs : ℕ → SendEnv} {x : EncryptedData × Bool} (h : x ∈ i.attempts cr pb payloads envs) :
    x.1 ∈ payloads := by
  induction payloads generalizing i envs with
  | nil => cases h
  | cons payload payloads ih =>
    rw [attempts] at h
    rcases hsend : i.encryptAndSend cr pb payload (envs 0) with ⟨r, j⟩
    rw [hsend] at h
    cases r with
    | error e => exact List.mem_cons.mpr (.inl (by rw [List.mem_singleton.mp h]))
    | ok u =>
      rcases List.mem_cons.mp h with rfl | h
      · exact List.mem_cons_self
      · exact List.mem_cons_of_mem _ (ih h)

/-- A single payload is always attempted. -/
theorem attempts_singleton (cr : Crates SK PK) (pb : Prost) (i : BleInterface SK)
    (payload : EncryptedData) (envs : ℕ → SendEnv) :
    ∃ ok, i.attempts cr pb [payload] envs = [(payload, ok)] := by
  rw [attempts]
  rcases i.encryptAndSend cr pb payload (envs 0) with ⟨e | u, j⟩
  · exact ⟨false, rfl⟩
  · exact ⟨true, rfl⟩

/-- When every send returned `Ok`, every payload was sent. -/
theorem attempts_of_all {i : BleInterface SK} {payloads : List EncryptedData}
    {envs : ℕ → SendEnv} (h : (i.attempts cr pb payloads envs).all Prod.snd = true) :
    i.attempts cr pb payloads envs = payloads.map fun payload => (payload, true) := by
  induction payloads generalizing i envs with
  | nil => rfl
  | cons payload payloads ih =>
    rw [attempts] at h ⊢
    rcases hsend : i.encryptAndSend cr pb payload (envs 0) with ⟨e | u, j⟩
    · simp [hsend] at h
    · simp only [hsend, List.all_cons, Bool.true_and] at h
      simp only [List.map_cons, ih h]

/-- A send that returned `Ok` has written its payload under the active key. -/
theorem encryptAndSend_sent (hcr : cr.Lawful) {i : BleInterface SK} (payload : EncryptedData)
    (env : SendEnv) (h : (i.encryptAndSend cr pb payload env).1 = .ok ()) :
    ∃ key value, i.ecdh.activeKey = some key ∧ IsDataPacket cr pb key payload value ∧
      i.encryptAndSend cr pb payload env = (.ok (), i.wrote [value]) := by
  cases hkey : i.ecdh.activeKey with
  | none =>
    rw [encryptAndSend_keyless hkey] at h
    cases h
  | some key =>
    cases henc : cr.aesGcmEncrypt key env.nonce (pb.encodeEncryptedData payload) with
    | none => simp [encryptAndSend, EcdhContext.encryptBytes, hkey, henc] at h
    | some ciphertext =>
      have hlen := hcr.aesGcmEncrypt_length _ _ _ _ henc
      obtain ⟨hiv, htag, hparts⟩ :=
        dataPacketOf_append env.nonce (show 16 ≤ ciphertext.length by omega)
      have hsend : i.encryptAndSend cr pb payload env =
          ((i.ble.writePacket (pb.encodeDataPacket
              (dataPacketOf (env.nonce.toList ++ ciphertext))) env.write).1,
            { i with ble := (i.ble.writePacket (pb.encodeDataPacket
              (dataPacketOf (env.nonce.toList ++ ciphertext))) env.write).2 }) := by
        simp only [encryptAndSend, EcdhContext.encryptBytes, hkey, henc,
          BleManager.bleSendEncrypted]
      rw [hsend] at h ⊢
      -- a write that returned `Ok` had both the cached and the connected peripheral
      cases hcached : i.ble.cachedPeripheral with
      | none => simp [BleManager.writePacket, hcached] at h
      | some cached =>
        cases hconnected : i.ble.connectedPeripherial with
        | none => simp [BleManager.writePacket, hcached, hconnected] at h
        | some p =>
          simp only [BleManager.writePacket, hcached, hconnected] at h ⊢
          exact ⟨key, _, rfl, ⟨_, env.nonce, rfl, rfl, hiv, htag, by rw [hparts, henc]⟩,
            by rw [h]; simp [wrote, hcached, hconnected]⟩

/-- A send writes one value at most. -/
theorem encryptAndSend_wrote (cr : Crates SK PK) (pb : Prost) {i : BleInterface SK}
    (hlinked : i.Linked) (payload : EncryptedData) (env : SendEnv) :
    ∃ values, (i.encryptAndSend cr pb payload env).2 = i.wrote values ∧ values.length ≤ 1 := by
  unfold encryptAndSend
  cases i.ecdh.encryptBytes cr (pb.encodeEncryptedData payload) env.nonce with
  | error e => exact ⟨[], (wrote_nil i).symm, Nat.zero_le _⟩
  | ok encrypted =>
    obtain ⟨r, hwrite, -⟩ := writePacket_eq hlinked
      (pb.encodeDataPacket (dataPacketOf encrypted)) env.write
    refine ⟨i.attempted (pb.encodeDataPacket (dataPacketOf encrypted)), ?_, attempted_length ..⟩
    simp only [BleManager.bleSendEncrypted, hwrite]
    rfl

/-- Sending payloads one after the other: those whose send returned `Ok` are written in order,
each as one value under the active key; the first that fails ends the sending and writes one value
at most. -/
theorem sendPayloads_sent (hcr : cr.Lawful) (pb : Prost) {i : BleInterface SK} (hlinked : i.Linked)
    (payloads : List EncryptedData) (envs : ℕ → SendEnv) :
    ∃ values last, (i.sendPayloads cr pb payloads envs).2 = i.wrote (values ++ last) ∧
      last.length ≤ 1 ∧
      List.Forall₂ (fun payload value => ∃ key, i.ecdh.activeKey = some key ∧
        IsDataPacket cr pb key payload value)
        (((i.attempts cr pb payloads envs).filter Prod.snd).map Prod.fst) values := by
  induction payloads generalizing i envs with
  | nil => exact ⟨[], [], by rw [sendPayloads, List.nil_append, wrote_nil], by simp, .nil⟩
  | cons payload payloads ih =>
    rcases hsend : i.encryptAndSend cr pb payload (envs 0) with ⟨e | u, j⟩
    -- the first send that fails is the last
    · obtain ⟨last, hwrote, hlast⟩ :=
        encryptAndSend_wrote cr pb hlinked payload (envs 0)
      rw [hsend] at hwrote
      refine ⟨[], last, ?_, hlast, ?_⟩
      · simpa only [sendPayloads, hsend, List.nil_append] using hwrote
      · simp [attempts, hsend]
    · obtain ⟨key, value, hkey, hvalue, hsent⟩ :=
        encryptAndSend_sent hcr payload (envs 0) (by rw [hsend])
      rw [hsent, Prod.mk.injEq] at hsend
      obtain ⟨-, rfl⟩ := hsend
      obtain ⟨values, last, hrest, hlast, hforall⟩ :=
        ih (hlinked.wrote [value]) fun n => envs (n + 1)
      refine ⟨value :: values, last, ?_, hlast, ?_⟩
      · simp only [sendPayloads, hsent, hrest, wrote_wrote]
        rfl
      · simp only [attempts, hsent, List.filter_cons_of_pos, List.map_cons]
        exact .cons ⟨key, hkey, hvalue⟩ hforall

/-- One payload is sent by `encrypt_and_send` alone. -/
theorem sendPayloads_singleton (i : BleInterface SK) (payload : EncryptedData)
    (envs : ℕ → SendEnv) :
    i.sendPayloads cr pb [payload] envs = i.encryptAndSend cr pb payload (envs 0) := by
  rw [sendPayloads]
  rcases i.encryptAndSend cr pb payload (envs 0) with ⟨e | u, j⟩ <;> rfl

end BleInterface

namespace BleTask

open BleInterface

variable {SK PK : Type} {cr : Crates SK PK} {pb : Prost}

/-- The payloads a step hands to `encrypt_and_send`, and whether the send returned `Ok`. -/
def attempts (cr : Crates SK PK) (pb : Prost) (s : BleTask SK) :
    BleAction SK → List (EncryptedData × Bool)
  | .recvCommand env =>
    match s.phase, s.commands with
    | .idle, cmd :: _ | .running _, cmd :: _ =>
      s.iface.attempts cr pb (commandPayloads cmd) fun _ => env.send
    | _, _ => []
  | .recvInput envs =>
    match s.phase, s.inputs with
    | .running _, event :: _ => s.iface.attempts cr pb (inputPayloads event) envs
    | _, _ => []
  | _ => []

/-- What one call of `attempts` leaves written. -/
def WritesSent (cr : Crates SK PK) (pb : Prost) (i j : BleInterface SK)
    (attempted : List (EncryptedData × Bool)) : Prop :=
  ∃ values last, j.ble.written = i.ble.written ++ (values ++ last) ∧ last.length ≤ 1 ∧
    List.Forall₂ (fun payload value => ∃ key, i.ecdh.activeKey = some key ∧
      IsDataPacket cr pb key payload value)
      ((attempted.filter Prod.snd).map Prod.fst) values

/-- Nothing is attempted and one value is written at most: our public key. -/
theorem writesSent_nil {i j : BleInterface SK} (last : List Bytes)
    (hwritten : j.ble.written = i.ble.written ++ last) (hlast : last.length ≤ 1) :
    WritesSent cr pb i j [] :=
  ⟨[], last, hwritten, hlast, .nil⟩

theorem writesSent_same {i j : BleInterface SK} (hwritten : j.ble.written = i.ble.written) :
    WritesSent cr pb i j [] :=
  writesSent_nil [] (by rw [hwritten, List.append_nil]) (Nat.zero_le _)

theorem writesSent_sendPayloads (hcr : cr.Lawful) {i : BleInterface SK} (hlinked : i.Linked)
    (payloads : List EncryptedData) (envs : ℕ → SendEnv) :
    WritesSent cr pb i (i.sendPayloads cr pb payloads envs).2
      (i.attempts cr pb payloads envs) := by
  obtain ⟨values, last, hsend, hlast, hvalues⟩ :=
    sendPayloads_sent hcr pb hlinked payloads envs
  exact ⟨values, last, by rw [hsend, wrote_written], hlast, hvalues⟩

/-- Every step writes the payloads whose send returned `Ok`, in order and under the active key,
and one more value at most: that of a failed send, or our public key. -/
theorem writesSent_step (hcr : cr.Lawful) {s t : BleTask SK} {a : BleAction SK}
    (hwf : WellFormed s.phase s.iface) (hm : Moves cr pb s a t) :
    WritesSent cr pb s.iface t.iface (attempts cr pb s a) := by
  have hone : ∀ payload env, WritesSent cr pb s.iface
      (s.iface.encryptAndSend cr pb payload env).2
      (s.iface.attempts cr pb [payload] fun _ => env) := fun payload env => by
    rw [← sendPayloads_singleton s.iface payload fun _ => env]
    exact writesSent_sendPayloads hcr hwf.linked [payload] fun _ => env
  cases hm with
  | putInput | putCommand | notify | notifyLost | endStream | publish | publishNone | subscribe
  | subscribeFails | openStream | openStreamFails => exact writesSent_same rfl
  | @idleCommand env cmd rest hphase hcmd =>
    have hidle := idleStep_keeps cr pb hwf hphase cmd rest env
    have hattempts : attempts cr pb s (.recvCommand env) =
        s.iface.attempts cr pb (commandPayloads cmd) fun _ => env.send := by
      simp only [attempts, hphase, hcmd]
    rw [hattempts]
    cases cmd with
    | sendKeyboardInput text | sendMouseJiggle enable =>
      rw [idleCommand, after_iface]
      exact hone _ env.send
    | _ => exact writesSent_same hidle.keys.written
  | @command env deviceId cmd rest hphase hcmd =>
    simp only [attempts, hphase, hcmd, after_iface]
    cases cmd with
    | sendKeyboardInput text | sendMouseJiggle enable =>
      rw [handleCommand, reported_snd]
      exact hone _ env.send
    | pairDevice device pubKey =>
      rcases handlePairDevice_cases hcr pb hwf.linked deviceId pubKey env.pair with
          ⟨-, hpair⟩ | ⟨bytes, r, ecdh, -, -, -, hpair⟩
      · rw [handleCommand, hpair]
        exact writesSent_same rfl
      · rw [handleCommand, hpair]
        cases r with
        | error e => exact writesSent_same rfl
        | ok ourKey => exact writesSent_nil _ rfl (attempted_length ..)
    | _ => exact writesSent_same rfl
  -- our public key is no payload of `encrypt_and_send`
  | @greet write device hphase =>
    obtain ⟨values, hgreet, hlast, -⟩ := greet_spec cr pb hwf.linked write
    rw [after_iface, hgreet]
    exact writesSent_nil _ rfl hlast
  | @recvInput envs deviceId event rest hphase hevent =>
    simp only [attempts, hphase, hevent, after_iface, handleInputEvent, reported_snd]
    exact writesSent_sendPayloads hcr hwf.linked _ envs
  | @recvNotification deviceId n rest hphase hn =>
    have hble := (s.iface.handleNotification_keeps cr pb deviceId n).1
    exact writesSent_same (by rw [after_iface, hble])

/-! ## Keyboard packets -/

/-- The number of characters `create_keyboard_stream` cuts a text into packets of. -/
def keyboardChunk : ℕ := 100

/-- A keyboard packet has at most as many characters as a chunk. -/
def withinChunk (payload : EncryptedData) : Bool :=
  match payload.packetData with
  | some (.keyboardPacket _ message) => message.length ≤ keyboardChunk
  | _ => true

/-- The text of a command that is sent in one packet. -/
def commandText : AppCommand → Option String
  | .sendKeyboardInput text => some text
  | _ => none

/-- The name of a key event, which is sent in one packet. -/
def keyText : InputEvent → Option String
  | .rdevEvent { eventType := .keyPress _, name, .. }
  | .rdevEvent { eventType := .keyRelease _, name, .. } => name
  | _ => none

/-- The text a step sends in one packet. -/
def typedAtOnce (s : BleTask SK) : BleAction SK → Option String
  | .recvCommand _ =>
    match s.phase, s.commands with
    | .idle, cmd :: _ | .running _, cmd :: _ => commandText cmd
    | _, _ => none
  | .recvInput _ =>
    match s.phase, s.inputs with
    | .running _, event :: _ => keyText event
    | _, _ => none
  | _ => none

/-- The condition on a step: it sends no longer text in one packet. -/
def TypesShort (s : BleTask SK) (a : BleAction SK) : Prop :=
  ∀ text, typedAtOnce s a = some text → text.length ≤ keyboardChunk

instance (s : BleTask SK) (a : BleAction SK) : Decidable (TypesShort s a) :=
  match h : typedAtOnce s a with
  | none => isTrue (by simp [TypesShort, h])
  | some text => decidable_of_iff (text.length ≤ keyboardChunk) (by simp [TypesShort, h])

/-- No chunk is longer than the size asked for. -/
theorem length_le_of_mem_chunks {α : Type} {size fuel : ℕ} {xs chunk : List α}
    (h : chunk ∈ chunks size fuel xs) : chunk.length ≤ size := by
  induction fuel generalizing xs with
  | zero => cases h
  | succ fuel ih =>
    cases xs with
    | nil => cases h
    | cons x xs =>
      rcases List.mem_cons.mp h with rfl | h
      · exact List.length_take_le _ _
      · exact ih h

/-- Clipboard text is sent in packets within a chunk. -/
theorem withinChunk_of_stream {text : String} {payload : EncryptedData}
    (h : payload ∈ createKeyboardStream text) : withinChunk payload = true := by
  obtain ⟨chunk, hchunk, rfl⟩ := List.mem_map.mp h
  simpa [withinChunk, createKeyboardPacket, keyboardChunk] using length_le_of_mem_chunks hchunk

@[simp]
theorem withinChunk_keyboardPacket (text : String) :
    withinChunk (createKeyboardPacket text) = decide (text.length ≤ keyboardChunk) := rfl

@[simp]
theorem withinChunk_mousePacket (x y : ℚ) (left right : Bool) (scroll : ℤ) :
    withinChunk (createMousePacket x y left right scroll) = true := rfl

/-- What is sent for an input event is within a chunk, if the name of a key event is. -/
theorem withinChunk_of_input {event : InputEvent} {payload : EncryptedData}
    (hshort : ∀ text, keyText event = some text → text.length ≤ keyboardChunk)
    (h : payload ∈ inputPayloads event) : withinChunk payload = true := by
  cases event with
  | clipboard text => exact withinChunk_of_stream h
  | keycode codes => rw [List.mem_singleton.mp h]; rfl
  | consumerControl code => rw [List.mem_singleton.mp h]; rfl
  | rdevEvent event =>
    obtain ⟨time, name, eventType⟩ := event
    cases eventType with
    | keyPress key | keyRelease key =>
      cases name with
      | none => cases h
      | some text =>
        rw [List.mem_singleton.mp h]
        simpa using hshort text rfl
    | mouseMove x y => rw [List.mem_singleton.mp h]; rfl
    | buttonPress button => rw [List.mem_singleton.mp h]; rfl
    | buttonRelease button => rw [List.mem_singleton.mp h]; rfl
    | wheel deltaX deltaY => rw [List.mem_singleton.mp h]; rfl

/-- The name of a key event is sent as it is. -/
theorem inputPayloads_of_keyText {event : InputEvent} {text : String}
    (h : keyText event = some text) : inputPayloads event = [createKeyboardPacket text] := by
  unfold keyText at h
  split at h
  · simp only [inputPayloads, h]
  · simp only [inputPayloads, h]
  · cases h

/-- What is sent for a command is within a chunk, if its text is. -/
theorem withinChunk_of_command {cmd : AppCommand} {payload : EncryptedData}
    (hshort : ∀ text, commandText cmd = some text → text.length ≤ keyboardChunk)
    (h : payload ∈ commandPayloads cmd) : withinChunk payload = true := by
  cases cmd with
  | sendKeyboardInput text =>
    rw [List.mem_singleton.mp h]
    simpa using hshort text rfl
  | sendMouseJiggle enable => rw [List.mem_singleton.mp h]; rfl
  | _ => cases h

/-- The text of a command is sent as it is. -/
theorem commandPayloads_of_commandText {cmd : AppCommand} {text : String}
    (h : commandText cmd = some text) : commandPayloads cmd = [createKeyboardPacket text] := by
  cases cmd <;> cases h
  rfl

/-- A step that sends no longer text in one packet makes no longer packet. -/
theorem withinChunk_of_attempts {s : BleTask SK} {a : BleAction SK} (hshort : TypesShort s a)
    {x : EncryptedData × Bool} (hx : x ∈ attempts cr pb s a) : withinChunk x.1 = true := by
  cases a with
  | recvCommand env =>
    simp only [attempts] at hx
    split at hx
    next hphase hcmd =>
      exact withinChunk_of_command
        (fun text htext => hshort text (by simp only [typedAtOnce, hphase, hcmd, htext]))
        (BleInterface.mem_of_mem_attempts hx)
    next hphase hcmd =>
      exact withinChunk_of_command
        (fun text htext => hshort text (by simp only [typedAtOnce, hphase, hcmd, htext]))
        (BleInterface.mem_of_mem_attempts hx)
    next => cases hx
  | recvInput envs =>
    simp only [attempts] at hx
    split at hx
    next hphase hevent =>
      exact withinChunk_of_input
        (fun text htext => hshort text (by simp only [typedAtOnce, hphase, hevent, htext]))
        (BleInterface.mem_of_mem_attempts hx)
    next => cases hx
  | _ => cases hx

/-- A longer text goes out as a longer packet. -/
theorem exists_long_of_not_typesShort (cr : Crates SK PK) (pb : Prost) {s : BleTask SK}
    {a : BleAction SK} (h : ¬ TypesShort s a) :
    ∃ x ∈ attempts cr pb s a, withinChunk x.1 = false := by
  simp only [TypesShort, not_forall] at h
  obtain ⟨text, htext, hlong⟩ := h
  -- the packet is the first that is attempted, whether or not it can be sent
  have hfirst : ∀ envs, ∃ x ∈ s.iface.attempts cr pb [createKeyboardPacket text] envs,
      withinChunk x.1 = false := by
    intro envs
    obtain ⟨ok, hattempts⟩ :=
      attempts_singleton cr pb s.iface (createKeyboardPacket text) envs
    exact ⟨_, by rw [hattempts]; exact List.mem_singleton_self _, by simpa using hlong⟩
  cases a with
  | recvCommand env =>
    simp only [typedAtOnce] at htext
    split at htext
    next hphase hcmd =>
      simp only [attempts, hphase, hcmd, commandPayloads_of_commandText htext]
      exact hfirst _
    next hphase hcmd =>
      simp only [attempts, hphase, hcmd, commandPayloads_of_commandText htext]
      exact hfirst _
    next => cases htext
  | recvInput envs =>
    simp only [typedAtOnce] at htext
    split at htext
    next hphase hevent =>
      simp only [attempts, hphase, hevent, inputPayloads_of_keyText htext]
      exact hfirst _
    next => cases htext
  | _ => cases htext

/-! ## Runs -/

/-- The task with the sends it has attempted. -/
def withAttempts (cr : Crates SK PK) (pb : Prost) :
    Transition.System (BleTask SK × List (EncryptedData × Bool)) (BleAction SK) :=
  (bleTask cr pb).withHistory [] fun attempted s a _ => attempted ++ attempts cr pb s a

/-- In every run in which no `SendKeyboardInput` text and no name of a key event is longer than 100
characters, no keyboard packet handed to `encrypt_and_send` is. The first longer text makes a
longer packet. -/
theorem keyboard_packets_bounded {p : BleTask SK × List (EncryptedData × Bool)}
    (h : (withAttempts cr pb).ReachableVia (fun p a => TypesShort p.1 a) p) :
    (∀ x ∈ p.2, withinChunk x.1 = true) ∧
    ∀ a q, (withAttempts cr pb).step p a = some q → ¬ TypesShort p.1 a →
      ∃ x ∈ q.2, withinChunk x.1 = false := by
  refine ⟨?_, fun a q hstep hlong => ?_⟩
  · refine h.invariant_withHistory (I := fun _ attempted => ∀ x ∈ attempted, withinChunk x.1 = true)
      (fun _ _ _ hx => by cases hx) fun s attempted a t hall hshort _ x hx => ?_
    rcases List.mem_append.mp hx with hx | hx
    · exact hall x hx
    · exact withinChunk_of_attempts hshort hx
  · obtain ⟨-, hq⟩ := Transition.System.withHistory_step_iff.mp hstep
    obtain ⟨x, hx, hfalse⟩ := exists_long_of_not_typesShort cr pb hlong
    exact ⟨x, by rw [hq]; exact List.mem_append_right _ hx, hfalse⟩

/-- A device is connected, paired and challenged, and then a text is sent. -/
def typeRun (text : String) : List (BleAction UInt8) :=
  Sample.connectRun ++ Sample.pairRun 3 5 ++ Sample.challengeRun [9] ++
    [.putCommand (.sendKeyboardInput text), .recvCommand (Sample.commandEnv 5)]

/-- A short text is sent, in one packet. -/
theorem keyboard_packets_bounded_sample :
    ∃ p : BleTask UInt8 × List (EncryptedData × Bool),
      p.2 = [(createKeyboardPacket "ok", true)] ∧ ∀ x ∈ p.2, withinChunk x.1 = true := by
  have hrun : ((withAttempts sampleCrates Sample.prost).replay (fun p a => TypesShort p.1 a)
      (Sample.startTask, []) (typeRun "ok")).map (fun p => p.2) =
        some [(createKeyboardPacket "ok", true)] := by decide +kernel
  obtain ⟨p, hp, hsent⟩ := Option.map_eq_some_iff.mp hrun
  exact ⟨p, hsent, (keyboard_packets_bounded (.of_replay _ (.init ⟨⟨_, rfl⟩, rfl⟩) hp)).1⟩

/-- A text of 101 characters is sent, in one packet. -/
theorem long_text_unbounded :
    ¬ ∀ p : BleTask UInt8 × List (EncryptedData × Bool),
      (withAttempts sampleCrates Sample.prost).Reachable p →
        ∀ x ∈ p.2, withinChunk x.1 = true := by
  intro hbounded
  have hrun : ((withAttempts sampleCrates Sample.prost).replay (fun _ _ => True)
      (Sample.startTask, []) (typeRun (String.ofList (List.replicate 101 'a')))).map
        (fun p => p.2.map fun x => (withinChunk x.1, x.2)) = some [(false, true)] := by
    decide +kernel
  obtain ⟨p, hp, hsent⟩ := Option.map_eq_some_iff.mp hrun
  obtain ⟨x, hx, hlong⟩ := List.map_eq_singleton_iff.mp hsent
  have hwithin := hbounded p (.of_replay _ (.init ⟨⟨_, rfl⟩, rfl⟩) hp) x
    (by rw [hx]; exact List.mem_singleton_self x)
  rw [(Prod.mk.inj hlong).1] at hwithin
  cases hwithin

end BleTask

end ToothPaste
