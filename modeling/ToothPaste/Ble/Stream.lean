import ToothPaste.Ble.Payloads
import ToothPaste.Lib.History

/-!
# Text in keyboard packets

`send_keyboard_stream` cuts a text into packets of 100 characters and sends one after the other, up
to the first that fails. Whatever the sends come to, the packets that were sent carry a prefix of
the text (`keyboard_stream_sent`), which is cut off between packets only (`StreamSent`).
-/

namespace ToothPaste

/-! ## Chunks -/

section Chunks

variable {α : Type} {size fuel : ℕ} {xs chunk : List α}

variable (size) in
/-- The first `k` chunks are what `k` times the size takes. -/
theorem flatten_take_chunks (hfuel : xs.length ≤ fuel) (k : ℕ) :
    ((chunks (size + 1) fuel xs).take k).flatten = xs.take ((size + 1) * k) := by
  induction fuel generalizing xs k with
  | zero =>
    obtain rfl := List.eq_nil_of_length_eq_zero (Nat.le_zero.mp hfuel)
    simp [chunks]
  | succ fuel ih =>
    cases xs with
    | nil => simp [chunks]
    | cons x xs =>
      cases k with
      | zero => simp
      | succ k =>
        have hrest : ((x :: xs).drop (size + 1)).length ≤ fuel := by
          simp only [List.length_drop, List.length_cons] at hfuel ⊢
          omega
        show ((((x :: xs).take (size + 1)) ::
          chunks (size + 1) fuel ((x :: xs).drop (size + 1))).take (k + 1)).flatten = _
        rw [List.take_succ_cons, List.flatten_cons, ih hrest, ← List.take_add, Nat.mul_succ,
          Nat.add_comm ((size + 1) * k)]

variable (size) in
/-- There are chunks enough for the whole list. -/
theorem flatten_chunks (hfuel : xs.length ≤ fuel) :
    (chunks (size + 1) fuel xs).flatten = xs := by
  have hall := flatten_take_chunks size hfuel
    ((chunks (size + 1) fuel xs).length + xs.length)
  rwa [List.take_of_length_le (Nat.le_add_right _ _), List.take_of_length_le] at hall
  calc xs.length ≤ (chunks (size + 1) fuel xs).length + xs.length := Nat.le_add_left _ _
    _ ≤ (size + 1) * ((chunks (size + 1) fuel xs).length + xs.length) :=
      Nat.le_mul_of_pos_left _ (Nat.succ_pos size)

/-- No chunk is empty. -/
theorem ne_nil_of_mem_chunks (h : chunk ∈ chunks (size + 1) fuel xs) : chunk ≠ [] := by
  induction fuel generalizing xs with
  | zero => cases h
  | succ fuel ih =>
    cases xs with
    | nil => cases h
    | cons x xs =>
      rcases List.mem_cons.mp h with rfl | h
      · exact List.cons_ne_nil _ _
      · exact ih h

/-- A chunk is full unless it is the one that completes the list. -/
theorem full_or_last_of_chunks (hfuel : xs.length ≤ fuel) {earlier later : List (List α)}
    (h : chunks (size + 1) fuel xs = earlier ++ chunk :: later) :
    chunk.length = size + 1 ∨ earlier.flatten ++ chunk = xs := by
  have hbefore := flatten_take_chunks size hfuel earlier.length
  have hupto := flatten_take_chunks size hfuel (earlier.length + 1)
  rw [h] at hbefore hupto
  rw [List.take_left] at hbefore
  rw [List.take_length_add_append, List.take_succ_cons, List.take_zero, List.flatten_append,
    List.flatten_singleton] at hupto
  rw [hupto]
  by_cases hlen : (size + 1) * (earlier.length + 1) ≤ xs.length
  · left
    -- both lists are cut off before the end, one chunk apart
    have hlengths := congrArg List.length hupto
    rw [List.length_append, hbefore, List.length_take, List.length_take,
      Nat.min_eq_left hlen] at hlengths
    rw [Nat.mul_succ] at hlen hlengths
    omega
  · exact .inr (List.take_of_length_le (Nat.le_of_not_le hlen))

end Chunks

/-! ## Sending one packet after the other -/

namespace BleInterface

variable {SK PK : Type} (cr : Crates SK PK) (pb : Prost)

/-- The value is the packet that `encrypt_and_send` makes of the payload. -/
def SentAs (i : BleInterface SK) (payload : EncryptedData) (value : Bytes) : Prop :=
  ∃ nonce encrypted, i.ecdh.encryptBytes cr (pb.encodeEncryptedData payload) nonce =
      .ok encrypted ∧ value = pb.encodeDataPacket (dataPacketOf encrypted)

/-- `send_keyboard_stream`. -/
def sendKeyboardStream (i : BleInterface SK) (text : String) (envs : ℕ → SendEnv) :
    Except Fault Unit × BleInterface SK :=
  sendPayloads cr pb i (createKeyboardStream text) envs

/-- The text of a clipboard event is sent by `send_keyboard_stream`. -/
theorem handleInputEvent_clipboard (i : BleInterface SK) (text : String) (envs : ℕ → SendEnv) :
    handleInputEvent cr pb i (.clipboard text) envs =
      reported (sendKeyboardStream cr pb i (sanitizeClipboard text) envs) := rfl

/-- A write adds the value, or nothing when there is no peripheral to write to. -/
theorem writePacket_writes (i : BleInterface SK) (data : Bytes) (write : Except String Unit) :
    ∃ last, { i with ble := (i.ble.writePacket data write).2 } = i.wrote last ∧
      (last = [] ∨ last = [data]) ∧
      ((i.ble.writePacket data write).1 = .ok () → last = [data]) := by
  cases hcached : i.ble.cachedPeripheral with
  | none =>
    simp only [BleManager.writePacket, hcached]
    exact ⟨[], (wrote_nil i).symm, .inl rfl, fun h => by cases h⟩
  | some cached =>
    cases hconnected : i.ble.connectedPeripherial with
    | none =>
      simp only [BleManager.writePacket, hcached, hconnected]
      exact ⟨[], (wrote_nil i).symm, .inl rfl, fun h => by cases h⟩
    | some p =>
      simp only [BleManager.writePacket, hcached, hconnected]
      exact ⟨[data], by simp [wrote, hcached, hconnected], .inr rfl, fun _ => rfl⟩

/-- A send that returned `Ok` has written its packet, and one that failed has written its packet or
nothing. -/
theorem encryptAndSend_writes (i : BleInterface SK) (payload : EncryptedData) (env : SendEnv) :
    ∃ last, (i.encryptAndSend cr pb payload env).2 = i.wrote last ∧
      (last = [] ∨ List.Forall₂ (i.SentAs cr pb) [payload] last) ∧
      ((i.encryptAndSend cr pb payload env).1 = .ok () →
        List.Forall₂ (i.SentAs cr pb) [payload] last) := by
  unfold encryptAndSend
  cases hencrypt : i.ecdh.encryptBytes cr (pb.encodeEncryptedData payload) env.nonce with
  -- nothing is sealed, so that there is nothing to write
  | error e => exact ⟨[], (wrote_nil i).symm, .inl rfl, nofun⟩
  | ok encrypted =>
    obtain ⟨last, hwrote, hlast, hok⟩ :=
      i.writePacket_writes (pb.encodeDataPacket (dataPacketOf encrypted)) env.write
    have hpacket : List.Forall₂ (i.SentAs cr pb) [payload]
        [pb.encodeDataPacket (dataPacketOf encrypted)] :=
      .cons ⟨env.nonce, encrypted, hencrypt, rfl⟩ .nil
    refine ⟨last, hwrote, hlast.imp_right ?_, ?_⟩
    · rintro rfl
      exact hpacket
    · intro h
      rw [hok h]
      exact hpacket

/-- Sending the payloads comes to this: the first `k` are sent and written in order, the next one
fails and may have been written, and nothing is sent after it. -/
structure SendsFirst (i : BleInterface SK) (payloads : List EncryptedData) (envs : ℕ → SendEnv)
    (k : ℕ) (values last : List Bytes) : Prop where
  le : k ≤ payloads.length
  result : (i.sendPayloads cr pb payloads envs).1 = .ok () ↔ k = payloads.length
  wrote : (i.sendPayloads cr pb payloads envs).2 = i.wrote (values ++ last)
  sent : List.Forall₂ (i.SentAs cr pb) (payloads.take k) values
  failed : last = [] ∨ List.Forall₂ (i.SentAs cr pb) ((payloads.drop k).take 1) last
  attempts : i.attempts cr pb payloads envs =
    (payloads.take k).map (fun payload => (payload, true)) ++
      ((payloads.drop k).take 1).map fun payload => (payload, false)

theorem sendPayloads_sendsFirst (i : BleInterface SK) (payloads : List EncryptedData)
    (envs : ℕ → SendEnv) : ∃ k values last, i.SendsFirst cr pb payloads envs k values last := by
  induction payloads generalizing i envs with
  | nil =>
    refine ⟨0, [], [], le_rfl, ?_, (wrote_nil i).symm, .nil, .inl rfl, rfl⟩
    exact iff_of_true rfl rfl
  | cons payload payloads ih =>
    obtain ⟨first, hwrote, hfirst, hok⟩ := i.encryptAndSend_writes cr pb payload (envs 0)
    rcases hsend : i.encryptAndSend cr pb payload (envs 0) with ⟨e | u, j⟩
    -- the first send fails, and the loop ends with it
    · rw [hsend] at hwrote
      refine ⟨0, [], first, Nat.zero_le _, ?_, ?_, .nil, hfirst, ?_⟩
      · simp [sendPayloads, hsend]
      · simpa only [sendPayloads, hsend, List.nil_append] using hwrote
      · simp [BleInterface.attempts, hsend]
    -- it has written its packet, and the rest is sent after it
    · obtain _ | ⟨hvalue, _ | _⟩ := hok (by rw [hsend])
      rename_i value
      rw [hsend] at hwrote
      obtain rfl : j = i.wrote [value] := hwrote
      obtain ⟨k, values, last, hrest⟩ := ih (i.wrote [value]) fun n => envs (n + 1)
      refine ⟨k + 1, value :: values, last, Nat.succ_le_succ hrest.le, ?_, ?_, ?_, ?_, ?_⟩
      · simpa [sendPayloads, hsend] using hrest.result
      · simp only [sendPayloads, hsend, hrest.wrote, wrote_wrote]
        rfl
      · exact .cons hvalue hrest.sent
      · exact hrest.failed
      · simp [BleInterface.attempts, hsend, hrest.attempts]

end BleInterface

/-! ## Text -/

/-- The texts of the packets that were sent of `text`: they are a prefix of it, cut off at a
multiple of 100 characters or at its end, and each is full unless it completes the text. -/
structure StreamSent (text : String) (messages : List String) : Prop where
  isPrefix : ∃ n ≤ text.length, (n % 100 = 0 ∨ n = text.length) ∧
    messages.flatMap String.toList = text.toList.take n
  packet : ∀ message ∈ messages, message ≠ "" ∧ message.length ≤ 100 ∧
    (createKeyboardPacket message).packetData =
      some (.keyboardPacket message.length message)
  full : History.Each (fun earlier message => message.length = 100 ∨
    (earlier ++ [message]).flatMap String.toList = text.toList) messages

/-- The texts that `create_keyboard_stream` cuts a text into. -/
def streamTexts (text : String) : List String :=
  (chunks 100 text.toList.length text.toList).map String.ofList

theorem createKeyboardStream_eq (text : String) :
    createKeyboardStream text = (streamTexts text).map createKeyboardPacket := by
  rw [createKeyboardStream, streamTexts, List.map_map]
  rfl

theorem flatMap_toList_map_ofList (chunks : List (List Char)) :
    (chunks.map String.ofList).flatMap String.toList = chunks.flatten := by
  rw [List.flatMap_map, List.flatten_eq_flatMap]
  simp only [String.toList_ofList]
  rfl

theorem flatMap_take_streamTexts (text : String) (k : ℕ) :
    ((streamTexts text).take k).flatMap String.toList = text.toList.take (100 * k) := by
  rw [streamTexts, ← List.map_take, flatMap_toList_map_ofList]
  exact flatten_take_chunks 99 le_rfl k

/-- Every text of the stream is carried with its own length. -/
theorem packet_of_mem_streamTexts {text message : String} (h : message ∈ streamTexts text) :
    message ≠ "" ∧ message.length ≤ 100 ∧ (createKeyboardPacket message).packetData =
      some (.keyboardPacket message.length message) := by
  obtain ⟨chunk, hchunk, rfl⟩ := List.mem_map.mp h
  have hlen : (String.ofList chunk).length ≤ 100 := by
    rw [String.length_ofList]
    exact BleTask.length_le_of_mem_chunks hchunk
  refine ⟨fun hempty => ne_nil_of_mem_chunks hchunk ?_, hlen, ?_⟩
  · simpa using congrArg String.toList hempty
  -- the length fits into its field
  · have hfits : asU32 (String.ofList chunk).length = (String.ofList chunk).length :=
      Nat.mod_eq_of_lt (lt_of_le_of_lt hlen (by decide))
    rw [createKeyboardPacket, hfits]

/-- The first `k` texts of the stream. -/
theorem streamSent_take (text : String) (k : ℕ) : StreamSent text ((streamTexts text).take k) where
  isPrefix := by
    refine ⟨min (100 * k) text.length, Nat.min_le_right _ _, ?_, ?_⟩
    · rcases Nat.le_total (100 * k) text.length with hle | hle
      · rw [Nat.min_eq_left hle]
        exact .inl (Nat.mul_mod_right 100 k)
      · exact .inr (Nat.min_eq_right hle)
    · rw [flatMap_take_streamTexts, ← String.length_toList, ← List.take_take, List.take_length]
  packet message hmem := packet_of_mem_streamTexts (List.mem_of_mem_take hmem)
  full := by
    intro earlier message later heq
    have hall := (List.take_append_drop k (streamTexts text)).symm
    rw [heq, List.append_assoc, List.cons_append, streamTexts] at hall
    obtain ⟨before, rest, hchunks, rfl, hrest⟩ := List.map_eq_append_iff.mp hall
    obtain ⟨chunk, after, rfl, rfl, -⟩ := List.map_eq_cons_iff.mp hrest
    rw [String.length_ofList, List.flatMap_append, flatMap_toList_map_ofList]
    simpa using full_or_last_of_chunks le_rfl hchunks

/-- The texts sent are the whole text exactly when they are all texts of the stream. -/
theorem flatMap_take_eq_iff (text : String) {k : ℕ} (hk : k ≤ (streamTexts text).length) :
    ((streamTexts text).take k).flatMap String.toList = text.toList ↔
      k = (streamTexts text).length := by
  constructor
  · intro hwhole
    by_contra hne
    -- the next text is not empty, and is part of the text as well
    have hlt : k < (streamTexts text).length := lt_of_le_of_ne hk hne
    have hnext := flatMap_take_streamTexts text (k + 1)
    rw [List.take_succ_eq_append_getElem hlt, List.flatMap_append, hwhole,
      List.flatMap_singleton] at hnext
    have hlen := congrArg List.length hnext
    rw [List.length_append, List.length_take] at hlen
    refine (packet_of_mem_streamTexts (List.getElem_mem hlt)).1 (String.toList_eq_nil_iff.mp ?_)
    exact List.eq_nil_of_length_eq_zero (by omega)
  · rintro rfl
    rw [List.take_length, streamTexts, flatMap_toList_map_ofList]
    exact flatten_chunks 99 le_rfl

namespace BleInterface

variable {SK PK : Type} (cr : Crates SK PK) (pb : Prost)

/-- For every text and every outcome of the sends: the packets that were sent carry a prefix of the
text, cut off between packets only; the call returns `Ok` exactly when they carry the whole text;
nothing is sent after the first send that fails; and what is written are these packets in order,
with the packet of the failed send after them at most. -/
theorem keyboard_stream_sent (i : BleInterface SK) (text : String) (envs : ℕ → SendEnv) :
    ∃ (messages failed : List String) (values last : List Bytes),
      StreamSent text messages ∧
      i.attempts cr pb (createKeyboardStream text) envs =
        messages.map (fun message => (createKeyboardPacket message, true)) ++
        failed.map (fun message => (createKeyboardPacket message, false)) ∧
      failed.length ≤ 1 ∧
      ((i.sendKeyboardStream cr pb text envs).1 = .ok () ↔
        messages.flatMap String.toList = text.toList) ∧
      (i.sendKeyboardStream cr pb text envs).2 = i.wrote (values ++ last) ∧
      List.Forall₂ (i.SentAs cr pb) (messages.map createKeyboardPacket) values ∧
      (last = [] ∨ List.Forall₂ (i.SentAs cr pb) (failed.map createKeyboardPacket) last) := by
  obtain ⟨k, values, last, hsends⟩ :=
    i.sendPayloads_sendsFirst cr pb (createKeyboardStream text) envs
  rw [createKeyboardStream_eq] at hsends ⊢
  obtain ⟨hle, hresult, hwrote, hsent, hfailed, hattempts⟩ := hsends
  rw [List.length_map] at hle hresult
  refine ⟨(streamTexts text).take k, ((streamTexts text).drop k).take 1, values, last,
    streamSent_take text k, ?_, List.length_take_le _ _, ?_, ?_, ?_, ?_⟩
  · rw [hattempts, ← List.map_take, ← List.map_drop, ← List.map_take, List.map_map, List.map_map]
    rfl
  · rw [flatMap_take_eq_iff text hle, ← hresult, sendKeyboardStream, createKeyboardStream_eq]
  · rw [sendKeyboardStream, createKeyboardStream_eq, hwrote]
  · rwa [List.map_take]
  · rwa [← List.map_drop, ← List.map_take] at hfailed

end BleInterface

end ToothPaste
