import Mathlib.Data.List.Induction
import ToothPaste.Ble.Shown
import ToothPaste.Service.System

/-!
# Serial data

What the device sends over its serial port is kept line by line until a client of the MCP server
reads it. `run` adds a line for each notification with serial data, and `read_serial` returns the
lines that are kept and clears them if it is asked to. Each of them holds the lock from its first
access to its last, so that a read is one step.

* `serial_delivered`: in every run, the lines that clearing reads returned, and then those that are
  kept, are the lines received, in order; a read that does not clear returns the lines received
  since the last one that did.
-/

namespace ToothPaste

/-! ## Reads -/

namespace Mcp

/-- `tool_read_serial` from `lock` to `drop`: the lines that are returned, and those that are
kept. -/
def toolReadSerial (clear : Bool) (buf : List String) : List String × List String :=
  (buf, if clear then [] else buf)

/-- The steps of the service and of the reads, of which any number of clients can have one
waiting. -/
inductive SerialAction (SK : Type) where
  | service (a : ServiceAction SK)
  /-- A read takes the lock. -/
  | readSerial (clear : Bool)

/-- One step of the service or of a read. -/
def serialStep {SK PK : Type} (cr : Crates SK PK) (pb : Prost) (s : Service SK) :
    SerialAction SK → Option (Service SK)
  | .service a => Service.step cr pb s a
  | .readSerial clear =>
    some { s with task := { s.task with iface := { s.task.iface with
      serialBuffer := (toolReadSerial clear s.task.iface.serialBuffer).2 } } }

/-- The service with the reads. -/
def serial {SK PK : Type} (cr : Crates SK PK) (pb : Prost) :
    Transition.System (Service SK) (SerialAction SK) where
  Init := (service cr pb).Init
  step := serialStep cr pb

/-- What happens to the lines. -/
inductive SerialEvent where
  | received (line : String)
  | read (clear : Bool) (lines : List String)
  deriving DecidableEq

/-- The lines that were received. -/
def receivedLines (events : List SerialEvent) : List String :=
  events.filterMap fun
    | .received line => some line
    | .read .. => none

/-- The lines that clearing reads returned. -/
def clearedLines (events : List SerialEvent) : List String :=
  events.flatMap fun
    | .read true lines => lines
    | _ => []

/-- The lines that are kept after one more event. -/
def keep (lines : List String) : SerialEvent → List String
  | .received line => lines ++ [line]
  | .read true _ => []
  | .read false _ => lines

/-- The lines that are received after the last clearing read. -/
def sinceClear (events : List SerialEvent) : List String := events.foldl keep []

/-- Every read returns the lines that are received after the last clearing read before it. -/
def ReadsKept (events : List SerialEvent) : Prop :=
  ∀ before clear lines after, events = before ++ .read clear lines :: after →
    lines = sinceClear before

theorem ReadsKept.of_append {events events' : List SerialEvent}
    (h : ReadsKept (events ++ events')) :
    ReadsKept events :=
  fun before clear lines after heq => h before clear lines (after ++ events') (by simp [heq])

theorem ReadsKept.concat {events : List SerialEvent} {event : SerialEvent} (h : ReadsKept events)
    (hevent : ∀ clear lines, event = .read clear lines → lines = sinceClear events) :
    ReadsKept (events ++ [event]) := by
  intro before clear lines after heq
  rcases List.eq_nil_or_concat after with rfl | ⟨after, last, rfl⟩
  · obtain ⟨rfl, hlast⟩ := List.append_inj' heq rfl
    exact hevent clear lines (List.singleton_inj.mp hlast)
  -- the read is one of the earlier events
  · have hsplit : events ++ [event] = (before ++ .read clear lines :: after) ++ [last] := by
      simpa using heq
    exact h before clear lines after (List.append_inj' hsplit rfl).1

/-- What clearing reads returned and what is kept is what was received. -/
theorem clearedLines_append_sinceClear {events : List SerialEvent} (h : ReadsKept events) :
    clearedLines events ++ sinceClear events = receivedLines events := by
  induction events using List.reverseRecOn with
  | nil => rfl
  | append_singleton events event ih =>
    have hbefore := ih h.of_append
    rw [clearedLines, sinceClear, receivedLines] at hbefore ⊢
    rw [List.flatMap_append, List.foldl_append, List.filterMap_append, ← hbefore]
    cases event with
    | received line => simp [keep]
    | read clear lines =>
      cases clear with
      | false => simp [keep]
      | true =>
        have hlines : lines = sinceClear events := h events true lines [] rfl
        simp [keep, hlines, sinceClear]

/-- What a step does to the lines. -/
def serialEvents {SK : Type} (pb : Prost) (s : Service SK) : SerialAction SK → List SerialEvent
  | .service (.task a) => (BleTask.receivedLine pb s.task a).toList.map .received
  | .service _ => []
  | .readSerial clear => [.read clear (toolReadSerial clear s.task.iface.serialBuffer).1]

variable {SK PK : Type} {cr : Crates SK PK} {pb : Prost}

/-- The service with what has happened to the lines. -/
def withSerial (cr : Crates SK PK) (pb : Prost) :
    Transition.System (Service SK × List SerialEvent) (SerialAction SK) :=
  (serial cr pb).withHistory [] fun events s a _ => events ++ serialEvents pb s a

/-- A step does to the buffer what it does to the lines. -/
theorem serialBuffer_serialStep {s t : Service SK} {a : SerialAction SK}
    (hst : (serial cr pb).step s a = some t) :
    t.task.iface.serialBuffer = (serialEvents pb s a).foldl keep s.task.iface.serialBuffer := by
  cases a with
  | readSerial clear =>
    obtain rfl := Option.some.inj hst
    cases clear <;> rfl
  | service a =>
    cases Service.moves_of_step hst with
    | @task a task hm =>
      rw [serialEvents, BleTask.serialBuffer_step hm]
      cases BleTask.receivedLine pb s.task a with
      | none => exact List.append_nil _
      | some line => rfl
    | handleEvent | updateState => rfl
    | trySend =>
      rw [serialEvents, BleTask.trySend_iface]
      · rfl
      · exact nofun

/-- The buffer keeps what is received after the last clearing read, and the reads return it. -/
def SerialInv (s : Service SK) (events : List SerialEvent) : Prop :=
  s.task.iface.serialBuffer = sinceClear events ∧ ReadsKept events

theorem serialInv_step {s t : Service SK} {events : List SerialEvent} {a : SerialAction SK}
    (h : SerialInv s events) (hst : (serial cr pb).step s a = some t) :
    SerialInv t (events ++ serialEvents pb s a) := by
  obtain ⟨hbuffer, hreads⟩ := h
  refine ⟨?_, ?_⟩
  · rw [serialBuffer_serialStep hst, hbuffer, sinceClear, sinceClear, List.foldl_append]
  have hnone : ReadsKept (events ++ []) := by rwa [List.append_nil]
  unfold serialEvents
  split
  · cases BleTask.receivedLine pb s.task _ with
    | none => exact hnone
    | some line => exact hreads.concat nofun
  · exact hnone
  · exact hreads.concat fun clear lines heq => by cases heq; exact hbuffer

/-- In every run, however the notifications and the reads of any clients interleave: what clearing
reads returned, in the order they took the lock, and then what is kept are the lines received, in
order; and a read that does not clear returns the lines received since the last one that did, and
changes nothing. -/
theorem serial_delivered {p : Service SK × List SerialEvent}
    (h : (withSerial cr pb).Reachable p) :
    clearedLines p.2 ++ p.1.task.iface.serialBuffer = receivedLines p.2 ∧
    (∀ before lines after, p.2 = before ++ .read false lines :: after → lines = sinceClear before) ∧
    ∀ q, (withSerial cr pb).step p (.readSerial false) = some q → q.1 = p.1 := by
  obtain ⟨hbuffer, hreads⟩ : SerialInv p.1 p.2 := by
    refine h.invariant_withHistory (I := SerialInv) ?_ fun s events a t hs _ hst =>
      serialInv_step hs hst
    rintro _ ⟨storage, now, rfl⟩
    exact ⟨rfl, fun before _ _ _ heq => by simp at heq⟩
  refine ⟨?_, fun before lines after => hreads before false lines after, fun q hq => ?_⟩
  · rw [hbuffer]
    exact clearedLines_append_sinceClear hreads
  · obtain ⟨hst, -⟩ := Transition.System.withHistory_step_iff.mp hq
    exact (Option.some.inj hst).symm

/-- The sample encoders, with responses that carry their text. -/
def serialProst : Prost where
  encodeDataPacket := Sample.prost.encodeDataPacket
  encodeEncryptedData := Sample.prost.encodeEncryptedData
  decodeResponsePacket
    | [] => .error "buffer underflow"
    | type :: text =>
      .ok ⟨type.toNat, [], "1.0.0", String.ofList (text.map fun c => Char.ofNat c.toNat)⟩
  responseType := Sample.prost.responseType

/-- A line is emitted and handled. -/
def lineRun (line : Bytes) : List (SerialAction UInt8) :=
  [.service (.task (.notify (Sample.notification 4 line))), .service (.task .recvNotification)]

/-- A device is connected; lines arrive and are read, first without clearing and then with it. -/
def readRun : List (SerialAction UInt8) :=
  Sample.connectRun.map (fun a => .service (.task a)) ++ lineRun [0x61] ++ [.readSerial false] ++
    lineRun [0x62] ++ [.readSerial true] ++ lineRun [] ++ lineRun [0x63]

/-- Two lines were returned by the clearing read, and the third one is kept. -/
theorem serial_delivered_sample : ∃ p : Service UInt8 × List SerialEvent,
    p.2 = [.received "a", .read false ["a"], .received "b", .read true ["a", "b"],
      .received "c"] ∧
    clearedLines p.2 ++ p.1.task.iface.serialBuffer = receivedLines p.2 := by
  have hrun : ((withSerial sampleCrates serialProst).replay (fun _ _ => True)
      (Sample.startService, []) readRun).map Prod.snd =
      some [.received "a", .read false ["a"], .received "b", .read true ["a", "b"],
        .received "c"] := by
    decide +kernel
  obtain ⟨p, hp, hevents⟩ := Option.map_eq_some_iff.mp hrun
  exact ⟨p, hevents, (serial_delivered (.of_replay readRun (.init ⟨⟨_, 0, rfl⟩, rfl⟩) hp)).1⟩

end Mcp

end ToothPaste
