import ToothPaste.Ipc.Messages
import Mathlib.Logic.Equiv.List
import Mathlib.Tactic.DeriveEncodable

/-!
# A concrete message codec

A codec to evaluate closed runs of the link with. On the messages of these runs it writes what
`serde_json` writes. The others are numbered, and the text of the `n`-th is the letter `x`, `n`
times.

* `codec_lawful`: it is lawful.
-/

namespace ToothPaste

namespace Ipc

instance encodableString : Encodable String :=
  Encodable.ofLeftInverse (fun s => s.toList.map Char.toNat)
    (fun codes => String.ofList (codes.map Char.ofNat)) fun s => by simp [Function.comp_def]

deriving instance Encodable for AuthState
deriving instance Encodable for DeviceState
deriving instance Encodable for Device
deriving instance Encodable for AppState
deriving instance Encodable for AppCommand
deriving instance Encodable for IpcMessage

namespace Sample

/-- The state after key capture is switched on. -/
def capturing : AppState := { AppState.initial with enableKeyCapture := true }

/-- The text of the initial state and of `capturing`. -/
def stateText (enableKeyCapture : Bool) : String :=
  "\x7b\"type\":\"state\",\"payload\":\x7b\"app_version\":\"0.1.0\"," ++
    "\"app_string\":\"ToothPaste Desktop Service\",\"devices\":[],\"auto_connect\":null," ++
    "\"connected_device\":null,\"password_protected\":false," ++
    "\"settings_file_path\":\".\\\\toothpaste_storage.json\",\"enable_key_capture\":" ++
    toString enableKeyCapture ++
    ",\"enable_clipboard_capture\":false,\"enable_mouse_capture\":false\x7d\x7d"

/-- The messages of the closed runs, with their texts. -/
def texts : List (IpcMessage × String) :=
  [(.state AppState.initial, stateText false), (.state capturing, stateText true),
    (.command .scanForDevices, "\x7b\"type\":\"command\",\"payload\":\"ScanForDevices\"\x7d")]

/-- The text of a message by its number. -/
def numbered (message : IpcMessage) : String :=
  String.ofList (List.replicate (Encodable.encode message) 'x')

/-- The codec. -/
def codec : IpcCodec where
  toJson message := (texts.lookup message).getD (numbered message)
  fromJson text :=
    match texts.find? fun entry => entry.2 = text with
    | some (message, _) => .ok message
    | none => (Encodable.decode text.length).elim (.error "expected value") .ok

/-- The texts of the closed runs have no control characters, are read as their messages, and
are no numbers. -/
theorem texts_lawful : ∀ entry ∈ texts, (∀ b ∈ utf8 entry.2, 0x20 ≤ b.toNat) ∧
    codec.fromJson entry.2 = .ok entry.1 ∧ 0x7B ∈ utf8 entry.2 := by
  decide +kernel

theorem mem_texts {message : IpcMessage} {text : String} (h : texts.lookup message = some text) :
    (message, text) ∈ texts := by
  obtain ⟨before, after, heq, -⟩ := List.lookup_eq_some_iff.mp h
  rw [heq]
  exact List.mem_append_right _ List.mem_cons_self

/-- No text of the closed runs is a number. -/
theorem find?_numbered (message : IpcMessage) :
    (texts.find? fun entry => entry.2 = numbered message) = none := by
  rw [List.find?_eq_none]
  intro entry hentry heq
  have hbrace := (texts_lawful entry hentry).2.2
  rw [of_decide_eq_true heq] at hbrace
  obtain ⟨c, hc, hbyte⟩ := Ascii.exists_mem_of_mem_toUTF8 (by decide) hbrace
  rw [numbered, String.toList_ofList] at hc
  rw [List.eq_of_mem_replicate hc] at hbyte
  exact absurd hbyte (by decide)

theorem codec_lawful : codec.Lawful where
  printable message c hc := by
    have hc : c ∈ ((texts.lookup message).getD (numbered message)).toList := hc
    by_contra hcontrol
    cases hlookup : texts.lookup message with
    | some text =>
      rw [hlookup, Option.getD_some] at hc
      have hbyte := (texts_lawful _ (mem_texts hlookup)).1 _ (Ascii.mem_toUTF8 (by omega) hc)
      rw [UInt8.toNat_ofNat_of_lt' (by rw [UInt8.size]; omega)] at hbyte
      exact hcontrol hbyte
    | none =>
      rw [hlookup, Option.getD_none, numbered, String.toList_ofList] at hc
      rw [List.eq_of_mem_replicate hc] at hcontrol
      exact hcontrol (by decide)
  fromJson_toJson message := by
    show codec.fromJson ((texts.lookup message).getD (numbered message)) = _
    cases hlookup : texts.lookup message with
    | some text =>
      exact (texts_lawful _ (mem_texts hlookup)).2.1
    | none =>
      rw [Option.getD_none, codec]
      dsimp only
      rw [find?_numbered]
      dsimp only
      rw [numbered, String.length_ofList, List.length_replicate, Encodable.encodek]
      rfl

end Sample

end Ipc

end ToothPaste
