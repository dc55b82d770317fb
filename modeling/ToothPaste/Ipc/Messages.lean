import ToothPaste.Core
import ToothPaste.Lib.Ascii

/-!
# The wire protocol between service and client

`IpcMessage` of `toothpaste-desktop-core`, each message one line of JSON. `serde_json` is a
parameter, `IpcCodec`.

* `readLine_utf8`: a line that was written is read as the message it was written for.
-/

namespace ToothPaste

namespace Ipc

/-- `IpcMessage`. -/
inductive IpcMessage where
  | state (state : AppState)
  | command (cmd : AppCommand)
  deriving DecidableEq

/-- `serde_json` on messages. -/
structure IpcCodec where
  /-- `to_string`, which cannot fail on these types. -/
  toJson : IpcMessage → String
  /-- `from_str`. -/
  fromJson : String → Except String IpcMessage

/-- What the documentation of `serde_json` promises. -/
structure IpcCodec.Lawful (codec : IpcCodec) : Prop where
  /-- Compact texts have no white space, and control characters are escaped in strings. -/
  printable : ∀ message, ∀ c ∈ (codec.toJson message).toList, 0x20 ≤ c.toNat
  /-- A text decodes to the message it encodes. -/
  fromJson_toJson : ∀ message, codec.fromJson (codec.toJson message) = .ok message

/-- `'\n'`. -/
def newline : UInt8 := 0x0A

/-- The bytes of a line without its `'\n'`, as `next_line` returns it: a `'\r'` before the `'\n'` is
dropped as well. -/
def lineBytes (line : Bytes) : Bytes :=
  if line.getLast? = some 0x0D then line.dropLast else line

/-- `next_line` and `from_str`: none where the line is not UTF-8. -/
def IpcCodec.readLine (codec : IpcCodec) (line : Bytes) : Option (Except String IpcMessage) :=
  (String.fromUTF8? ⟨(lineBytes line).toArray⟩).map codec.fromJson

theorem fromUTF8?_utf8 (s : String) : String.fromUTF8? ⟨(utf8 s).toArray⟩ = some s := by
  have hbytes : (⟨(utf8 s).toArray⟩ : ByteArray) = s.toUTF8 := by
    rw [utf8, Array.toArray_toList]
  rw [hbytes]
  simp only [String.fromUTF8?, String.toUTF8_eq_toByteArray, dif_pos s.isValidUTF8]
  rfl

variable {codec : IpcCodec}

/-- No control character is a byte of a text. -/
theorem not_mem_utf8_toJson (hcodec : codec.Lawful) (message : IpcMessage) {b : UInt8}
    (hb : b.toNat < 0x20) : b ∉ utf8 (codec.toJson message) := by
  intro hmem
  obtain ⟨c, hc, hbyte⟩ := Ascii.exists_mem_of_mem_toUTF8 (hb.trans (by decide)) hmem
  have hprintable := hcodec.printable message c hc
  omega

/-- A line that was written is read as the message it was written for. -/
theorem readLine_utf8 (hcodec : codec.Lawful) (message : IpcMessage) :
    codec.readLine (utf8 (codec.toJson message)) = some (.ok message) := by
  have hlast : (utf8 (codec.toJson message)).getLast? ≠ some 0x0D := fun hlast =>
    not_mem_utf8_toJson hcodec message (by decide) (List.mem_of_getLast? hlast)
  rw [IpcCodec.readLine, lineBytes, if_neg hlast, fromUTF8?_utf8, Option.map_some,
    hcodec.fromJson_toJson]

end Ipc

end ToothPaste
