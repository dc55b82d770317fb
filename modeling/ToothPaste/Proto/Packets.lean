import Mathlib.Data.Rat.Floor
import ToothPaste.Core

/-!
# Packets

The protobuf messages of the wire and the functions of `toothpaste-desktop-proto/src/packets.rs`
that build them. The message types are generated from a `.proto` file that is not part of the
repository; their fields are the ones the service sets and reads, and the generated encoders and
decoder are the functions of `Prost`. An enumeration is kept as such where the service only ever
writes it.
-/

namespace ToothPaste

/-- `data_packet::PacketId`. -/
inductive PacketId where
  | dataPacket
  | authPacket
  deriving DecidableEq, Repr

/-- `DataPacket`: what is written to the packet characteristic. -/
structure DataPacket where
  packetId : PacketId
  packetNumber : ℕ
  totalPackets : ℕ
  slowMode : Bool
  iv : Bytes
  dataLen : ℕ
  encryptedData : Bytes
  tag : Bytes
  deriving DecidableEq

/-- `Frame`. -/
structure Frame where
  x : ℤ
  y : ℤ
  deriving DecidableEq

/-- `MousePacket`. -/
structure MousePacket where
  numFrames : ℕ
  frames : List Frame
  lClick : ℤ
  rClick : ℤ
  wheel : ℤ
  deriving DecidableEq

/-- `encrypted_data::PacketType`. -/
inductive PacketType where
  | mouse
  | keyboardString
  | keyboardKeycode
  | rename
  | consumerControl
  | composite
  deriving DecidableEq, Repr

/-- `encrypted_data::PacketData`. -/
inductive PacketData where
  | mousePacket (packet : MousePacket)
  | keyboardPacket (length : ℕ) (message : String)
  | keycodePacket (length : ℕ) (code : Bytes)
  | renamePacket (length : ℕ) (message : String)
  | consumerControlPacket (code : List UInt32) (length : ℕ)
  | mouseJigglePacket (enable : Bool)
  deriving DecidableEq

/-- `EncryptedData`: the payload that is encrypted before it is sent. -/
structure EncryptedData where
  packetType : PacketType
  packetData : Option PacketData
  deriving DecidableEq

/-- `response_packet::ResponseType`. -/
inductive ResponseType where
  | keepalive
  | peerUnknown
  | peerKnown
  | challenge
  | serialData
  deriving DecidableEq, Repr

/-- `ResponsePacket`: what a notification carries. -/
structure ResponsePacket where
  responseType : ℤ
  challengeData : Bytes
  firmwareVersion : String
  serialData : String
  deriving DecidableEq

/-- The code `prost` generates for the messages. -/
structure Prost where
  /-- `DataPacket::encode_to_vec`. -/
  encodeDataPacket : DataPacket → Bytes
  /-- `EncryptedData::encode_to_vec`. -/
  encodeEncryptedData : EncryptedData → Bytes
  /-- `ResponsePacket::decode`. -/
  decodeResponsePacket : Bytes → Except String ResponsePacket
  /-- `ResponseType::try_from`; `none` for a number that is no response type. -/
  responseType : ℤ → Option ResponseType

/-- `n as u32`. -/
def asU32 (n : ℕ) : ℕ := n % 2 ^ 32

/-- `n as i32` of a 64-bit integer: the low 32 bits. -/
def asI32 (n : ℤ) : ℤ := n.bmod (2 ^ 32)

/-- `x.round() as i32`: half away from zero, saturating. -/
def roundAsI32 (x : ℚ) : ℤ :=
  let rounded := if 0 ≤ x then ⌊x + 1 / 2⌋ else ⌈x - 1 / 2⌉
  max (-2 ^ 31) (min (2 ^ 31 - 1) rounded)

/-- The packet that `create_unencrypted_packet` encodes. -/
def unencryptedPacket (textData : Bytes) : DataPacket where
  packetId := .authPacket
  packetNumber := 1
  totalPackets := 0
  slowMode := true
  -- nothing is encrypted: the initialisation vector and the tag are zeros
  iv := List.replicate 12 0
  dataLen := asU32 textData.length
  encryptedData := textData
  tag := List.replicate 16 0

/-- `create_unencrypted_packet`. -/
def createUnencryptedPacket (pb : Prost) (input : String) : Bytes :=
  pb.encodeDataPacket (unencryptedPacket input.toUTF8.data.toList)

/-- `create_mouse_stream`. -/
def createMouseStream (frames : List (ℚ × ℚ)) (leftClick rightClick : Bool) (scrollDelta : ℤ) :
    EncryptedData where
  packetType := .mouse
  packetData := some (.mousePacket {
    numFrames := asU32 frames.length
    frames := frames.map fun p => ⟨roundAsI32 p.1, roundAsI32 p.2⟩
    lClick := leftClick.toInt
    rClick := rightClick.toInt
    wheel := scrollDelta })

/-- `create_mouse_packet`: a stream of one frame. -/
def createMousePacket (x y : ℚ) (leftClick rightClick : Bool) (scrollDelta : ℤ) : EncryptedData :=
  createMouseStream [(x, y)] leftClick rightClick scrollDelta

/-- `create_keyboard_packet`. -/
def createKeyboardPacket (keyString : String) : EncryptedData where
  packetType := .keyboardString
  packetData := some (.keyboardPacket (asU32 keyString.length) keyString)

/-- `<[T]>::chunks`, with as many chunks as `fuel` allows. -/
def chunks {α : Type} (size : ℕ) : ℕ → List α → List (List α)
  | 0, _ => []
  | _, [] => []
  | fuel + 1, xs => xs.take size :: chunks size fuel (xs.drop size)

/-- `create_keyboard_stream`: packets of 100 characters. There are at most as many chunks as
characters. -/
def createKeyboardStream (input : String) : List EncryptedData :=
  (chunks 100 input.toList.length input.toList).map fun chunk =>
    createKeyboardPacket (String.ofList chunk)

/-- `create_keycode_packet`. -/
def createKeycodePacket (code : Bytes) : EncryptedData where
  packetType := .keyboardKeycode
  packetData := some (.keycodePacket (asU32 code.length) code)

/-- `create_consumer_control_packet`. -/
def createConsumerControlPacket (code : UInt32) : EncryptedData where
  packetType := .consumerControl
  packetData := some (.consumerControlPacket [code] 1)

/-- `create_mouse_jiggle_packet`. -/
def createMouseJigglePacket (enable : Bool) : EncryptedData where
  packetType := .composite
  packetData := some (.mouseJigglePacket enable)

/-- `unpack_response_packet`. -/
def unpackResponsePacket (pb : Prost) (bytes : Bytes) : Except String ResponsePacket :=
  pb.decodeResponsePacket bytes

end ToothPaste
