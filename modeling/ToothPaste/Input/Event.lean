import Mathlib.Data.Rat.Defs
import ToothPaste.Core

/-!
# Input events

What the input listener and the MCP server put in the input channel: `InputEvent` of
`modules/input/handler.rs`, over the events of the `rdev` crate, and the maps of keys to HID and
ASCII codes of `modules/input/hidmap.rs`.
-/

namespace ToothPaste

/-- `rdev::Key`. `other` stands for the keys that no map of the service mentions. -/
inductive Key where
  | controlLeft | controlRight | shiftLeft | shiftRight | alt | altGr | metaLeft | metaRight
  | upArrow | downArrow | leftArrow | rightArrow | home | endKey | pageUp | pageDown
  | backspace | tab | returnKey | escape | insert | delete
  | f1 | f2 | f3 | f4 | f5 | f6 | f7 | f8 | f9 | f10 | f11 | f12
  | space
  | keyA | keyB | keyC | keyD | keyE | keyF | keyG | keyH | keyI | keyJ | keyK | keyL | keyM
  | keyN | keyO | keyP | keyQ | keyR | keyS | keyT | keyU | keyV | keyW | keyX | keyY | keyZ
  | num0 | num1 | num2 | num3 | num4 | num5 | num6 | num7 | num8 | num9
  | comma | minus | slash | equal | backQuote
  | other (code : ℕ)
  deriving DecidableEq, Repr

/-- `rdev::Button`. -/
inductive Button where
  | left
  | right
  | middle
  | unknown (code : UInt8)
  deriving DecidableEq, Repr

/-- `rdev::EventType`. -/
inductive EventType where
  | keyPress (key : Key)
  | keyRelease (key : Key)
  | buttonPress (button : Button)
  | buttonRelease (button : Button)
  | mouseMove (x y : ℚ)
  | wheel (deltaX deltaY : ℤ)
  deriving DecidableEq

/-- `rdev::Event`; `time` in nanoseconds since the epoch. -/
structure Event where
  time : ℤ
  name : Option String
  eventType : EventType
  deriving DecidableEq

/-- `InputEvent`. -/
inductive InputEvent where
  | rdevEvent (event : Event)
  | clipboard (text : String)
  | keycode (codes : Bytes)
  | consumerControl (code : UInt32)
  deriving DecidableEq

/-- `key_to_hid`. -/
def keyToHid : Key → Option UInt8
  -- modifiers
  | .controlLeft => some 0x80
  | .controlRight => some 0x84
  | .shiftLeft => some 0x81
  | .shiftRight => some 0x85
  | .alt => some 0x82
  | .altGr => some 0x86
  | .metaLeft => some 0x83
  | .metaRight => some 0x87
  -- navigation
  | .upArrow => some 0xDA
  | .downArrow => some 0xD9
  | .leftArrow => some 0xD8
  | .rightArrow => some 0xD7
  | .home => some 0xD2
  | .endKey => some 0xD5
  | .pageUp => some 0xD3
  | .pageDown => some 0xD6
  -- editing
  | .backspace => some 0xB2
  | .tab => some 0xB3
  | .returnKey => some 0xB0
  | .escape => some 0xB1
  | .insert => some 0xD1
  | .delete => some 0xD4
  -- function keys
  | .f1 => some 0xC2
  | .f2 => some 0xC3
  | .f3 => some 0xC4
  | .f4 => some 0xC5
  | .f5 => some 0xC6
  | .f6 => some 0xC7
  | .f7 => some 0xC8
  | .f8 => some 0xC9
  | .f9 => some 0xCA
  | .f10 => some 0xCB
  | .f11 => some 0xCC
  | .f12 => some 0xCD
  | _ => none

/-- `key_to_ascii`. -/
def keyToAscii : Key → Option UInt8
  | .space => some 0x20
  -- letters
  | .keyA => some 0x61
  | .keyB => some 0x62
  | .keyC => some 0x63
  | .keyD => some 0x64
  | .keyE => some 0x65
  | .keyF => some 0x66
  | .keyG => some 0x67
  | .keyH => some 0x68
  | .keyI => some 0x69
  | .keyJ => some 0x6A
  | .keyK => some 0x6B
  | .keyL => some 0x6C
  | .keyM => some 0x6D
  | .keyN => some 0x6E
  | .keyO => some 0x6F
  | .keyP => some 0x70
  | .keyQ => some 0x71
  | .keyR => some 0x72
  | .keyS => some 0x73
  | .keyT => some 0x74
  | .keyU => some 0x75
  | .keyV => some 0x76
  | .keyW => some 0x77
  | .keyX => some 0x78
  | .keyY => some 0x79
  | .keyZ => some 0x7A
  -- digits
  | .num0 => some 0x30
  | .num1 => some 0x31
  | .num2 => some 0x32
  | .num3 => some 0x33
  | .num4 => some 0x34
  | .num5 => some 0x35
  | .num6 => some 0x36
  | .num7 => some 0x37
  | .num8 => some 0x38
  | .num9 => some 0x39
  -- symbols
  | .comma => some 0x2C
  | .minus => some 0x2D
  | .slash => some 0x2F
  | .equal => some 0x3D
  | .backQuote => some 0x60
  | _ => none

end ToothPaste
