import CertRenewal.Bytes

/-!
What a terminal shows of a text. Bytes that belong to a control sequence show
nothing, and neither do control characters other than tabs and the ends of lines
and pages. A byte beyond ASCII inside a sequence belongs to the sequence.
-/

namespace CertRenewal.Terminal

inductive Stage
  | text
  /-- Outside of any sequence, behind something that was not shown. -/
  | ground
  | escape
  /-- Within a short sequence, before its last byte. -/
  | short
  /-- Within a sequence that was opened with a bracket. -/
  | control
  /-- Behind the opening of a message to a device. -/
  | device
  | deviceParameters
  | deviceModifiers
  | deviceText
  /-- Within a message to a device that opened in no valid way. -/
  | deviceRefused
  /-- Within a command to the system, which a bell ends. -/
  | command
  /-- Within a string that no one reads. -/
  | unread
deriving DecidableEq, Repr

def isSpacing (byte : UInt8) : Bool := byte = 9 || byte = 10 || byte = 12 || byte = 13

/-- Whether a byte of ASCII is shown outside of sequences. -/
def isVisible (byte : UInt8) : Bool := 0x20 ≤ byte && byte ≤ 0x7E || isSpacing byte

def Stage.behindEscape (byte : UInt8) : Stage :=
  if byte = 0x50 then .device
  else if byte = 0x58 || byte = 0x5E || byte = 0x5F then .unread
  else if byte = 0x5B then .control
  else if byte = 0x5D then .command
  else if 0x20 ≤ byte && byte ≤ 0x2F then .short
  else if 0x30 ≤ byte && byte ≤ 0x7E then .ground
  else .escape

/-- Where a byte leads that is not shown. An escape character begins a sequence
anywhere, and two of the controls end any. -/
def Stage.next (stage : Stage) (byte : UInt8) : Stage :=
  if byte = 0x1B then .escape
  else if byte = 0x18 || byte = 0x1A then .ground
  else
    match stage with
    | .text => .ground
    | .ground => .ground
    | .escape => behindEscape byte
    | .short => if 0x30 ≤ byte && byte ≤ 0x7E then .ground else .short
    | .control => if 0x40 ≤ byte && byte ≤ 0x7E then .ground else .control
    | .device =>
      if 0x20 ≤ byte && byte ≤ 0x2F then .deviceModifiers
      else if 0x30 ≤ byte && byte ≤ 0x3F then .deviceParameters
      else if 0x40 ≤ byte && byte ≤ 0x7E then .deviceText
      else .device
    | .deviceParameters =>
      if 0x20 ≤ byte && byte ≤ 0x2F then .deviceModifiers
      else if 0x3C ≤ byte && byte ≤ 0x3F then .deviceRefused
      else if 0x40 ≤ byte && byte ≤ 0x7E then .deviceText
      else .deviceParameters
    | .deviceModifiers =>
      if 0x30 ≤ byte && byte ≤ 0x3F then .deviceRefused
      else if 0x40 ≤ byte && byte ≤ 0x7E then .deviceText
      else .deviceModifiers
    | .deviceText => if byte = 0x9C then .ground else .deviceText
    | .deviceRefused => .deviceRefused
    | .command => if byte = 0x07 then .ground else .command
    | .unread => if byte = 0x9C then .ground else .unread

/-- Whether a byte is shown. Spacing is shown within sequences too, but not in
what is meant for a device or the system. -/
def Stage.shows (stage : Stage) (byte : UInt8) : Bool :=
  match stage with
  | .text => isVisible byte || 0x80 ≤ byte
  | .ground => isVisible byte || 0xC0 ≤ byte
  | .escape | .short | .control => isSpacing byte
  | _ => false

/-- The bytes that are shown. One that is shown ends any sequence. -/
def shownFrom : Stage → Bytes → Bytes
  | _, [] => []
  | stage, byte :: rest =>
    if stage.shows byte then byte :: shownFrom .text rest else shownFrom (stage.next byte) rest

def shown (text : String) : String := Bytes.lossyText (shownFrom .ground (Bytes.ofText text))

end CertRenewal.Terminal
