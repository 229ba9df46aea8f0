import EmacsBatch.Bytes.Utf8

/-!
# Plain text

Words from a command line are repeated in error messages without what could control a
terminal: control characters other than white space, and whole escape sequences. Messages
are then cut to their first line where only one line is wanted.

Sequences are told by bytes. A character beyond ASCII is therefore no text inside a
sequence, and one of its bytes can even end it. White space inside a sequence is kept, and so
is all visible text right after it; but then the sequence goes on where it was, unless a
character beyond ASCII was among that text.
-/

namespace EmacsBatch.Text

/-- Where a byte stands with respect to escape sequences. -/
inductive ControlState where
  /-- Outside any sequence. -/
  | outside
  /-- After the escape character. -/
  | escape
  /-- After the escape character and a byte that announces a final one. -/
  | intermediate
  /-- In a sequence that ends with a letter or a similar byte. -/
  | control
  /-- In a string that the bell ends. -/
  | command
  /-- At the start of the head of a string for a device. -/
  | device
  /-- Among the parameters in the head of a string for a device. -/
  | deviceParameters
  /-- After a byte that announces the final one in the head of a string for a device. -/
  | deviceIntermediate
  /-- In a string that the string terminator ends. -/
  | string
  deriving DecidableEq

/-- A point in a row of bytes. -/
structure ControlPoint where
  state : ControlState := .outside
  /-- Whether the byte before was kept, so that text goes on whatever the state. -/
  isText : Bool := false
  deriving DecidableEq

/-- The white space that plain text keeps besides the space itself. -/
def isKeptControl (byte : UInt8) : Bool := [0x09, 0x0A, 0x0C, 0x0D].contains byte

/-- Whether a byte starts something that is kept: a visible character of ASCII, white
space, or a longer character. -/
def startsKept (byte : UInt8) : Bool :=
  (0x20 ≤ byte && byte ≤ 0x7E) || (0xC2 ≤ byte && byte ≤ 0xF4) || isKeptControl byte

/-- Whether a byte continues a character. -/
def continuesCharacter (byte : UInt8) : Bool := 0x80 ≤ byte && byte ≤ 0xBF

/-- The state after a byte inside a sequence, where white space and the three bytes that
start or abandon sequences have been dealt with. -/
def ControlState.within (state : ControlState) (byte : UInt8) : ControlState :=
  match state with
  | .outside => .outside
  | .escape =>
    if byte < 0x20 ∨ byte ≥ 0x7F then .escape
    else if byte < 0x30 then .intermediate
    else if byte = 0x5B then .control
    else if byte = 0x5D then .command
    else if byte = 0x50 then .device
    else if byte = 0x58 ∨ byte = 0x5E ∨ byte = 0x5F then .string
    else .outside
  | .intermediate => if byte < 0x30 ∨ byte ≥ 0x7F then .intermediate else .outside
  | .control => if byte < 0x40 ∨ byte ≥ 0x7F then .control else .outside
  | .command => if byte = 0x07 then .outside else .command
  | .device =>
    if byte < 0x20 ∨ byte ≥ 0x7F then .device
    else if byte < 0x30 then .deviceIntermediate
    else if byte < 0x40 ∧ byte ≠ 0x3A then .deviceParameters
    else .string
  | .deviceParameters =>
    if byte < 0x20 ∨ byte ≥ 0x7F then .deviceParameters
    else if byte < 0x30 then .deviceIntermediate
    else if byte < 0x3C ∧ byte ≠ 0x3A then .deviceParameters
    else .string
  | .deviceIntermediate =>
    if byte < 0x30 ∨ byte ≥ 0x7F then .deviceIntermediate else .string
  | .string => if byte = 0x9C then .outside else .string

/-- Whether white space is kept in a state. -/
def ControlState.keepsControls : ControlState → Bool
  | .outside | .escape | .intermediate | .control => true
  | _ => false

/-- Whether a byte is kept, the three bytes that start or abandon sequences aside. -/
def ControlPoint.keeps (point : ControlPoint) (byte : UInt8) : Bool :=
  ((point.isText || point.state == .outside) && startsKept byte)
    || (point.isText && continuesCharacter byte)
    || (point.state.keepsControls && isKeptControl byte)

/-- The point after a byte, and whether the byte is kept. -/
def ControlPoint.next (point : ControlPoint) (byte : UInt8) : ControlPoint × Bool :=
  if byte = 0x1B then (⟨.escape, false⟩, false)
  else if byte = 0x18 ∨ byte = 0x1A then (⟨.outside, false⟩, false)
  else if point.keeps byte then
    (⟨if byte < 0x80 then point.state else .outside, true⟩, true)
  else (⟨point.state.within byte, false⟩, false)

/-- The bytes that are kept when reading goes on from some point. -/
def plainBytes (point : ControlPoint) : Bytes → Bytes
  | [] => []
  | byte :: rest =>
    let (next, kept) := point.next byte
    if kept then byte :: plainBytes next rest else plainBytes next rest

/-- The text without what could control a terminal. -/
def plain (s : String) : String := Utf8.lossy (plainBytes {} (Utf8.encode s))

/-- The text up to its first line feed, without a carriage return right before it. -/
def firstLine (s : String) : String :=
  let line := s.toList.takeWhile (· ≠ '\n')
  if s.toList.contains '\n' ∧ line.getLast? = some '\r' then String.ofList line.dropLast
  else String.ofList line

end EmacsBatch.Text
