import EmacsBatch.Path

/-!
# Scripts

A file that is no program may name the program that runs it on its first line, after two
marking bytes, and may have one argument for it there. Only the beginning of the file is
looked at, filled up with zero bytes if the file is shorter; a line that does not end in it
must at least show where the name ends.
-/

namespace EmacsBatch.Launch

/-- The first line of a script. -/
structure Script where
  /-- The path of the program that runs the script. -/
  interpreter : Bytes
  /-- The argument that the program gets before all others. -/
  argument : Option Bytes
  deriving DecidableEq

namespace Script

/-- The two bytes with which a script begins. -/
def mark : Bytes := [0x23, 0x21]

/-- The number of bytes that are looked at. -/
def headSize : Nat := 256

/-- The bytes of a file that are looked at. -/
def head (content : Bytes) : Bytes :=
  content.take headSize ++ List.replicate (headSize - content.length) 0

/-- Whether a byte separates words. -/
def isBlank (byte : UInt8) : Bool := byte = 0x20 || byte = 0x09

/-- Whether a byte ends the name of the program. -/
def endsName (byte : UInt8) : Bool := isBlank byte || byte = 0

/-- Bytes without the blanks at their end. -/
def trimEnd (bytes : Bytes) : Bytes := (bytes.reverse.dropWhile isBlank).reverse

/-- The first line after the mark, given all that is looked at of it.

A line feed counts only before the first zero byte. Without one, the last byte that is
looked at can end the name but is no part of the line. -/
def line? (bytes : Bytes) : Option Bytes :=
  if (bytes.takeWhile (· ≠ 0)).contains 0x0A then some (trimEnd (bytes.takeWhile (· ≠ 0x0A)))
  else if (bytes.dropWhile isBlank).any endsName then some (trimEnd bytes.dropLast)
  else none

/-- The words of a first line: the name of the program, and all that follows as one
argument. A zero byte ends either of them; an empty name stands for the working
directory. -/
def ofLine? (line : Bytes) : Option Script :=
  let words := line.dropWhile isBlank
  let name := words.takeWhile fun byte => !endsName byte
  let rest := words.dropWhile fun byte => !endsName byte
  let rest := if rest.head? = some 0 then [] else rest.dropWhile isBlank
  if words = [] then none
  else some {
    interpreter := if name = [] then Path.dot else name
    argument := if rest = [] then none else some (rest.takeWhile (· ≠ 0)) }

/-- What the first line of a file says, if it is a script. -/
def ofContent? (content : Bytes) : Option Script :=
  if mark.isPrefixOf content then (line? ((head content).drop mark.length)).bind ofLine?
  else none

end Script

end EmacsBatch.Launch
