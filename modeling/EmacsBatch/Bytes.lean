/-!
# Byte strings

Paths, program names, arguments and environment values are sequences of bytes with no
encoding of their own. Text enters and leaves them through UTF-8, which has its own module.
-/

namespace EmacsBatch

/-- A sequence of bytes. -/
abbrev Bytes := List UInt8

namespace Bytes

/-- Put one more byte in front of the first piece. -/
def consFirst (byte : UInt8) : List Bytes → List Bytes
  | [] => [[byte]]
  | piece :: pieces => (byte :: piece) :: pieces

/-- The pieces between the occurrences of a separator, empty ones included.

A byte string without the separator is its own single piece, so there is always at least
one piece. -/
def splitOn (separator : UInt8) : Bytes → List Bytes
  | [] => [[]]
  | byte :: rest =>
    if byte = separator then [] :: splitOn separator rest
    else consFirst byte (splitOn separator rest)

/-- Put one separator between any two neighbouring pieces. -/
def joinWith (separator : UInt8) : List Bytes → Bytes
  | [] => []
  | [piece] => piece
  | piece :: next :: rest => piece ++ separator :: joinWith separator (next :: rest)

/-- The bytes before the first separator, and those after it if there is one. -/
def splitOnce (separator : UInt8) : Bytes → Bytes × Option Bytes
  | [] => ([], none)
  | byte :: rest =>
    if byte = separator then ([], some rest)
    else
      let split := splitOnce separator rest
      (byte :: split.1, split.2)

/-- Whether a zero byte occurs, which no path, argument or environment value can carry to
the operating system. -/
def hasNul (bytes : Bytes) : Bool := bytes.any (· = 0)

/-- The bytes without the longest run of matching bytes at their end. -/
def trimEnd (matching : UInt8 → Bool) (bytes : Bytes) : Bytes :=
  (bytes.reverse.dropWhile matching).reverse

/-- A first piece is always there to be extended. -/
theorem consFirst_ne_nil (byte : UInt8) (pieces : List Bytes) : consFirst byte pieces ≠ [] := by
  cases pieces <;> simp [consFirst]

/-- Splitting gives at least one piece. -/
theorem splitOn_ne_nil (separator : UInt8) (bytes : Bytes) : splitOn separator bytes ≠ [] := by
  cases bytes with
  | nil => simp [splitOn]
  | cons byte rest =>
    simp only [splitOn]
    split
    · simp
    · exact consFirst_ne_nil _ _

/-- Bytes other than the separator come before the first piece. -/
theorem splitOn_append_of_notMem {separator : UInt8} {start : Bytes} (h : separator ∉ start)
    (rest : Bytes) :
    splitOn separator (start ++ rest) = (splitOn separator rest).modifyHead (start ++ ·) := by
  induction start with
  | nil => exact (congrFun List.modifyHead_id _).symm
  | cons byte start ih =>
    obtain ⟨hbyte, hstart⟩ := not_or.1 (mt List.mem_cons.2 h)
    rw [List.cons_append, splitOn, if_neg (Ne.symm hbyte), ih hstart]
    obtain ⟨piece, pieces, hsplit⟩ := List.exists_cons_of_ne_nil (splitOn_ne_nil separator rest)
    rw [hsplit]
    rfl

/-- The pieces before a separator and those after it are split apart from each other. -/
theorem splitOn_append_separator (separator : UInt8) (before rest : Bytes) :
    splitOn separator (before ++ separator :: rest) =
      splitOn separator before ++ splitOn separator rest := by
  induction before with
  | nil => simp [splitOn]
  | cons byte before ih =>
    rw [List.cons_append, splitOn, splitOn]
    split
    · rw [ih, List.cons_append]
    · match hs : splitOn separator before, splitOn_ne_nil separator before with
      | piece :: pieces, _ => rw [ih, hs, List.cons_append, consFirst, consFirst, List.cons_append]

end Bytes

end EmacsBatch
