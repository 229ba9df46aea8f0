import EmacsBatch.Bytes.Utf8
import EmacsBatch.Toml.Document

/-!
# Excerpts

An error in a configuration file is shown with the line it is on, and with carets below the
part of the line that is meant. Lines and columns are counted from one.

Of a file that is not well formed the first line is shown that no well-formed beginning of the
file reaches. Where in that line reading stops, or whether it stops in a later one of the same
value, and what was expected there, is not worked out here.
-/

namespace EmacsBatch.Toml

/-- The words that every message about a configuration file that cannot be read begins with. -/
def errorTitle : String := "TOML parse error"

/-- The number of characters whose bytes begin before a position. -/
def charsBefore (position : Nat) : List Char → Nat
  | [] => 0
  | c :: rest =>
    if position = 0 then 0 else 1 + charsBefore (position - c.utf8Size) rest

/-- A message about a part of a file, with the line the part begins on.

There is a caret for each byte of the part, as far as the line goes, and always at least
one. -/
def excerpt (source : String) (span : Span) (message : String) : String :=
  let cs := source.toList
  let before := cs.take (charsBefore span.start cs)
  let number := toString (before.count '\n' + 1)
  let indent := (before.reverse.takeWhile (· ≠ '\n')).reverse
  let content := indent ++ (cs.drop before.length).takeWhile (· ≠ '\n')
  let column := indent.length
  let carets := max 1 (min (span.stop - span.start) (Scan.byteCount content - column))
  let gutter := String.ofList (List.replicate (number.length + 1) ' ') ++ "|"
  errorTitle ++ " at line " ++ number ++ ", column " ++ toString (column + 1) ++ "\n"
    ++ gutter ++ "\n"
    ++ number ++ " | " ++ String.ofList content ++ "\n"
    ++ gutter ++ String.ofList (List.replicate (column + 1) ' ')
    ++ String.ofList (List.replicate carets '^') ++ "\n"
    ++ message ++ "\n"

/-- The longest beginning of a file that ends with a line and is well formed by itself. The
characters of the file are given from the last to the first. -/
def wellFormedBeginning : List Char → List Char
  | [] => []
  | c :: before =>
    let beginning := (c :: before).reverse
    if c = '\n' ∧ (entriesOf? (String.ofList beginning)).isSome then beginning
    else wellFormedBeginning before

/-- The message about a file that is not well formed. -/
def malformedMessage (source : String) : String :=
  let start := Scan.byteCount (wellFormedBeginning source.toList.reverse)
  excerpt source ⟨start, start⟩ ""

end EmacsBatch.Toml
