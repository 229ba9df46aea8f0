import EmacsBatch.Toml.Value

/-!
# Configuration files

A file is a row of sections: the lines before the first header, then each header with the
lines that follow it. The table of a section is built from its own lines and put into the
tree when it is complete, at the end of the table it belongs to.
-/

namespace EmacsBatch.Toml

/-- The header of a section. -/
inductive Header where
  /-- A table: the parts of its name before the last, and the last. -/
  | table (parents : List Key) (last : Key)
  /-- One more element of an array of tables. -/
  | element (parents : List Key) (last : Key)
  deriving DecidableEq

/-- One line of a file. -/
inductive Line where
  | blank
  | header (header : Header) (span : Span)
  | assignment (parents : List Key) (last : Key) (value : Node)

/-- The header of an array of tables or of a table. -/
def header : Scan Header :=
  (do
    Scan.chars ['[', '[']
    let (parents, last) ← key
    Scan.chars [']', ']']
    return .element parents last)
  <|> (do
    Scan.char '['
    let (parents, last) ← key
    Scan.char ']'
    return .table parents last)

/-- What a line says, without its end. -/
def lineContent : Scan Line :=
  (do
    let (header, span) ← Scan.spanned header
    return .header header span)
  <|> (do
    let ((parents, last), node) ← keyValue (value nestingLimit)
    return .assignment parents last node)
  <|> pure .blank

/-- A line with its end. -/
def line : Scan Line := do
  spaces
  let content ← lineContent
  spaces
  let _ ← Scan.optional comment
  newline <|> Scan.atEnd
  return content

/-- All lines up to the end of the file, of which there are at most a given number. -/
def linesUpTo : Nat → Scan (List Line)
  | 0 => do
    Scan.atEnd
    return []
  | count + 1 =>
    (do Scan.atEnd; return []) <|> (do
      let first ← line
      let rest ← linesUpTo count
      return first :: rest)

/-- A part of a file under one header. -/
structure Section where
  header : Option (Header × Span)
  assignments : List (List Key × Key × Node)

/-- The sections of a row of lines, of which those up to the first header belong to the
section before it. -/
def Section.ofLines (header : Option (Header × Span)) : List Line → List Section
  | [] => [⟨header, []⟩]
  | .blank :: rest => ofLines header rest
  | .header next span :: rest => ⟨header, []⟩ :: ofLines (some (next, span)) rest
  | .assignment parents last value :: rest =>
    match ofLines header rest with
    | [] => []
    | section₁ :: others =>
      { section₁ with assignments := (parents, last, value) :: section₁.assignments } :: others

/-- The entries of a section's table, on top of those the table has already. -/
def Section.fill (part : Section) (entries : Entries) : Option Entries :=
  part.assignments.foldlM
    (fun entries assignment => entries.assign assignment.2.1 assignment.2.2 assignment.1) entries

/-- The part of the file that a section's table is blamed on: from its header on to the end
of its last value. -/
def Section.span (part : Section) (header : Span) : Span :=
  match part.assignments.getLast? with
  | some (_, _, value) => ⟨header.start, value.span.stop⟩
  | none => header

/-- The entries of the whole tree with a section's table added.

A table that a longer header passed through may get its own header once; it then moves to
the end. -/
def Section.addTo (part : Section) (tree : Entries) : Option Entries :=
  match part.header with
  | none => part.fill tree
  | some (.table parents last, span) =>
    tree.modify (fun entries =>
      match entries.get? last.name with
      | none => do
        let inner ← part.fill []
        return entries ++ [(last.name, .table (part.span span) .header inner)]
      | some (.table _ .passage inner) => do
        let inner ← part.fill inner
        return entries.erase last.name ++ [(last.name, .table (part.span span) .header inner)]
      | some _ => none) parents
  | some (.element parents last, span) =>
    tree.modify (fun entries =>
      match entries.get? last.name with
      | none => do
        let inner ← part.fill []
        return entries ++ [(last.name, .tables [] (part.span span) inner)]
      | some (.tables earlier before _) => do
        let inner ← part.fill []
        return entries.replace last.name (.tables (earlier ++ [before]) (part.span span) inner)
      | some _ => none) parents

/-- The character that may mark the beginning of a file. -/
def byteOrderMark : Char := Char.ofNat 0xFEFF

/-- All lines of a file. -/
def fileLines : Scan (List Line) := do
  let _ ← Scan.optional (Scan.char byteOrderMark)
  linesUpTo (← get).rest.length

/-- The entries that a file describes, if it is well formed. -/
def entriesOf? (source : String) : Option Entries := do
  let (lines, _) ← fileLines ⟨0, source.toList⟩
  (Section.ofLines none lines).foldlM (fun tree part => part.addTo tree) ([] : Entries)

end EmacsBatch.Toml
