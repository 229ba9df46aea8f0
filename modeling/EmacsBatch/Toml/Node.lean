import EmacsBatch.Json.Basic
import EmacsBatch.Toml.Scan

/-!
# Tables of configuration files

The tree of values that a configuration file describes. Tables come into being in several
ways, and the way decides which lines may still add to a table: a table with a header is
closed to dotted keys, one that was only passed through by a longer header may still get a
header of its own, and one in braces is closed to everything.
-/

namespace EmacsBatch.Toml

/-- How a table came into being. -/
inductive Origin where
  /-- By its own header, or as an element of an array of tables. -/
  | header
  /-- On the way of a longer header. -/
  | passage
  /-- On the way of a dotted key. -/
  | dotted
  /-- In braces. -/
  | braces
  deriving DecidableEq

/-- A part of a key, with its place in the file. -/
structure Key where
  name : String
  span : Span
  deriving DecidableEq

/-- A value with its place in the file. -/
inductive Node where
  | leaf (span : Span) (value : Json)
  | array (span : Span) (elements : List Node)
  | table (span : Span) (origin : Origin) (entries : List (String × Node))
  /-- An array of tables: the places of all elements but the last, and the last one. -/
  | tables (earlier : List Span) (span : Span) (entries : List (String × Node))

/-- The entries of a table, in order. -/
abbrev Entries := List (String × Node)

/-- The part of the file that a value is blamed on. -/
def Node.span : Node → Span
  | .leaf span _ | .array span _ | .table span _ _ => span
  | .tables earlier span _ => ⟨(earlier.head?.getD span).start, span.stop⟩

/-- The parts of the file that the elements of an array are blamed on. -/
def Node.elementSpans : Node → List Span
  | .array _ elements => elements.map Node.span
  | .tables earlier span _ => earlier ++ [span]
  | _ => []

mutual

/-- The value itself. An element of an array of tables that is not the last one is given
without its entries. -/
def Node.toJson : Node → Json
  | .leaf _ value => value
  | .array _ elements => .array (elementsToJson elements)
  | .table _ _ entries => .object (entriesToJson entries)
  | .tables earlier _ entries =>
    .array (earlier.map (fun _ => .object []) ++ [.object (entriesToJson entries)])

/-- The values of the elements of an array. -/
def elementsToJson : List Node → List Json
  | [] => []
  | node :: rest => node.toJson :: elementsToJson rest

/-- The values of the entries of a table. -/
def entriesToJson : List (String × Node) → List (String × Json)
  | [] => []
  | (name, node) :: rest => (name, node.toJson) :: entriesToJson rest

end

namespace Entries

/-- The value of an entry. -/
def get? (entries : Entries) (name : String) : Option Node :=
  (entries.find? (·.1 = name)).map (·.2)

/-- The entries with another value for one of them. -/
def replace (entries : Entries) (name : String) (node : Node) : Entries :=
  entries.map fun entry => if entry.1 = name then (name, node) else entry

/-- The entries without one of them. -/
def erase (entries : Entries) (name : String) : Entries := entries.filter (·.1 ≠ name)

/-- Add the value of a key to the entries of a table that is open to it.

The tables on the way of a dotted key are created where they are missing. Those that exist
must have no header; the innermost must have come from a dotted key itself. -/
def assign (entries : Entries) (key : Key) (value : Node) : List Key → Option Entries
  | [] => if (entries.get? key.name).isSome then none else some (entries ++ [(key.name, value)])
  | part :: rest =>
    match entries.get? part.name with
    | none => do
      let inner ← assign [] key value rest
      return entries ++ [(part.name, .table part.span .dotted inner)]
    | some (.table span origin inner) =>
      if origin = .dotted ∨ (origin = .passage ∧ rest ≠ []) then do
        let inner ← assign inner key value rest
        return entries.replace part.name (.table span origin inner)
      else none
    | some (.tables earlier span inner) =>
      if rest = [] then none
      else do
        let inner ← assign inner key value rest
        return entries.replace part.name (.tables earlier span inner)
    | some _ => none

/-- Change the entries of the table that the parts of a header lead to, creating tables
that are missing; the last element stands for an array of tables. -/
def modify (entries : Entries) (change : Entries → Option Entries) : List Key → Option Entries
  | [] => change entries
  | part :: rest =>
    match entries.get? part.name with
    | none => do
      let inner ← modify [] change rest
      return entries ++ [(part.name, .table part.span .passage inner)]
    | some (.table span origin inner) =>
      if origin = .braces then none
      else do
        let inner ← modify inner change rest
        return entries.replace part.name (.table span origin inner)
    | some (.tables earlier span inner) => do
      let inner ← modify inner change rest
      return entries.replace part.name (.tables earlier span inner)
    | some _ => none

end Entries

end EmacsBatch.Toml
