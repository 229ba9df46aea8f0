import EmacsBatch.Config.Json
import EmacsBatch.Toml.Document
import EmacsBatch.Toml.Excerpt

/-!
# Configuration files

A configuration file sets some of the settings and leaves the others at their defaults. A
file that is not well formed is refused as a whole; in a well-formed one the settings are
read in the order of the file, and the first value of a wrong shape is shown. Either way the
message is an excerpt of the file.
-/

namespace EmacsBatch.Config

/-- The settings among the entries of a file, in the order of the file. -/
def fileFields (entries : Toml.Entries) : List (Field × Toml.Node) :=
  entries.filterMap fun entry => (Field.ofName? entry.1).map (·, entry.2)

/-- The part of the file that a mismatch is blamed on. -/
def blamed (node : Toml.Node) (mismatch : Mismatch) : Toml.Span :=
  match mismatch.element with
  | none => node.span
  | some position => node.elementSpans.getD position node.span

/-- The configuration that the text of a file describes, or the message that says why it
describes none. -/
def ofFileText (source : String) : Except String Config :=
  match Toml.entriesOf? source with
  | none => .error (Toml.malformedMessage source)
  | some entries =>
    let fields := fileFields entries
    match readFields default (fields.map fun field => (field.1, field.2.toJson)) with
    | .ok config => .ok config
    | .error (field, mismatch) =>
      let span := match fields.find? (·.1 = field) with
        | some (_, node) => blamed node mismatch
        | none => ⟨0, 0⟩
      .error (Toml.excerpt source span (mismatch.message Toml.numerals))

end EmacsBatch.Config
