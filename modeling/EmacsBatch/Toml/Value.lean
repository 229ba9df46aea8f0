import EmacsBatch.Toml.DateTime
import EmacsBatch.Toml.Node
import EmacsBatch.Toml.Text

/-!
# Keys and values of configuration files

Keys are bare words or strings, joined by dots. Values are scalars, arrays, which may run
over several lines, and tables in braces, which may not. Both keys and nesting have a limit
on their depth.
-/

namespace EmacsBatch.Toml

/-- Whether a character may stand in a key without quotes. -/
def isBareKey (c : Char) : Bool := c.isAlphanum || c = '-' || c = '_'

/-- A key without quotes. -/
def bareKey : Scan String := do
  let first ← Scan.satisfy isBareKey
  let rest ← Scan.takeWhile isBareKey
  return String.ofList (first :: rest)

/-- One part of a key, with white space around it. -/
def keyPart : Scan Key := do
  spaces
  let (name, span) ← Scan.spanned (bareKey <|> basicString <|> literalString)
  spaces
  return ⟨name, span⟩

/-- The number of parts that a key must not reach. -/
def keyLimit : Nat := 80

/-- A key: the parts before the last, and the last. -/
def key : Scan (List Key × Key) := do
  let first ← keyPart
  let rest ← Scan.many (do Scan.char '.'; keyPart)
  let parts := first :: rest
  if parts.length < keyLimit then return (parts.dropLast, rest.getLast?.getD first) else failure

/-- The number of arrays and tables in braces that may be nested. -/
def nestingLimit : Nat := 79

/-- A value without parts. -/
def scalar : Scan Json :=
  (do return .string (← multilineBasic)) <|> (do return .string (← basicString))
    <|> (do return .string (← multilineLiteral)) <|> (do return .string (← literalString))
    <|> (do dateTime; return .object []) <|> (do return .float (← float))
    <|> (do return .integer (← integer))
    <|> (do Scan.chars ['t', 'r', 'u', 'e']; return .boolean true)
    <|> (do Scan.chars ['f', 'a', 'l', 's', 'e']; return .boolean false)

/-- An array whose elements are given by a scanner. -/
def arrayOf (element : Scan Node) : Scan (List Node) := do
  let item : Scan Node := do
    gap
    let node ← element
    gap
    return node
  Scan.char '['
  let elements ←
    (do
      let first ← item
      let rest ← Scan.many (do Scan.char ','; item)
      let _ ← Scan.optional (Scan.char ',')
      return first :: rest) <|> pure []
  gap
  Scan.char ']'
  return elements

/-- A key and its value, with white space around them. -/
def keyValue (value : Scan Node) : Scan ((List Key × Key) × Node) := do
  let key ← key
  Scan.char '='
  spaces
  let node ← value
  spaces
  return (key, node)

/-- A table in braces whose values are given by a scanner. -/
def bracesOf (value : Scan Node) : Scan Entries := do
  Scan.char '\x7b'
  let items ←
    (do
      let first ← keyValue value
      let rest ← Scan.many (do Scan.char ','; keyValue value)
      return first :: rest) <|> pure []
  spaces
  Scan.char '\x7d'
  items.foldlM (fun entries item => entries.assign item.1.2 item.2 item.1.1) ([] : Entries)

/-- A value that nests at most so many arrays and tables in braces. -/
def value : Nat → Scan Node
  | 0 => do
    let (json, span) ← Scan.spanned scalar
    return .leaf span json
  | depth + 1 =>
    (do
      let (elements, span) ← Scan.spanned (arrayOf (value depth))
      return .array span elements)
    <|> (do
      let (entries, span) ← Scan.spanned (bracesOf (value depth))
      return .table span .braces entries)
    <|> value 0

end EmacsBatch.Toml
