import EmacsBatch.Bytes.Utf8
import EmacsBatch.Log.Level
import EmacsBatch.Text.Alphanumeric
import EmacsBatch.Text.Blank
import EmacsBatch.Text.Pattern.Reader

/-!
# Rules of log filters

A rule sets the level from which on events are shown. It can be for the targets that begin
in some way, for what happens within spans of a name, and for spans or events that have a
field, perhaps with a certain value; all that is written as
`target[span{field=value}]=level`, where nearly every part can be left out.
-/

namespace EmacsBatch.Log

/-- The level up to which something is shown; none if nothing is. -/
abbrev Limit := Option Level

/-- Limits in order: more is shown under a greater one. -/
def Limit.rank : Limit → Nat
  | none => 0
  | some level => level.rank + 1

/-- Whether events of a level are shown under a limit. -/
def Limit.admits (limit : Limit) (level : Level) : Bool := level.rank < limit.rank

/-- What a rule asks of the value of a field. -/
inductive ValueTest where
  /-- It is a certain number or truth value. -/
  | constant
  /-- Its text matches a pattern, which is kept as it is written: two patterns of different
  notation are different tests. -/
  | pattern (written : String) (pattern : Text.Pattern)
  deriving DecidableEq

/-- What a rule asks for: a field, and perhaps a value of it. -/
structure FieldTest where
  name : String
  value : Option ValueTest
  deriving DecidableEq

/-- A rule of a filter. -/
structure Rule where
  /-- The beginning of the targets that the rule is for; empty if it is for all. -/
  target : String := ""
  /-- The name of the spans that the rule is for, if it is only for those of one name. -/
  span : Option String := none
  field : Option FieldTest := none
  limit : Limit := some .trace
  deriving DecidableEq

/-- The limit that a word or a number stands for, in any case of letters. A number may have
a plus sign and zeros in front. -/
def Limit.read? (word : String) : Option Limit :=
  let lower := String.ofList (word.toList.map Char.toLower)
  let digits := match word.toList with
    | '+' :: digits => digits
    | digits => digits
  let limits : List Limit := none :: Level.all.map some
  if digits ≠ [] ∧ digits.all Char.isDigit then
    limits[digits.foldl (fun n c => n * 10 + (c.toNat - '0'.toNat)) 0]?
  else if lower = "off" then some none
  else (Level.all.find? (·.name = lower)).map some

/-- Whether a word is written like a number with a fraction, which may be missing. -/
def isNumeral (word : String) : Bool :=
  let unsigned : List Char → List Char
    | '+' :: rest | '-' :: rest => rest
    | cs => cs
  let body := unsigned (word.toList.map Char.toLower)
  let whole := body.takeWhile Char.isDigit
  let (places, rest) := match body.dropWhile Char.isDigit with
    | '.' :: rest => (rest.takeWhile Char.isDigit, rest.dropWhile Char.isDigit)
    | rest => ([], rest)
  let exponentOk := match rest with
    | [] => true
    | 'e' :: rest => unsigned rest ≠ [] && (unsigned rest).all Char.isDigit
    | _ => false
  ["inf", "infinity", "nan"].contains (String.ofList body)
    || (whole ++ places ≠ [] && exponentOk)

/-- The test that a value of a field is written for. -/
def ValueTest.read? (word : String) : Option ValueTest :=
  if word = "true" ∨ word = "false" ∨ isNumeral word then some .constant
  else (Text.Pattern.read? word).map (.pattern word)

/-- The test that a field is written for; only what stands before a second sign counts. -/
def FieldTest.read? (text : String) : Option FieldTest :=
  match text.toList.splitOn '=' with
  | [] => none
  | [name] => some ⟨String.ofList name, none⟩
  | name :: value :: _ =>
    (ValueTest.read? (String.ofList value)).map fun test => ⟨String.ofList name, some test⟩

namespace Rule

/-- A character of an item with the number of bytes before it. -/
abbrev Positioned := Nat × Char

/-- Characters with their positions, the first of which is given. -/
def positions (start : Nat) : List Char → List Positioned
  | [] => []
  | c :: rest => (start, c) :: positions (start + c.utf8Size) rest

/-- The part of a text between two positions, the second of which may be the end. -/
def cut? (item : Bytes) (first : Nat) (last : Option Nat) : Option String :=
  Utf8.decode? ((item.take (last.getD item.length)).drop first)

/-- Whether a character can be the first one of a rule without a span. -/
def startsWord (c : Char) : Bool := c = '-' || c = ':' || c = '_' || Text.isAlphanumeric c

/-- A rule for spans once all but its level is read. -/
def readEnd (item : Bytes) (rule : Rule) : List Positioned → Option Rule
  | [] => some rule
  | (sign, c) :: _ =>
    if c = '=' then do
      let word ← cut? item (sign + 1) none
      if word = "" then some rule
      else (Limit.read? word).map fun limit => { rule with limit }
    else none

/-- A rule from its field on. -/
def readField (item : Bytes) (rule : Rule) (first : Nat) (cs : List Positioned) :
    Option Rule := do
  match cs.dropWhile (·.2 ≠ '\x7d') with
  | (last, _) :: (_, ']') :: rest =>
    let text ← cut? item first (some last)
    let field ← FieldTest.read? text
    if text = "" then none else readEnd item { rule with field := some field } rest
  | _ => none

/-- A rule from the name of its spans on. -/
def readSpan (item : Bytes) (rule : Rule) (first : Nat) (cs : List Positioned) :
    Option Rule := do
  match cs.dropWhile fun c => c.2 ≠ ']' && c.2 ≠ '\x7b' with
  | (last, c) :: rest =>
    let name ← cut? item first (some last)
    if c = ']' then readEnd item { rule with span := some name } rest
    else
      let span := if name = "" then none else some name
      readField item { rule with span } (last + 1) rest
  | [] => none

/-- The rule that an item of a list stands for.

The white space around an item is passed over to find its parts, but the parts are cut
from the item with that white space. -/
def read? (text : String) : Option Rule :=
  let item := Utf8.encode text
  match positions 0 (Text.trim text).toList with
  | [] => none
  | (first, c) :: rest =>
    if c = '[' then readSpan item {} (first + 1) rest
    else if !startsWord c then none
    else match rest.dropWhile fun c => c.2 ≠ '=' && c.2 ≠ '[' with
      | [] => do
        let word ← cut? item first none
        match Limit.read? word with
        | some limit => some { limit }
        | none => some { target := word }
      | (last, c) :: rest => do
        let target ← cut? item first (some last)
        if c = '[' then readSpan item { target } (last + 1) rest
        else readEnd item { target } ((last, c) :: rest)

/-- Whether the rule is for what happens within spans. -/
def isDynamic (rule : Rule) : Bool := rule.span.isSome || rule.field.isSome

/-- Whether the rule asks for the value of a field. -/
def hasValue (rule : Rule) : Bool := rule.field.any (·.value.isSome)

/-- Whether the rule decides about an event by itself, wherever it happens. -/
def isStatic (rule : Rule) : Bool := rule.span.isNone && !rule.hasValue

/-- Whether the rule is for a target. -/
def coversTarget (rule : Rule) (target : String) : Bool :=
  rule.target.toList.isPrefixOf target.toList

/-- Whether the field that the rule asks for, if any, is among some names. -/
def coversFields (rule : Rule) (names : List String) : Bool :=
  rule.field.all fun field => names.contains field.name

/-- Whether two rules are for the same; then the later one replaces the earlier one. -/
def sameScope (first second : Rule) : Bool :=
  first.target = second.target && first.span = second.span && first.field = second.field

/-- Whether the first of two static rules that both cover an event is the less specific
one: it has a shorter target or, with the same target, no field or one that comes first in
the alphabet. -/
def lessSpecific (first second : Rule) : Bool :=
  if first.target.length ≠ second.target.length then
    first.target.length < second.target.length
  else match first.field, second.field with
    | none, some _ => true
    | some first, some second => first.name < second.name
    | _, none => false

end Rule

end EmacsBatch.Log
