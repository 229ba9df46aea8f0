import EmacsBatch.Text.Alphanumeric
import EmacsBatch.Text.Pattern.Bracket

/-!
# Reading patterns

The notation of patterns: choices between sequences of parts, each of which may be
repeated. A part is a symbol, a set in brackets or a group, and flags can be set for a group
or for the rest of one. Counted repetition and looking around are not read.

The notation may not be nested too deeply. Its height counts one step for each group, each
repetition, each set, and each sequence or choice of several members.
-/

namespace EmacsBatch.Text.Pattern

/-- The greatest height of a notation. -/
def heightLimit : Nat := 250

/-- A part that was read, with the height of its notation. -/
structure Part where
  pattern : Pattern
  height : Nat := 0
  /-- Whether the part only sets flags, and so cannot be repeated. -/
  isDirective : Bool := false

/-- The height of the notation of some members together. -/
def heightOf (parts : List Part) : Nat :=
  let highest := parts.foldl (fun height part => max height part.height) 0
  if parts.length ≤ 1 then highest else highest + 1

/-- A group that is being read, or the whole pattern. -/
structure Level where
  flags : Flags
  /-- The choices that have been read, the last one first. -/
  branches : List Part := []
  /-- The parts of the choice that is being read, the last one first. -/
  parts : List Part := []

namespace Level

/-- The level with a further part. -/
def add (level : Level) (part : Part) : Level := { level with parts := part :: level.parts }

/-- The choice that is being read, as far as it was. -/
def branch (level : Level) : Part :=
  { pattern := concat (level.parts.reverse.map Part.pattern), height := heightOf level.parts }

/-- All that was read of a level. -/
def whole (level : Level) : Part :=
  let branches := level.branch :: level.branches
  { pattern := alternation (branches.reverse.map Part.pattern), height := heightOf branches }

end Level

/-- The levels that are being read. -/
structure Progress where
  /-- The innermost level. -/
  level : Level := { flags := .initial }
  /-- The levels around it, the inner ones first, each with the number of the group in it that
  is being read, unless that is not to be remembered. -/
  around : List (Level × Option Nat) := []
  /-- The number of groups to be remembered. -/
  groups : Nat := 0
  /-- The names of groups. -/
  names : List (List Char) := []

namespace Progress

/-- Further parts on the innermost level. -/
def add (progress : Progress) (part : Part) : Progress :=
  { progress with level := progress.level.add part }

/-- A group that is not to be remembered is opened. -/
def openPlain (progress : Progress) (flags : Flags) : Progress :=
  { progress with
    level := { flags }
    around := (progress.level, none) :: progress.around }

/-- A group that is to be remembered is opened. -/
def openNumbered (progress : Progress) : Progress :=
  { progress with
    level := { flags := progress.level.flags }
    around := (progress.level, some progress.groups) :: progress.around
    groups := progress.groups + 1 }

/-- The innermost group is closed, and the flags are again those around it. -/
def close? (progress : Progress) : Option Progress :=
  match progress.around with
  | [] => none
  | (outer, number) :: around =>
    let inner := progress.level.whole
    let pattern := match number with
      | some number => Pattern.group number inner.pattern
      | none => inner.pattern
    some { progress with level := outer.add { pattern, height := inner.height + 1 }, around }

/-- A choice is complete. -/
def separate (progress : Progress) : Progress :=
  let level := progress.level
  { progress with
    level := { flags := level.flags, branches := level.branch :: level.branches } }

/-- The last part is repeated, unless that makes it too high; a question mark after the sign
turns greed round. -/
def repeat? (progress : Progress) (rounds : Rounds) (rest : List Char) :
    Option (Progress × List Char) :=
  match progress.level.parts with
  | [] => none
  | part :: parts =>
    if part.isDirective || heightLimit ≤ part.height then none
    else
      let marked := rest.head? = some '?'
      let greedy := marked == progress.level.flags.contains .lazy
      let repeated : Part :=
        { pattern := repeated rounds greedy part.pattern, height := part.height + 1 }
      some ({ progress with level := { progress.level with parts := repeated :: parts } },
        if marked then rest.drop 1 else rest)

/-- Whether a row of characters can be the name of a group. -/
def isName : List Char → Bool
  | [] => false
  | first :: rest =>
    (first = '_' || alphabetic.contains first)
      && rest.all fun c => ['_', '.', '[', ']'].contains c || isAlphanumeric c

/-- A group with a name is opened, after the sign in front of the name. No two groups have
one name. -/
def openNamed? (progress : Progress) (cs : List Char) : Option (Progress × List Char) :=
  let name := cs.takeWhile (· ≠ '>')
  match cs.dropWhile (· ≠ '>') with
  | [] => none
  | _ :: rest =>
    if !isName name || progress.names.contains name then none
    else some ({ progress.openNumbered with names := name :: progress.names }, rest)

/-- Flags are set, for a group or for the rest of the one that is being read. -/
def openFlags? (progress : Progress) (cs : List Char) : Option (Progress × List Char) := do
  let letters := cs.takeWhile fun c => c ≠ ':' && c ≠ ')'
  let flags ← progress.level.flags.read? letters
  match cs.dropWhile fun c => c ≠ ':' && c ≠ ')' with
  | [] => none
  | sign :: rest =>
    if sign = ':' then return (progress.openPlain flags, rest)
    else if letters = [] then none
    else
      let level := progress.level.add { pattern := .empty, isDirective := true }
      return ({ progress with level := { level with flags } }, rest)

/-- What an opening parenthesis begins. -/
def open? (progress : Progress) (cs : List Char) : Option (Progress × List Char) :=
  match progress.level.flags.skip cs with
  | '?' :: '<' :: '=' :: _ | '?' :: '<' :: '!' :: _ => none
  | '?' :: 'P' :: '<' :: rest | '?' :: '<' :: rest => progress.openNamed? rest
  | '?' :: rest => progress.openFlags? rest
  | rest => some (progress.openNumbered, rest)

/-- What a symbol adds. -/
def addSymbol? (progress : Progress) (symbol : Symbol) : Option Progress :=
  (symbol.pattern? progress.level.flags).map fun pattern => progress.add { pattern }

/-- What a character begins, given those after it. -/
def step? (progress : Progress) (c : Char) (rest : List Char) :
    Option (Progress × List Char) :=
  let flags := progress.level.flags
  match c with
  | '(' => progress.open? rest
  | ')' => progress.close?.map (·, rest)
  | '|' => some (progress.separate, rest)
  | '?' => progress.repeat? .atMostOne rest
  | '*' => progress.repeat? .any rest
  | '+' => progress.repeat? .atLeastOne rest
  | '\x7b' => none
  | '[' =>
    (Bracketed.read flags rest).map fun (bracketed, rest) =>
      (progress.add { pattern := .one bracketed.set, height := bracketed.height }, rest)
  | '.' => flags.dot?.map fun set => (progress.add { pattern := .one set }, rest)
  | '^' => some (progress.add { pattern := .point flags.lineStart }, rest)
  | '$' => some (progress.add { pattern := .point flags.lineEnd }, rest)
  | '\\' => do
    let (symbol, rest) ← Symbol.readEscaped flags rest
    return (← progress.addSymbol? symbol, rest)
  | c => (progress.addSymbol? (.char c false)).map (·, rest)

/-- Read on to the end of a text. -/
def read : Nat → Progress → List Char → Option Progress
  | 0, _, _ => none
  | fuel + 1, progress, cs =>
    match progress.level.flags.skip cs with
    | [] => some progress
    | c :: rest =>
      match progress.step? c rest with
      | some (progress, rest) => read fuel progress rest
      | none => none

end Progress

/-- The pattern that a text describes. Each step reads a character at least. -/
def read? (text : String) : Option Pattern := do
  let cs := text.toList
  let progress ← Progress.read (cs.length + 1) {} cs
  let whole := progress.level.whole
  if progress.around.isEmpty && whole.height ≤ heightLimit then some whole.pattern else none

end EmacsBatch.Text.Pattern
