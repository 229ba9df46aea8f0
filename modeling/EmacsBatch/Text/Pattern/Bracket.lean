import EmacsBatch.Text.Pattern.Notation

/-!
# Sets in brackets

The notation of sets: members one after another, ranges, classes with a name, sets within
sets, and operations between what stands before and after a sign. Operations are applied
from left to right.
-/

namespace EmacsBatch.Text

/-- An operation on sets with a sign of its own. -/
inductive SetOperation where
  | intersection
  | difference
  | symmetricDifference
  deriving DecidableEq

/-- The set that an operation makes of two sets. -/
def SetOperation.apply : SetOperation → CharSet → CharSet → CharSet
  | .intersection => .intersection
  | .difference => .difference
  | .symmetricDifference => .symmetricDifference

/-- A set in brackets that has been read, with the height of its notation. -/
structure Bracketed where
  set : CharSet
  height : Nat

/-- A set in brackets that is being read. -/
structure Bracket where
  negated : Bool
  /-- What stands before the last sign of an operation, and that operation. -/
  left : Option (Bracketed × SetOperation) := none
  /-- The members after it. -/
  members : CharSet := .empty
  /-- The number of these members. -/
  count : Nat := 0
  /-- The height of the highest member. -/
  height : Nat := 0
  /-- Whether there was nothing but hyphens so far. -/
  atFront : Bool := true

namespace Bracket

/-- The names of classes. -/
def classNames : List (String × CharSet) := [
  ("alnum", .ofRanges [('0', '9'), ('A', 'Z'), ('a', 'z')]),
  ("alpha", .ofRanges [('A', 'Z'), ('a', 'z')]),
  ("ascii", .range '\x00' '\x7f'),
  ("blank", .ofRanges [('\t', '\t'), (' ', ' ')]),
  ("cntrl", .ofRanges [('\x00', '\x1f'), ('\x7f', '\x7f')]),
  ("digit", Symbol.digits),
  ("graph", .range '!' '~'),
  ("lower", .range 'a' 'z'),
  ("print", .range ' ' '~'),
  ("punct", .ofRanges [('!', '/'), (':', '@'), ('[', '\x60'), ('\x7b', '~')]),
  ("space", Symbol.space),
  ("upper", .range 'A' 'Z'),
  ("word", Symbol.wordChars),
  ("xdigit", .ofRanges [('0', '9'), ('A', 'F'), ('a', 'f')])]

/-- A class by its name between colons, after the bracket in front of it; a circumflex
before the name negates it. -/
def readClass : List Char → Option ((CharSet × Bool) × List Char)
  | ':' :: rest => do
    let negated := rest.head? = some '^'
    let rest := if negated then rest.drop 1 else rest
    match rest.dropWhile (· ≠ ':') with
    | ':' :: ']' :: after =>
      let name := String.ofList (rest.takeWhile (· ≠ ':'))
      let set ← (classNames.find? (·.1 = name)).map (·.2)
      return ((set, negated), after)
    | _ => none
  | _ => none

/-- The members of a class with a name. -/
def classMembers? (flags : Flags) (set : CharSet) (negated : Bool) : Option CharSet :=
  if flags.needsCases then none
  else if !negated then some (flags.closeCase set)
  else if flags.contains .unicode then some set.complement
  else none

/-- A symbol in brackets, where only the backslash has a meaning of its own. -/
def readSymbol (flags : Flags) : List Char → Option (Symbol × List Char)
  | [] => none
  | '\\' :: rest => Symbol.readEscaped flags rest
  | c :: rest => some (.char c false, rest)

/-- One member or a range. A hyphen before the closing bracket or before another hyphen does
not make a range. -/
def readMembers (flags : Flags) (cs : List Char) : Option (CharSet × List Char) := do
  let (first, rest) ← readSymbol flags cs
  let rest := flags.skip rest
  let single := (first.members? flags).map (·, rest)
  match rest with
  | '-' :: after =>
    if flags.peek after = some ']' ∨ flags.peek after = some '-' then single
    else
      let (last, rest) ← readSymbol flags (flags.skip after)
      let _ ← first.members? flags
      let _ ← last.members? flags
      match first, last with
      | .char first _, .char last _ =>
        if last < first then none else some (.range first last, rest)
      | _, _ => none
  | _ => single

/-- The bracket with further members. -/
def add (bracket : Bracket) (members : CharSet) (height : Nat) : Bracket :=
  { bracket with
    members := bracket.members.union members
    count := bracket.count + 1
    height := max bracket.height height
    atFront := false }

/-- What was read so far; several members are one step higher than the highest of them. -/
def value (flags : Flags) (bracket : Bracket) : Bracketed :=
  let height := if bracket.count ≤ 1 then bracket.height else bracket.height + 1
  match bracket.left with
  | none => ⟨bracket.members, height⟩
  | some (left, operation) =>
    ⟨operation.apply (flags.closeCase left.set) (flags.closeCase bracket.members),
      max left.height height + 1⟩

/-- The bracket after the sign of an operation. -/
def operate (flags : Flags) (bracket : Bracket) (operation : SetOperation) : Bracket where
  negated := bracket.negated
  left := some (bracket.value flags, operation)
  atFront := false

/-- The set of a bracket that is closed. Without Unicode it can only hold characters of
ASCII. -/
def close? (flags : Flags) (bracket : Bracket) : Option Bracketed :=
  let value := bracket.value flags
  let set := flags.closeCase value.set
  let set := if bracket.negated then set.complement else set
  if !flags.contains .unicode && set.contains '\x80' then none
  else some ⟨set, value.height + 1⟩

/-- A bracket after its opening. -/
def openAt (flags : Flags) (cs : List Char) : Bracket × List Char :=
  match flags.skip cs with
  | '^' :: rest => (⟨true, none, .empty, 0, 0, true⟩, rest)
  | rest => (⟨false, none, .empty, 0, 0, true⟩, rest)

/-- Read on in a bracket and those around it, the innermost of which comes first, up to the
end of the outermost one. At the front hyphens, or else a closing bracket, are members. -/
def read (flags : Flags) :
    Nat → Bracket → List Bracket → List Char → Option (Bracketed × List Char)
  | 0, _, _, _ => none
  | fuel + 1, bracket, around, cs =>
    let operate (operation : SetOperation) (rest : List Char) :=
      read flags fuel (bracket.operate flags operation) around rest
    match flags.skip cs with
    | [] => none
    | '-' :: rest =>
      if bracket.atFront then
        match Symbol.members? flags (.char '-' false) with
        | some set => read flags fuel { bracket.add set 0 with atFront := true } around rest
        | none => none
      else if rest.head? = some '-' then operate .difference (rest.drop 1)
      else
        match readMembers flags ('-' :: rest) with
        | some (set, rest) => read flags fuel (bracket.add set 0) around rest
        | none => none
    | '&' :: '&' :: rest => operate .intersection rest
    | '~' :: '~' :: rest => operate .symmetricDifference rest
    | '[' :: rest =>
      match readClass rest with
      | some ((set, negated), rest) =>
        match classMembers? flags set negated with
        | some set => read flags fuel (bracket.add set 0) around rest
        | none => none
      | none =>
        let (inner, rest) := openAt flags rest
        read flags fuel inner (bracket :: around) rest
    | ']' :: rest =>
      if bracket.atFront && bracket.count = 0 then
        match Symbol.members? flags (.char ']' false) with
        | some set => read flags fuel (bracket.add set 0) around rest
        | none => none
      else
        match bracket.close? flags, around with
        | none, _ => none
        | some closed, [] => some (closed, rest)
        | some closed, outer :: around =>
          read flags fuel (outer.add closed.set closed.height) around rest
    | cs =>
      match readMembers flags cs with
      | some (set, rest) => read flags fuel (bracket.add set 0) around rest
      | none => none

end Bracket

/-- A set after its opening bracket. Each step reads a character at least. -/
def Bracketed.read (flags : Flags) (cs : List Char) : Option (Bracketed × List Char) :=
  let (bracket, rest) := Bracket.openAt flags cs
  Bracket.read flags (rest.length + 1) bracket [] rest

end EmacsBatch.Text
