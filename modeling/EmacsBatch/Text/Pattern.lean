import EmacsBatch.Text.CharSet

/-!
# Patterns

Regular expressions. Of two ways to read on a pattern prefers one: the first of two
choices, and more or fewer rounds of a loop. Patterns are put together by `concat` and
`alternation`, which give them one shape: nothing empty in a sequence, no sequence within a
sequence, no choice within a choice, and no choice between sets.
-/

namespace EmacsBatch.Text

/-- A point between two bytes of a text, by what stands before and after it. -/
inductive Point where
  | textStart
  | textEnd
  /-- After a line feed, or at the start of the text. -/
  | lineStart
  /-- Before a line feed, or at the end of the text. -/
  | lineEnd
  /-- After a carriage return, a line feed or both together, or at the start of the text. -/
  | returnStart
  /-- Before a carriage return, a line feed or both together, or at the end of the text. -/
  | returnEnd
  /-- Between the inside and the outside of a word. -/
  | wordEdge
  /-- Within a word, or away from all words. -/
  | notWordEdge
  | wordStart
  | wordEnd
  deriving DecidableEq

/-- Whether a point has to do with words. -/
def Point.isOfWords : Point → Bool
  | .wordEdge | .notWordEdge | .wordStart | .wordEnd => true
  | _ => false

/-- How often the body of a loop is read. -/
inductive Rounds where
  | atMostOne
  | any
  | atLeastOne
  deriving DecidableEq

/-- A regular expression. -/
inductive Pattern where
  /-- The empty text. -/
  | empty
  /-- One character of a set. -/
  | one (set : CharSet)
  /-- The empty text at a point. -/
  | point (point : Point)
  | seq (first second : Pattern)
  /-- Either of two patterns, preferably the first. -/
  | choice (first second : Pattern)
  /-- Repetition, preferably often if it is greedy, and seldom otherwise. -/
  | loop (rounds : Rounds) (greedy : Bool) (body : Pattern)
  /-- A pattern whose text is remembered under a number, which no other part has. -/
  | group (number : Nat) (body : Pattern)
  deriving DecidableEq

namespace Pattern

/-- The members of a sequence. -/
def parts : Pattern → List Pattern
  | .empty => []
  | .seq first second => first :: second.parts
  | pattern => [pattern]

/-- The members of a choice. -/
def branches : Pattern → List Pattern
  | .choice first second => first :: second.branches
  | pattern => [pattern]

/-- The sequence of some members. -/
def ofParts : List Pattern → Pattern
  | [] => .empty
  | [pattern] => pattern
  | first :: rest => .seq first (ofParts rest)

/-- The choice between some members; there is no way to read none. -/
def ofBranches : List Pattern → Pattern
  | [] => .one .empty
  | [pattern] => pattern
  | first :: rest => .choice first (ofBranches rest)

/-- The set of a pattern that reads one character. -/
def set? : Pattern → Option CharSet
  | .one set => some set
  | _ => none

/-- The choice between some members, which is a set if each of them is one. -/
def choose (members : List Pattern) : Pattern :=
  match members.mapM set? with
  | some sets => .one (sets.foldl CharSet.union .empty)
  | none => ofBranches members

/-- One pattern after another. -/
def concat (patterns : List Pattern) : Pattern := ofParts (patterns.flatMap parts)

/-- The longest common beginning of two lists. -/
def commonFront : List Pattern → List Pattern → List Pattern
  | x :: xs, y :: ys => if x = y then x :: commonFront xs ys else []
  | _, _ => []

/-- The members with which several sequences begin; a single member is no sequence. -/
def sharedFront : List (List Pattern) → List Pattern
  | [] | [_] => []
  | first :: rest =>
    if (first :: rest).any (·.length < 2) then [] else rest.foldl commonFront first

/-- A choice between patterns. A common beginning is read before the choice is made, so that
there a branch is not preferred to a later one. -/
def alternation (patterns : List Pattern) : Pattern :=
  let members := patterns.flatMap branches
  let shared := sharedFront (members.map parts)
  if shared = [] then choose members
  else
    let rests := members.map fun member => ofParts (member.parts.drop shared.length)
    concat (shared ++ [choose (rests.flatMap branches)])

/-- Whether there is nothing but points to read. -/
def readsNothing : Pattern → Bool
  | .empty | .point _ => true
  | .one _ => false
  | .seq first second | .choice first second => first.readsNothing && second.readsNothing
  | .loop _ _ body | .group _ body => body.readsNothing

/-- Whether there is always a character to read. -/
def readsSomething : Pattern → Bool
  | .empty | .point _ => false
  | .one _ => true
  | .seq first second => first.readsSomething || second.readsSomething
  | .choice first second => first.readsSomething && second.readsSomething
  | .loop rounds _ body => decide (rounds = .atLeastOne) && body.readsSomething
  | .group _ body => body.readsSomething

/-- A pattern read several times. Where there is nothing to read, one round is enough. -/
def repeated (rounds : Rounds) (greedy : Bool) (body : Pattern) : Pattern :=
  if body.readsNothing then
    if rounds = .atLeastOne then body else .loop .atMostOne greedy body
  else .loop rounds greedy body

end Pattern

end EmacsBatch.Text
