import EmacsBatch.Text.Pattern

/-!
# Automata of patterns

A text is read by an automaton, all ways to go on at once and the preferred ones first. A
match may start at every byte, an earlier one being preferred, and has to go to the end of
the text. Once the preferred way has come to an end the others are given up, even if only
they could go on to the end of the text: `a|ab` does not match the text `ab`, but `b|ab`
does.

Between two bytes both of them decide which points are passed. There each node is explored
only once, by the most preferred way that gets to it, so the work is bounded by the size of
the pattern times that of the text.
-/

namespace EmacsBatch.Text

/-- A byte of a text. -/
structure Cell where
  /-- The character that begins with the byte. -/
  char : Option Char
  /-- Whether the byte is the last one of its character. -/
  last : Bool
  deriving DecidableEq

namespace Cell

/-- The bytes of a character. -/
def ofChar (c : Char) : List Cell :=
  (List.range c.utf8Size).map fun i => ⟨if i = 0 then some c else none, i + 1 = c.utf8Size⟩

/-- The bytes of a text. -/
def ofText (text : String) : List Cell := text.toList.flatMap ofChar

/-- Whether a byte that may be missing is a character of its own. -/
def isChar (cell : Option Cell) (c : Char) : Bool := cell.bind Cell.char = some c

/-- Whether a byte that may be missing belongs to a word. Words are made of ASCII. -/
def inWord (cell : Option Cell) : Bool :=
  (cell.bind Cell.char).any fun c => c.isAlphanum || c = '_'

end Cell

/-- Whether a point is passed between two bytes, either of which may be missing. -/
def Point.isPassed (before after : Option Cell) : Point → Bool
  | .textStart => before.isNone
  | .textEnd => after.isNone
  | .lineStart => before.isNone || Cell.isChar before '\n'
  | .lineEnd => after.isNone || Cell.isChar after '\n'
  | .returnStart =>
    before.isNone || Cell.isChar before '\n'
      || (Cell.isChar before '\r' && !Cell.isChar after '\n')
  | .returnEnd =>
    after.isNone || Cell.isChar after '\r'
      || (Cell.isChar after '\n' && !Cell.isChar before '\r')
  | .wordEdge => Cell.inWord before != Cell.inWord after
  | .notWordEdge => Cell.inWord before == Cell.inWord after
  | .wordStart => !Cell.inWord before && Cell.inWord after
  | .wordEnd => Cell.inWord before && !Cell.inWord after

/-- A node of an automaton, with the numbers of those that follow it. -/
inductive Node where
  /-- A dead end. -/
  | stop
  /-- A character of a set is read. -/
  | read (set : CharSet) (next : Nat)
  /-- Any byte is read. -/
  | skip (next : Nat)
  /-- A point is passed. -/
  | point (point : Point) (next : Nat)
  | pass (next : Nat)
  /-- Two ways, the first of which is preferred. -/
  | fork (first second : Nat)
  /-- The end of the pattern. -/
  | accept
  deriving DecidableEq

/-- The nodes of an automaton; reading starts at the first one. -/
structure Automaton where
  nodes : Array Node

/-- One way to go on. -/
inductive Thread where
  /-- A node is next. -/
  | ready (node : Nat)
  /-- A node is next once the character that is being read is complete. -/
  | waiting (node : Nat)
  deriving DecidableEq

/-- The nodes that have been reached between two bytes, and the ways to go on from there,
the preferred ones last. -/
structure Reached where
  marks : Array Bool
  threads : List Thread

namespace Automaton

/-- A fork between going on in a loop and leaving it. -/
def loopFork (greedy : Bool) (inner outer : Nat) : Node :=
  if greedy then .fork inner outer else .fork outer inner

/-- The nodes with those of a pattern, which starts at a certain one and is followed by
another one.

A loop comes back to its own start. But if its body can be passed without a character, each
node of the body is reached only once, and so the loop has a fork of its own after its
rounds: there the way out is preferred as the body is passed, and not only after all of the
body was entered. -/
def fill (nodes : Array Node) (start next : Nat) : Pattern → Array Node
  | .empty => nodes.setIfInBounds start (.pass next)
  | .one set => nodes.setIfInBounds start (.read set next)
  | .point point => nodes.setIfInBounds start (.point point next)
  | .group _ body => fill nodes start next body
  | .seq first second =>
    let middle := nodes.size
    fill (fill (nodes.push .stop) start middle first) middle next second
  | .choice first second =>
    let left := nodes.size
    let right := left + 1
    let nodes := ((nodes.push .stop).push .stop).setIfInBounds start (.fork left right)
    fill (fill nodes left next first) right next second
  | .loop rounds greedy body =>
    let inner := nodes.size
    let again := inner + 1
    let nodes := (nodes.push .stop).push .stop
    match rounds with
    | .atMostOne =>
      fill (nodes.setIfInBounds start (loopFork greedy inner next)) inner next body
    | .atLeastOne =>
      fill (nodes.setIfInBounds again (loopFork greedy start next)) start again body
    | .any =>
      let nodes := nodes.setIfInBounds start (loopFork greedy inner next)
      if body.readsSomething then fill nodes inner start body
      else fill (nodes.setIfInBounds again (loopFork greedy inner next)) inner again body

/-- The automaton of a pattern. Its first three nodes pass over what stands before a match,
and the fourth is the only one that accepts. -/
def ofPattern (pattern : Pattern) : Automaton :=
  ⟨fill #[.fork 1 2, .stop, .skip 0, .accept] 1 3 pattern⟩

/-- The node of a number. -/
def node (automaton : Automaton) (number : Nat) : Node :=
  automaton.nodes[number]?.getD .stop

/-- Explore the nodes on a stack, and all that follow them without a byte being read, where
some points are passed. Those that read or accept are the ways to go on. -/
def explore (automaton : Automaton) (isPassed : Point → Bool) :
    Nat → List Nat → Reached → Reached
  | 0, _, reached | _, [], reached => reached
  | fuel + 1, number :: stack, reached =>
    if reached.marks.getD number true then explore automaton isPassed fuel stack reached
    else
      let reached := { reached with marks := reached.marks.setIfInBounds number true }
      match automaton.node number with
      | .stop => explore automaton isPassed fuel stack reached
      | .pass next => explore automaton isPassed fuel (next :: stack) reached
      | .point point next =>
        let stack := if isPassed point then next :: stack else stack
        explore automaton isPassed fuel stack reached
      | .fork first second =>
        explore automaton isPassed fuel (first :: second :: stack) reached
      | .read _ _ | .skip _ | .accept =>
        let reached := { reached with threads := .ready number :: reached.threads }
        explore automaton isPassed fuel stack reached

/-- The ways to go on from some threads between two bytes. No node is explored twice, and
each puts two others on the stack at most. -/
def expand (automaton : Automaton) (before after : Option Cell) (threads : List Thread) :
    List Thread :=
  let fuel := 2 * automaton.nodes.size + 1
  let step (reached : Reached) : Thread → Reached
    | .ready number => automaton.explore (Point.isPassed before after) fuel [number] reached
    | .waiting number => { reached with threads := .waiting number :: reached.threads }
  let unmarked : Reached := ⟨Array.replicate automaton.nodes.size false, []⟩
  (threads.foldl step unmarked).threads.reverse

/-- Whether a thread has come to the end of the pattern. -/
def isAccepting (automaton : Automaton) : Thread → Bool
  | .ready number => decide (automaton.node number = .accept)
  | .waiting _ => false

/-- What becomes of a thread with one more byte. -/
def follow? (automaton : Automaton) (cell : Cell) : Thread → Option Thread
  | .waiting number => some (if cell.last then .ready number else .waiting number)
  | .ready number =>
    match automaton.node number with
    | .read set next =>
      if !cell.char.any set.contains then none
      else some (if cell.last then .ready next else .waiting next)
    | .skip next => some (.ready next)
    | _ => none

/-- The threads after one more byte. Those after one that has come to the end of the pattern
are given up. -/
def advance (automaton : Automaton) (cell : Cell) (threads : List Thread) : List Thread :=
  (threads.takeWhile fun thread => !automaton.isAccepting thread).filterMap
    (automaton.follow? cell)

/-- Whether a thread gets to the end of the pattern with the rest of a text. -/
def accepts (automaton : Automaton) (before : Option Cell) (threads : List Thread) :
    List Cell → Bool
  | [] => (automaton.expand before none threads).any automaton.isAccepting
  | cell :: rest =>
    let threads := automaton.expand before (some cell) threads
    automaton.accepts (some cell) (automaton.advance cell threads) rest

end Automaton

/-- Whether a pattern matches a text to its end. -/
def Pattern.fits (pattern : Pattern) (text : String) : Bool :=
  let automaton := Automaton.ofPattern pattern
  automaton.accepts none [.ready 0] (Cell.ofText text)

end EmacsBatch.Text
