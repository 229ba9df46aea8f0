/-!
# Sets of characters

All characters stand in one row without a gap, and a set is given by the places in that row
at which membership changes. A set has only one such form, and two sets are combined by a
walk along both: `contains_combine` says that what is combined is membership.
-/

namespace EmacsBatch.Text

/-- The place of a character in the row of all characters, which leaves out the code points
that are no characters. -/
def place (c : Char) : Nat := if c.toNat < 0xD800 then c.toNat else c.toNat - 0x800

/-- Membership at a place, given membership at the front of the row and the places where it
changes. -/
def inside (now : Bool) : List Nat → Nat → Bool
  | [], _ => now
  | change :: changes, n => if n < change then now else inside (!now) changes n

/-- The changes from a place on, which is one of them only if the outcome changes there. -/
def changeAt (n : Nat) (before after : Bool) (rest : List Nat) : List Nat :=
  if after = before then rest else n :: rest

/-- The changes of two sets combined, given membership in both at the front of the row. -/
def mergeChanges (op : Bool → Bool → Bool) (a b : Bool) : List Nat → List Nat → List Nat
  | [], [] => []
  | x :: xs, [] => changeAt x (op a b) (op (!a) b) (mergeChanges op (!a) b xs [])
  | [], y :: ys => changeAt y (op a b) (op a (!b)) (mergeChanges op a (!b) [] ys)
  | x :: xs, y :: ys =>
    if x < y then changeAt x (op a b) (op (!a) b) (mergeChanges op (!a) b xs (y :: ys))
    else if y < x then changeAt y (op a b) (op a (!b)) (mergeChanges op a (!b) (x :: xs) ys)
    else changeAt x (op a b) (op (!a) (!b)) (mergeChanges op (!a) (!b) xs ys)
termination_by xs ys => xs.length + ys.length

/-- A combination changes only where one of its parts does. -/
theorem mem_mergeChanges {op : Bool → Bool → Bool} {a b : Bool} {xs ys : List Nat} {z : Nat}
    (h : z ∈ mergeChanges op a b xs ys) : z ∈ xs ∨ z ∈ ys := by
  fun_induction mergeChanges op a b xs ys <;> grind [changeAt]

/-- The changes of a combination are in order. -/
theorem pairwise_mergeChanges {op : Bool → Bool → Bool} {a b : Bool} {xs ys : List Nat}
    (hx : xs.Pairwise (· < ·)) (hy : ys.Pairwise (· < ·)) :
    (mergeChanges op a b xs ys).Pairwise (· < ·) := by
  fun_induction mergeChanges op a b xs ys <;>
    grind [changeAt, List.pairwise_cons, → mem_mergeChanges]

/-- Before the first change nothing has changed. -/
theorem inside_eq_of_lt {now : Bool} {changes : List Nat} {n : Nat}
    (h : ∀ change ∈ changes, n < change) : inside now changes n = now := by
  cases changes with
  | nil => rfl
  | cons change changes => simp [inside, h change List.mem_cons_self]

/-- From a change on, the outcome after it counts. -/
theorem inside_changeAt {before after : Bool} {spot n : Nat} {rest : List Nat}
    (h : n < spot → ∀ change ∈ rest, n < change) :
    inside before (changeAt spot before after rest) n =
      if n < spot then before else inside after rest n := by
  cases before <;> cases after <;> grind [changeAt, inside, inside_eq_of_lt]

/-- What holds at a place of a combination is the combination of what holds there. -/
theorem inside_mergeChanges {op : Bool → Bool → Bool} {a b : Bool} {xs ys : List Nat}
    (hx : xs.Pairwise (· < ·)) (hy : ys.Pairwise (· < ·)) (n : Nat) :
    inside (op a b) (mergeChanges op a b xs ys) n = op (inside a xs n) (inside b ys n) := by
  fun_induction mergeChanges op a b xs ys with
  | case1 a b => rfl
  | _ =>
    rw [inside_changeAt (by grind [List.pairwise_cons, → mem_mergeChanges])]
    grind [List.pairwise_cons, inside, inside_eq_of_lt]

/-- A set of characters: the places where membership changes, in order. -/
structure CharSet where
  changes : List Nat
  ascending : changes.Pairwise (· < ·) := by decide
  deriving DecidableEq

namespace CharSet

/-- Whether a character is in the set. -/
def contains (set : CharSet) (c : Char) : Bool := inside false set.changes (place c)

/-- The set without characters. -/
def empty : CharSet where
  changes := []

/-- The set of all characters. -/
def all : CharSet where
  changes := [0]

/-- The characters from one to another one, both included. -/
def range (first last : Char) : CharSet :=
  if h : place first ≤ place last then
    ⟨[place first, place last + 1], List.pairwise_pair.2 (Nat.lt_succ_of_le h)⟩
  else empty

/-- The set of one character. -/
def single (c : Char) : CharSet := range c c

/-- The characters for which the combination of membership in two sets holds; where there is
no member of either, it does not. -/
def combine (op : Bool → Bool → Bool) (first second : CharSet) : CharSet :=
  ⟨mergeChanges op false false first.changes second.changes,
    pairwise_mergeChanges first.ascending second.ascending⟩

/-- Membership in a combination is the combination of membership. -/
theorem contains_combine {op : Bool → Bool → Bool} (h : op false false = false)
    (first second : CharSet) (c : Char) :
    (combine op first second).contains c = op (first.contains c) (second.contains c) := by
  have := @inside_mergeChanges op false false _ _ first.ascending second.ascending (place c)
  rwa [h] at this

/-- The characters of either set. -/
def union : CharSet → CharSet → CharSet := combine (· || ·)

/-- The characters of both sets. -/
def intersection : CharSet → CharSet → CharSet := combine (· && ·)

/-- The characters of the first set that are not in the second one. -/
def difference : CharSet → CharSet → CharSet := combine fun a b => a && !b

/-- The characters of exactly one of two sets. -/
def symmetricDifference : CharSet → CharSet → CharSet := combine (· ^^ ·)

/-- The characters that are not in a set. -/
def complement (set : CharSet) : CharSet := difference all set

/-- The characters of some ranges. -/
def ofRanges (ranges : List (Char × Char)) : CharSet :=
  ranges.foldl (fun set part => union set (range part.1 part.2)) empty

/-- A character is in a range exactly when its place is between those of the two ends. -/
theorem contains_range (first last c : Char) :
    (range first last).contains c =
      decide (place first ≤ place c ∧ place c ≤ place last) := by
  unfold range
  split <;> simp only [contains, inside, empty] <;> grind

/-- A character is in the complement exactly when it is not in the set. -/
theorem contains_complement (set : CharSet) (c : Char) :
    set.complement.contains c = !set.contains c := by
  have := @contains_combine (fun a b => a && !b) rfl all set c
  simpa [complement, difference, all, contains, inside] using this

end CharSet

end EmacsBatch.Text
