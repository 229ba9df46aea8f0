import EmacsBatch.Text.Lowercase.Table

/-!
# Lowercase

The full lowercase mapping of a text. Two capitals need more than the table: U+0130
becomes two characters, and a capital sigma takes its final form where it ends a word.
-/

namespace EmacsBatch.Text.Lowercase

/-- The mapping that a run of the table gives to one code point. -/
def Run.target? (run : Run) (n : Nat) : Option Nat :=
  if run.first ≤ n ∧ n ≤ run.last ∧ (n - run.first) % run.step = 0 then
    some (run.target + (n - run.first))
  else none

/-- The one-character lowercase form. -/
def char (c : Char) : Char :=
  if c.toNat < 0x80 then
    if 'A' ≤ c ∧ c ≤ 'Z' then Char.ofNat (c.toNat + 0x20) else c
  else match runs.findSome? (·.target? c.toNat) with
    | some n => Char.ofNat n
    | none => c

/-- Whether the first character that is not passed over has a case. -/
def meetsCased (cs : List Char) : Bool :=
  match cs.dropWhile caseIgnorable.contains with
  | [] => false
  | c :: _ => cased.contains c

/-- The lowercase form of a character between those before it, nearest first, and those
after it. -/
def charBetween (before : List Char) (c : Char) (after : List Char) : List Char :=
  if c.toNat = 0x130 then ['i', Char.ofNat 0x307]
  else if c.toNat = 0x3A3 then
    if meetsCased before && !meetsCased after then [Char.ofNat 0x3C2] else [Char.ofNat 0x3C3]
  else [char c]

/-- The lowercase form of a row of characters that follows those in `before`, nearest
first. -/
def charsAfter (before : List Char) : List Char → List Char
  | [] => []
  | c :: rest => charBetween before c rest ++ charsAfter (c :: before) rest

end Lowercase

/-- The lowercase form of a text. -/
def lowercase (s : String) : String := String.ofList (Lowercase.charsAfter [] s.toList)

namespace Lowercase

set_option maxRecDepth 2000 in
/-- The lowercase forms of ASCII characters are the library's. -/
theorem char_of_ascii {c : Char} (h : c.toNat < 0x80) : char c = c.toLower := by
  have all : ∀ n < 0x80, char (Char.ofNat n) = (Char.ofNat n).toLower := by decide
  rw [← Char.ofNat_toNat c]
  exact all c.toNat h

/-- ASCII characters are made lowercase one by one, whatever stands around them. -/
theorem charsAfter_of_ascii {cs : List Char} (h : ∀ c ∈ cs, c.toNat < 0x80)
    (before : List Char) : charsAfter before cs = cs.map Char.toLower := by
  induction cs generalizing before with
  | nil => rfl
  | cons c rest ih =>
    obtain ⟨hc, hrest⟩ := List.forall_mem_cons.1 h
    rw [charsAfter, charBetween, if_neg (by omega), if_neg (by omega), char_of_ascii hc,
      ih hrest (c :: before)]
    rfl

end Lowercase

/-- The library makes characters lowercase one by one. -/
theorem toList_toLower (s : String) : s.toLower.toList = s.toList.map Char.toLower :=
  String.toList_map

/-- The lowercase form of an ASCII text is the library's. -/
theorem lowercase_of_ascii {s : String} (h : ∀ c ∈ s.toList, c.toNat < 0x80) :
    lowercase s = s.toLower := by
  rw [lowercase, Lowercase.charsAfter_of_ascii h, ← toList_toLower, String.ofList_toList]

/-- A character whose lowercase form in the library is ASCII is ASCII itself. -/
theorem toNat_lt_of_toLower {c : Char} (h : c.toLower.toNat < 0x80) : c.toNat < 0x80 := by
  by_cases hc : c.val ≥ 'A'.val ∧ c.val ≤ 'Z'.val
  · have hle : c.toNat ≤ 'Z'.toNat := hc.2
    exact Nat.lt_of_le_of_lt hle (by decide)
  · have hself : c.toLower = c := dif_neg hc
    rwa [hself] at h

/-- A text that spells an ASCII word up to the case of ASCII letters has this word as its
lowercase form. -/
theorem lowercase_of_toLower_eq {s word : String} (h : s.toLower = word)
    (ascii : ∀ c ∈ word.toList, c.toNat < 0x80) : lowercase s = word := by
  rw [← h]
  apply lowercase_of_ascii
  intro c hc
  apply toNat_lt_of_toLower
  apply ascii
  rw [← h, toList_toLower]
  exact List.mem_map_of_mem hc

end EmacsBatch.Text
