import EmacsBatch.Proofs.FileNames
import EmacsBatch.CommandLine.Spelling

/-!
# The forms of a word

A word of a command line has one of four forms, and from its form the word can be written
again. The names and letters that a command knows are written in one way each.
-/

namespace EmacsBatch.CommandLine

/-- The word that has a form. -/
def Word.bytes : Word → Bytes
  | .endOfOptions => longWord ""
  | .named name none => hyphen :: hyphen :: name
  | .named name (some value) => hyphen :: hyphen :: (name ++ equals :: value)
  | .letters row => hyphen :: row
  | .other word => word

/-- A name with a value is the part before the first separator. -/
theorem splitOnce_of_some {separator : UInt8} {bytes value : Bytes}
    (h : (Bytes.splitOnce separator bytes).2 = some value) :
    (Bytes.splitOnce separator bytes).1 ++ separator :: value = bytes := by
  induction bytes with
  | nil => cases h
  | cons byte rest ih =>
    rw [Bytes.splitOnce] at h ⊢
    split
    · next hbyte =>
      simp only [hbyte, if_true, Option.some.injEq] at h
      rw [hbyte, ← h]
      rfl
    · next hbyte =>
      simp only [hbyte, if_false] at h
      exact congrArg (byte :: ·) (ih h)

/-- A part without the separator ends at the separator. -/
theorem splitOnce_append {separator : UInt8} {name : Bytes} (h : separator ∉ name)
    (value : Bytes) : Bytes.splitOnce separator (name ++ separator :: value) =
      (name, some value) := by
  induction name with
  | nil => simp [Bytes.splitOnce]
  | cons byte rest ih =>
    simp only [List.mem_cons, not_or] at h
    simp [Bytes.splitOnce, Ne.symm h.1, ih h.2]

/-- Without the separator, all is before it. -/
theorem splitOnce_of_not_mem {separator : UInt8} {name : Bytes} (h : separator ∉ name) :
    Bytes.splitOnce separator name = (name, none) := by
  induction name with
  | nil => rfl
  | cons byte rest ih =>
    simp only [List.mem_cons, not_or] at h
    simp [Bytes.splitOnce, Ne.symm h.1, ih h.2]

/-- The form of a word says how the word is written. -/
theorem Word.bytes_ofBytes (word : Bytes) : (Word.ofBytes word).bytes = word := by
  unfold Word.ofBytes
  split
  · next first second rest =>
    split
    · rfl
    · next hfirst =>
      obtain rfl : first = hyphen := by simpa using hfirst
      split
      · rfl
      · next hsecond =>
        obtain rfl : second = hyphen := by simpa using hsecond
        split
        · next hrest =>
          rw [hrest]
          rfl
        · cases hvalue : (Bytes.splitOnce equals rest).2 with
          | none => simp only [hvalue, bytes, splitOnce_fst hvalue]
          | some value => simp only [hvalue, bytes, splitOnce_of_some hvalue]
  · rfl

/-- A word with none of the other forms is a file or a value. -/
theorem Word.isPlain_of_other {word inner : Bytes} (h : Word.ofBytes word = .other inner) :
    IsPlain inner := by
  obtain rfl : inner = word := by simpa [h, Word.bytes] using Word.bytes_ofBytes word
  by_cases hhead : inner.head? = some hyphen
  · right
    match inner, hhead with
    | [first], hhead => simpa using hhead
    | first :: second :: rest, hhead =>
      obtain rfl : first = hyphen := by simpa using hhead
      simp only [Word.ofBytes, ne_eq, not_true_eq_false, if_false] at h
      split at h
      · cases h
      · split at h <;> cases h
  · exact .inl hhead

/-- Letters are written after one hyphen, and there is at least one, which is no hyphen. -/
theorem Word.exists_letterWord_of_letters {word row : Bytes}
    (h : Word.ofBytes word = .letters row) :
    ∃ letter rest, letter ≠ hyphen ∧ row = letter :: rest ∧ word = letterWord letter rest := by
  have hbytes : hyphen :: row = word := by
    have hword := Word.bytes_ofBytes word
    rwa [h] at hword
  subst hbytes
  cases row with
  | nil => cases h
  | cons letter rest =>
    refine ⟨letter, rest, ?_, rfl, rfl⟩
    rintro rfl
    simp only [Word.ofBytes, ne_eq, not_true_eq_false, if_false] at h
    split at h <;> cases h

/-- A file or a value is read as one. -/
theorem Word.ofBytes_of_isPlain {word : Bytes} (h : IsPlain word) :
    Word.ofBytes word = .other word := by
  rcases h with h | rfl
  · exact Word.ofBytes_of_ne_hyphen h
  · rfl

/-- A name after two hyphens is read as that name. -/
theorem Word.ofBytes_longWord {name : String} (hname : Utf8.encode name ≠ [])
    (h : equals ∉ Utf8.encode name) :
    Word.ofBytes (longWord name) = .named (Utf8.encode name) none := by
  simp [longWord, Word.ofBytes, hname, splitOnce_of_not_mem h]

/-- A name after two hyphens is read with the value that is attached to it. -/
theorem Word.ofBytes_attached {name : String} (h : equals ∉ Utf8.encode name) (value : Bytes) :
    Word.ofBytes (longWord name ++ equals :: value) =
      .named (Utf8.encode name) (some value) := by
  simp [longWord, Word.ofBytes, splitOnce_append h]

/-- A letter after one hyphen is read with the letters that follow. -/
theorem Word.ofBytes_letterWord {letter : UInt8} (h : letter ≠ hyphen) (rest : Bytes) :
    Word.ofBytes (letterWord letter rest) = .letters (letter :: rest) := by
  simp [letterWord, Word.ofBytes, h]

/-- A setting has a name without an equals sign. -/
theorem Setting.equals_not_mem_name (setting : Setting) : equals ∉ Utf8.encode setting.name := by
  cases setting <;> decide

/-- A setting has a name. -/
theorem Setting.encode_name_ne_nil (setting : Setting) : Utf8.encode setting.name ≠ [] := by
  cases setting <;> decide

/-- Every command knows the settings by their names. -/
theorem Shape.named?_setting (shape : Shape) (setting : Setting) :
    shape.named? (Utf8.encode setting.name) = some (.inl setting) := by
  cases setting <;> rfl

/-- Every command knows the verbose flag by its name. -/
theorem Shape.named?_verbose (shape : Shape) :
    shape.named? (Utf8.encode Switch.verbose.name) = some (.inr .verbose) := by
  rfl

/-- What a command knows by a name has that name. -/
theorem Shape.name_of_named? {shape : Shape} {name : Bytes} {known : Setting ⊕ Switch}
    (h : shape.named? name = some known) :
    name = Utf8.encode (known.elim Setting.name Switch.name) := by
  rw [named?] at h
  cases hsetting : Setting.all.find? fun setting => Utf8.encode setting.name = name with
  | some setting =>
    rw [hsetting] at h
    cases h
    simpa [eq_comm] using List.find?_some hsetting
  | none =>
    rw [hsetting] at h
    obtain ⟨switch, hswitch, rfl⟩ := Option.map_eq_some_iff.1 h
    simpa [eq_comm] using List.find?_some hswitch

/-- A flag that a command knows by a name is one of its flags. -/
theorem Shape.mem_switches_of_named? {shape : Shape} {name : Bytes} {switch : Switch}
    (h : shape.named? name = some (.inr switch)) : switch ∈ shape.switches := by
  rw [named?] at h
  cases hsetting : Setting.all.find? fun setting => Utf8.encode setting.name = name with
  | some setting =>
    rw [hsetting] at h
    cases h
  | none =>
    rw [hsetting] at h
    obtain ⟨found, hfound, heq⟩ := Option.map_eq_some_iff.1 h
    cases heq
    exact List.mem_of_find?_eq_some hfound

/-- The flag that a command knows by a letter has that letter, and the command has it. -/
theorem Shape.of_lettered? {shape : Shape} {letter : UInt8} {switch : Switch}
    (h : shape.lettered? letter = some switch) :
    switch ∈ shape.switches ∧ switch.letter? = some letter :=
  ⟨List.mem_of_find?_eq_some h, by simpa using List.find?_some h⟩

end EmacsBatch.CommandLine
