import EmacsBatch.Bytes.Utf8

/-!
# Round trips through UTF-8

Decoding a byte string gives a text exactly when the byte string is the text's encoding.
One half holds because the bytes of a character are read back as that character, whatever
follows them; the other because the pieces of a byte string hold all of its bytes.

The arithmetic of one character is done once for each number of bytes, in both directions.
-/

namespace EmacsBatch.Utf8

/-- A number below 256 is kept by a byte. -/
theorem toNat_toUInt8 {n : Nat} (h : n < 256) : n.toUInt8.toNat = n := by
  simp [Nat.toUInt8, Nat.mod_eq_of_lt h]

/-- The number of a byte makes that byte. -/
theorem toUInt8_eq {n : Nat} {byte : UInt8} (h : n = byte.toNat) : n.toUInt8 = byte := by
  subst h
  simp [Nat.toUInt8]

/-- A scalar value is kept by a character. -/
theorem toNat_ofNat {n : Nat} (h : n < 0xD800 ∨ 0xDFFF < n ∧ n < 0x110000) :
    (Char.ofNat n).toNat = n := by
  rw [Char.ofNat, dif_pos h]
  rfl

/-! ## Reading one character -/

/-- A byte below 0x80 is a character. -/
theorem pieces_one {a : UInt8} (rest : Bytes) (h : a.toNat < 0x80) :
    pieces (a :: rest) = .char (Char.ofNat a.toNat) :: pieces rest := by
  rw [pieces, if_pos h]

/-- A leading byte that announces one byte, and that byte. -/
theorem pieces_two {a b : UInt8} (rest : Bytes) {low high : Nat} (ha : 0x80 ≤ a.toNat)
    (hl : lead? a = some ⟨1, low, high⟩) (hb : low ≤ b.toNat ∧ b.toNat ≤ high) :
    pieces (a :: b :: rest) = .char (assemble (a.toNat % 0x20) [b]) :: pieces rest := by
  rw [pieces, if_neg (by omega), hl]
  simp only []
  rw [if_pos hb, if_pos trivial]

/-- A leading byte that announces two bytes, and those bytes. -/
theorem pieces_three {a b c : UInt8} (rest : Bytes) {low high : Nat} (ha : 0x80 ≤ a.toNat)
    (hl : lead? a = some ⟨2, low, high⟩) (hb : low ≤ b.toNat ∧ b.toNat ≤ high)
    (hc : isTail c = true) :
    pieces (a :: b :: c :: rest) = .char (assemble (a.toNat % 0x10) [b, c]) :: pieces rest := by
  rw [pieces, if_neg (by omega), hl]
  simp only []
  rw [if_pos hb, if_neg (by decide), if_pos hc, if_pos trivial]

/-- A leading byte that announces three bytes, and those bytes. -/
theorem pieces_four {a b c d : UInt8} (rest : Bytes) {low high : Nat} (ha : 0x80 ≤ a.toNat)
    (hl : lead? a = some ⟨3, low, high⟩) (hb : low ≤ b.toNat ∧ b.toNat ≤ high)
    (hc : isTail c = true) (hd : isTail d = true) :
    pieces (a :: b :: c :: d :: rest) =
      .char (assemble (a.toNat % 0x08) [b, c, d]) :: pieces rest := by
  rw [pieces, if_neg (by omega), hl]
  simp only []
  rw [if_pos hb, if_neg (by decide), if_pos hc, if_neg (by decide), if_pos hd]

/-- The bytes of a character are read back as that character, whatever follows them. -/
theorem pieces_encodeChar (c : Char) (rest : Bytes) :
    pieces (encodeChar c ++ rest) = .char c :: pieces rest := by
  have hs : c.toNat < 0xD800 ∨ 0xDFFF < c.toNat ∧ c.toNat < 0x110000 := c.valid
  have hc : Char.ofNat c.toNat = c := Char.ofNat_toNat c
  generalize hn : c.toNat = n at hs hc
  simp only [encodeChar, hn]
  by_cases h1 : n < 0x80
  · have ha : n.toUInt8.toNat = n := toNat_toUInt8 (by omega)
    rw [if_pos h1, List.cons_append, List.nil_append, pieces_one _ (by omega), ha, hc]
  rw [if_neg h1]
  have ht (k : Nat) : (0x80 + k % 0x40).toUInt8.toNat = 0x80 + k % 0x40 :=
    toNat_toUInt8 (by omega)
  have hi (k : Nat) : isTail (0x80 + k % 0x40).toUInt8 = true := by
    simp only [isTail, ht, Bool.and_eq_true, decide_eq_true_eq]
    omega
  by_cases h2 : n < 0x800
  · have ha : (0xC0 + n / 0x40).toUInt8.toNat = 0xC0 + n / 0x40 := toNat_toUInt8 (by omega)
    have hl : lead? (0xC0 + n / 0x40).toUInt8 = some ⟨1, 0x80, 0xBF⟩ := by
      simp only [lead?, ha]
      rw [if_neg (by omega), if_pos (by omega)]
    have hv : (0xC0 + n / 0x40) % 0x20 * 0x40 + (0x80 + n % 0x40) % 0x40 = n := by omega
    rw [if_pos h2, List.cons_append, List.cons_append, List.nil_append,
      pieces_two rest (by omega) hl (by rw [ht]; omega), assemble]
    simp only [List.foldl_cons, List.foldl_nil, ha, ht, hv, hc]
  rw [if_neg h2]
  by_cases h3 : n < 0x10000
  · have ha : (0xE0 + n / 0x1000).toUInt8.toNat = 0xE0 + n / 0x1000 := toNat_toUInt8 (by omega)
    have hl : ∃ low high, lead? (0xE0 + n / 0x1000).toUInt8 = some ⟨2, low, high⟩ ∧
        low ≤ 0x80 + n / 0x40 % 0x40 ∧ 0x80 + n / 0x40 % 0x40 ≤ high := by
      simp only [lead?, ha]
      rw [if_neg (by omega), if_neg (by omega)]
      split
      · exact ⟨_, _, rfl, by omega⟩
      split
      · exact ⟨_, _, rfl, by omega⟩
      rw [if_pos (by omega)]
      exact ⟨_, _, rfl, by omega⟩
    obtain ⟨low, high, hl, hb⟩ := hl
    have hv : ((0xE0 + n / 0x1000) % 0x10 * 0x40 + (0x80 + n / 0x40 % 0x40) % 0x40) * 0x40
        + (0x80 + n % 0x40) % 0x40 = n := by omega
    rw [if_pos h3]
    simp only [List.cons_append, List.nil_append]
    rw [pieces_three rest (by omega) hl (by rw [ht]; exact hb) (hi n), assemble]
    simp only [List.foldl_cons, List.foldl_nil, ha, ht, hv, hc]
  rw [if_neg h3]
  have ha : (0xF0 + n / 0x40000).toUInt8.toNat = 0xF0 + n / 0x40000 := toNat_toUInt8 (by omega)
  have hl : ∃ low high, lead? (0xF0 + n / 0x40000).toUInt8 = some ⟨3, low, high⟩ ∧
      low ≤ 0x80 + n / 0x1000 % 0x40 ∧ 0x80 + n / 0x1000 % 0x40 ≤ high := by
    simp only [lead?, ha]
    rw [if_neg (by omega), if_neg (by omega), if_neg (by omega), if_neg (by omega),
      if_neg (by omega)]
    split
    · exact ⟨_, _, rfl, by omega⟩
    split
    · exact ⟨_, _, rfl, by omega⟩
    rw [if_pos (by omega)]
    exact ⟨_, _, rfl, by omega⟩
  obtain ⟨low, high, hl, hb⟩ := hl
  have hv : (((0xF0 + n / 0x40000) % 0x08 * 0x40 + (0x80 + n / 0x1000 % 0x40) % 0x40) * 0x40
      + (0x80 + n / 0x40 % 0x40) % 0x40) * 0x40 + (0x80 + n % 0x40) % 0x40 = n := by omega
  simp only [List.cons_append, List.nil_append]
  rw [pieces_four rest (by omega) hl (by rw [ht]; exact hb) (hi _) (hi n), assemble]
  simp only [List.foldl_cons, List.foldl_nil, ha, ht, hv, hc]

/-- The bytes of a row of characters are read back as those characters. -/
theorem pieces_encodeChars (cs : List Char) : pieces (encodeChars cs) = cs.map .char := by
  induction cs with
  | nil => rfl
  | cons c cs ih =>
    rw [encodeChars, List.flatMap_cons, pieces_encodeChar]
    exact congrArg _ ih

/-- All characters of a row of characters are characters. -/
theorem mapM_char?_map_char (cs : List Char) :
    (cs.map Piece.char).mapM Piece.char? = some cs := by
  induction cs with
  | nil => rfl
  | cons c cs ih => simp [Piece.char?, ih]

/-- A text is read back from its encoding. -/
@[simp]
theorem decode?_encode (s : String) : decode? (encode s) = some s := by
  rw [decode?, decodeChars?, encode, pieces_encodeChars, mapM_char?_map_char]
  simp

/-- Nothing is replaced in the encoding of a text. -/
@[simp]
theorem lossy_encode (s : String) : lossy (encode s) = s := by
  simp [lossy, encode, pieces_encodeChars, Function.comp_def, Piece.shown]

/-- Different texts have different encodings. -/
theorem encode_injective {s t : String} (h : encode s = encode t) : s = t := by
  have hs := decode?_encode s
  rw [h, decode?_encode] at hs
  exact (Option.some.inj hs).symm

/-! ## Writing what was read -/

/-- A character that is one byte has that byte. -/
theorem encodeChar_one {a : UInt8} (h : a.toNat < 0x80) :
    encodeChar (Char.ofNat a.toNat) = [a] := by
  rw [encodeChar, toNat_ofNat (by omega), if_pos h, toUInt8_eq rfl]

/-- A character that was assembled from two bytes has those bytes. -/
theorem encodeChar_two {a b : UInt8} {lead : Lead} (hl : lead? a = some lead)
    (h1 : lead.following = 1) (hb : lead.low ≤ b.toNat ∧ b.toNat ≤ lead.high) :
    encodeChar (assemble (a.toNat % 0x20) [b]) = [a, b] := by
  have ha : 0xC2 ≤ a.toNat ∧ a.toNat < 0xE0 ∧ lead.low = 0x80 ∧ lead.high = 0xBF := by
    simp only [lead?] at hl
    repeat' split at hl
    all_goals simp at hl <;> subst hl <;> simp at h1 ⊢ <;> omega
  simp only [assemble, List.foldl_cons, List.foldl_nil]
  generalize hn : a.toNat % 0x20 * 0x40 + b.toNat % 0x40 = n
  rw [encodeChar, toNat_ofNat (by omega), if_neg (by omega), if_pos (by omega),
    toUInt8_eq (show _ = a.toNat by omega), toUInt8_eq (show _ = b.toNat by omega)]

/-- A character that was assembled from three bytes has those bytes. -/
theorem encodeChar_three {a b c : UInt8} {lead : Lead} (hl : lead? a = some lead)
    (h2 : lead.following = 2) (hb : lead.low ≤ b.toNat ∧ b.toNat ≤ lead.high)
    (hc : isTail c = true) :
    encodeChar (assemble (a.toNat % 0x10) [b, c]) = [a, b, c] := by
  have ha : 0xE0 ≤ a.toNat ∧ a.toNat < 0xF0 ∧ 0x80 ≤ lead.low ∧ lead.high ≤ 0xBF
      ∧ (a.toNat = 0xE0 → lead.low = 0xA0) ∧ (a.toNat = 0xED → lead.high = 0x9F) := by
    simp only [lead?] at hl
    repeat' split at hl
    all_goals simp at hl <;> subst hl <;> simp at h2 ⊢ <;> omega
  simp only [isTail, Bool.and_eq_true, decide_eq_true_eq] at hc
  simp only [assemble, List.foldl_cons, List.foldl_nil]
  generalize hn : (a.toNat % 0x10 * 0x40 + b.toNat % 0x40) * 0x40 + c.toNat % 0x40 = n
  rw [encodeChar, toNat_ofNat (by omega), if_neg (by omega), if_neg (by omega),
    if_pos (by omega), toUInt8_eq (show _ = a.toNat by omega),
    toUInt8_eq (show _ = b.toNat by omega), toUInt8_eq (show _ = c.toNat by omega)]

/-- A character that was assembled from four bytes has those bytes. -/
theorem encodeChar_four {a b c d : UInt8} {lead : Lead} (hl : lead? a = some lead)
    (h1 : lead.following ≠ 1) (h2 : lead.following ≠ 2)
    (hb : lead.low ≤ b.toNat ∧ b.toNat ≤ lead.high) (hc : isTail c = true)
    (hd : isTail d = true) :
    encodeChar (assemble (a.toNat % 0x08) [b, c, d]) = [a, b, c, d] := by
  have ha : 0xF0 ≤ a.toNat ∧ a.toNat ≤ 0xF4 ∧ 0x80 ≤ lead.low ∧ lead.high ≤ 0xBF
      ∧ (a.toNat = 0xF0 → lead.low = 0x90) ∧ (a.toNat = 0xF4 → lead.high = 0x8F) := by
    simp only [lead?] at hl
    repeat' split at hl
    all_goals simp at hl <;> subst hl <;> simp at h1 h2 ⊢ <;> omega
  simp only [isTail, Bool.and_eq_true, decide_eq_true_eq] at hc hd
  simp only [assemble, List.foldl_cons, List.foldl_nil]
  generalize hn : ((a.toNat % 0x08 * 0x40 + b.toNat % 0x40) * 0x40 + c.toNat % 0x40) * 0x40
    + d.toNat % 0x40 = n
  rw [encodeChar, toNat_ofNat (by omega), if_neg (by omega), if_neg (by omega),
    if_neg (by omega), toUInt8_eq (show _ = a.toNat by omega),
    toUInt8_eq (show _ = b.toNat by omega), toUInt8_eq (show _ = c.toNat by omega),
    toUInt8_eq (show _ = d.toNat by omega)]

/-- The pieces of a byte string hold all of its bytes, in order. -/
theorem flatMap_bytes_pieces (bytes : Bytes) : (pieces bytes).flatMap Piece.bytes = bytes := by
  fun_induction pieces bytes with
  | case1 => rfl
  | case2 a rest h ih => simp [Piece.bytes, encodeChar_one h, ih]
  | case3 a rest h hl ih => simp [Piece.bytes, ih]
  | case4 | case6 | case8 => rfl
  | case5 a h lead hl b rest hb h1 ih => simp [Piece.bytes, encodeChar_two hl h1 hb, ih]
  | case7 a h lead hl b hb h1 c rest hc h2 ih =>
    simp [Piece.bytes, encodeChar_three hl h2 hb hc, ih]
  | case9 a h lead hl b hb h1 c hc h2 d rest hd ih =>
    simp [Piece.bytes, encodeChar_four hl h1 h2 hb hc hd, ih]
  | case10 a h lead hl b hb h1 c hc h2 d rest hd ih => simp [Piece.bytes, ih]
  | case11 a h lead hl b hb h1 c rest hc ih => simp [Piece.bytes, ih]
  | case12 a h lead hl b rest hb ih => simp [Piece.bytes, ih]

/-- Pieces that are all characters have the bytes of those characters. -/
theorem encodeChars_of_mapM_char? {pieces : List Piece} {cs : List Char}
    (h : pieces.mapM Piece.char? = some cs) : encodeChars cs = pieces.flatMap Piece.bytes := by
  induction pieces generalizing cs with
  | nil => simp_all [encodeChars]
  | cons piece pieces ih =>
    cases piece with
    | malformed bytes => simp [Piece.char?] at h
    | char c =>
      simp only [List.mapM_cons, Piece.char?, Option.bind_eq_bind, Option.bind_some,
        Option.bind_eq_some_iff] at h
      obtain ⟨rest, hr, hcs⟩ := h
      obtain rfl : c :: rest = cs := Option.some.inj hcs
      simp [encodeChars, Piece.bytes, ← ih hr]

/-- A byte string is decoded to a text exactly when it is the text's encoding. -/
theorem decode?_eq_some_iff {bytes : Bytes} {s : String} :
    decode? bytes = some s ↔ bytes = encode s := by
  constructor
  · intro h
    obtain ⟨cs, hcs, rfl⟩ := Option.map_eq_some_iff.1 h
    rw [encode, String.toList_ofList, encodeChars_of_mapM_char? hcs, flatMap_bytes_pieces]
  · rintro rfl
    exact decode?_encode s

/-- The valid byte strings are the encodings of texts. -/
theorem isValid_iff_exists_encode (bytes : Bytes) :
    isValid bytes = true ↔ ∃ text, bytes = encode text := by
  simp only [isValid, Option.isSome_iff_exists, decode?_eq_some_iff]

end EmacsBatch.Utf8
