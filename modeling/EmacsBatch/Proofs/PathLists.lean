import EmacsBatch.Bytes.Utf8.RoundTrip
import EmacsBatch.Config.Environment

/-!
# Lists of paths as texts

A list of paths is a text with colons between the paths. It is split as a byte string, but a
colon is one byte in UTF-8 that is part of no other character, so the paths are the pieces of
the text between its colons. Directories without colons that are joined to a list are found
again.
-/

namespace EmacsBatch

namespace Utf8

/-- A character beyond ASCII has no byte below 0x80. -/
theorem le_of_mem_encodeChar {c : Char} {byte : UInt8} (h : 0x80 ≤ c.toNat)
    (hbyte : byte ∈ encodeChar c) : 0x80 ≤ byte.toNat := by
  have hs : c.toNat < 0xD800 ∨ 0xDFFF < c.toNat ∧ c.toNat < 0x110000 := c.valid
  have high {n : Nat} (hn : 0x80 ≤ n ∧ n < 256) (heq : byte = n.toUInt8) : 0x80 ≤ byte.toNat := by
    rw [heq, toNat_toUInt8 hn.2]
    exact hn.1
  rw [encodeChar] at hbyte
  generalize c.toNat = n at *
  simp only [if_neg (show ¬ n < 0x80 by omega)] at hbyte
  -- Two, three or four bytes, each of them at least 0x80.
  split at hbyte
  · simp only [List.mem_cons, List.not_mem_nil, or_false] at hbyte
    rcases hbyte with hb | hb <;> exact high (by omega) hb
  split at hbyte
  · simp only [List.mem_cons, List.not_mem_nil, or_false] at hbyte
    rcases hbyte with hb | hb | hb <;> exact high (by omega) hb
  · simp only [List.mem_cons, List.not_mem_nil, or_false] at hbyte
    rcases hbyte with hb | hb | hb | hb <;> exact high (by omega) hb

/-- The byte of an ASCII character is part of no other character. -/
theorem mem_encodeChar_iff {a : Char} (ascii : a.toNat < 0x80) (c : Char) :
    a.toNat.toUInt8 ∈ encodeChar c ↔ c = a := by
  have ha : a.toNat.toUInt8.toNat = a.toNat := toNat_toUInt8 (by omega)
  constructor
  · intro hmem
    by_cases hc : c.toNat < 0x80
    · rw [encodeChar, if_pos hc, List.mem_singleton] at hmem
      have hnat : a.toNat = c.toNat := by
        rw [← ha, hmem, toNat_toUInt8 (by omega)]
      exact (Char.toNat_inj.1 hnat).symm
    · have := le_of_mem_encodeChar (by omega) hmem
      omega
  · rintro rfl
    rw [encodeChar, if_pos ascii]
    exact List.mem_singleton_self _

/-- Only the empty row of characters has no bytes. -/
theorem encodeChars_eq_nil_iff {cs : List Char} : encodeChars cs = [] ↔ cs = [] := by
  constructor
  · intro h
    have hpieces := pieces_encodeChars cs
    rw [h] at hpieces
    exact List.map_eq_nil_iff.1 hpieces.symm
  · rintro rfl
    rfl

/-- Only the empty text has no bytes. -/
theorem encode_eq_nil_iff {text : String} : encode text = [] ↔ text = "" := by
  rw [encode, encodeChars_eq_nil_iff, String.toList_eq_nil_iff]

end Utf8

namespace Bytes

/-- A text is split at an ASCII character as its bytes are split at the byte of this
character. -/
theorem splitOn_encodeChars (a : Char) (ascii : a.toNat < 0x80) (cs : List Char) :
    splitOn a.toNat.toUInt8 (Utf8.encodeChars cs) = (cs.splitOn a).map Utf8.encodeChars := by
  induction cs with
  | nil => rfl
  | cons c cs ih =>
    have hbytes : Utf8.encodeChars (c :: cs) = Utf8.encodeChar c ++ Utf8.encodeChars cs := rfl
    rw [hbytes, List.splitOn_cons_eq_if_modifyHead]
    by_cases hc : c = a
    · have hbyte : Utf8.encodeChar c = [a.toNat.toUInt8] := by
        rw [Utf8.encodeChar, hc, if_pos ascii]
      rw [hbyte, List.singleton_append, splitOn, if_pos rfl, ih, if_pos (beq_iff_eq.2 hc)]
      rfl
    · have hbyte := mt (Utf8.mem_encodeChar_iff ascii c).1 hc
      rw [splitOn_append_of_notMem hbyte, ih, if_neg (mt beq_iff_eq.1 hc)]
      cases cs.splitOn a <;> rfl

end Bytes

/-- The texts between the colons of a text, without empty ones. -/
def segments (list : String) : List String :=
  ((list.toList.splitOn ':').filter (· ≠ [])).map String.ofList

/-- No texts are between the colons of the empty text. -/
@[simp]
theorem segments_empty : segments "" = [] := rfl

/-- The paths of a list are the texts between its colons. -/
theorem listedPaths_encode (list : String) :
    listedPaths (Utf8.encode list) = (segments list).map Utf8.encode := by
  have hsplit : Bytes.splitOn pathSeparator (Utf8.encode list) =
      (list.toList.splitOn ':').map Utf8.encodeChars :=
    Bytes.splitOn_encodeChars ':' (by decide) list.toList
  have hencode : Utf8.encode ∘ String.ofList = Utf8.encodeChars := by
    funext cs
    rw [Function.comp_apply, Utf8.encode, String.toList_ofList]
  rw [listedPaths, hsplit, List.filter_map, segments, List.map_map, hencode]
  congr 2
  funext cs
  simp [Utf8.encodeChars_eq_nil_iff]

/-- Texts without colons that are joined by colons are found between them. -/
theorem segments_intercalate {texts : List String} (hne : texts ≠ [])
    (h : ∀ text ∈ texts, text ≠ "" ∧ ':' ∉ text.toList) :
    segments (":".intercalate texts) = texts := by
  have hsplit : (":".intercalate texts).toList.splitOn ':' = texts.map String.toList := by
    rw [String.toList_intercalate]
    refine List.splitOn_intercalate ':' ?_ (mt List.map_eq_nil_iff.1 hne)
    intro cs hcs
    obtain ⟨text, htext, rfl⟩ := List.mem_map.1 hcs
    exact (h text htext).2
  have hfilter : (texts.map String.toList).filter (· ≠ []) = texts.map String.toList := by
    rw [List.filter_eq_self]
    intro cs hcs
    obtain ⟨text, htext, rfl⟩ := List.mem_map.1 hcs
    simpa using (h text htext).1
  have hself : String.ofList ∘ String.toList = id := funext fun _ => String.ofList_toList
  rw [segments, hsplit, hfilter, List.map_map, hself, List.map_id]

end EmacsBatch
