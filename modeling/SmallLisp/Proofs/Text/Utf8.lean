import SmallLisp.Files

/-!
# The bytes of a text

Strict decoding of UTF-8 accepts the bytes of every text and gives the text back. The first byte of
a character says how many bytes follow and bounds the second, and the bounds leave out just the
sequences that encode no character or encode one in too many bytes. A file with the bytes of a text
without carriage returns therefore has that text.

## Main definitions

* `textBytes`: the bytes of a text

## Main results

* `decodeFrom_utf8EncodeChar`: the bytes of a character are decoded to the character
* `decodeUtf8_textBytes`: decoding the bytes of a text gives the text
* `decodeFile_textBytes`: the text of a file with the bytes of a text
* `decodeUtf8_append_lineFeed`: decoding bytes with a line feed between them
-/

namespace SmallLisp.Text

/-- The bytes of a text in UTF-8. -/
def textBytes (text : String) : List UInt8 :=
  text.toUTF8.data.toList

theorem textBytes_eq_flatMap (text : String) :
    textBytes text = text.toList.flatMap String.utf8EncodeChar := by
  have hbytes : text.toUTF8 = (text.toList.flatMap String.utf8EncodeChar).toByteArray := by
    conv => lhs; rw [← String.ofList_toList (s := text)]
    rw [String.toUTF8_eq_toByteArray, String.toByteArray_ofList, List.utf8Encode]
  rw [textBytes, hbytes, List.data_toByteArray, List.toList_toArray]

/-! ## What a first byte asks for -/

/-- The first of two bytes. -/
theorem leadByte?_two {v : Nat} (hv : 0x80 ≤ v) (hv' : v ≤ 0x7FF) :
    leadByte? (v / 64 % 32 + 192) = some (v / 64, 1, 0x80, 0xBF) := by
  have hlead : (0xC2 ≤ v / 64 % 32 + 192 && v / 64 % 32 + 192 ≤ 0xDF) = true := by
    simp only [Bool.and_eq_true, decide_eq_true_eq]
    omega
  have hbits : v / 64 % 32 + 192 - 0xC0 = v / 64 := by omega
  rw [leadByte?, if_pos hlead, hbits]

/-- The first of three bytes. The second has bounds that leave out what two bytes can encode, and
the surrogates. -/
theorem leadByte?_three {v : Nat} (hv : 0x800 ≤ v) (hv' : v ≤ 0xFFFF) (hvalid : v.isValidChar) :
    ∃ least greatest, leadByte? (v / 4096 % 16 + 224) = some (v / 4096, 2, least, greatest) ∧
      least ≤ v / 64 % 64 + 128 ∧ v / 64 % 64 + 128 ≤ greatest := by
  have hbits : v / 4096 % 16 + 224 - 0xE0 = v / 4096 := by omega
  unfold leadByte?
  rw [if_neg (by simp), hbits]
  by_cases hfirst : v / 4096 = 0
  · exact ⟨0xA0, 0xBF, by simp [hfirst], by omega, by omega⟩
  · by_cases hsurrogate : v / 4096 = 0xD
    · exact ⟨0x80, 0x9F, by simp [hsurrogate], by omega, by rcases hvalid with h | h <;> omega⟩
    · refine ⟨0x80, 0xBF, ?_, by omega, by omega⟩
      rw [if_neg (by simp; omega), if_neg (by simp; omega), if_pos (by simp; omega)]

/-- The first of four bytes. The second has bounds that leave out what three bytes can encode, and
what lies behind the last code point. -/
theorem leadByte?_four {v : Nat} (hv : 0x10000 ≤ v) (hvalid : v.isValidChar) :
    ∃ least greatest, leadByte? (v / 262144 % 8 + 240) = some (v / 262144, 3, least, greatest) ∧
      least ≤ v / 4096 % 64 + 128 ∧ v / 4096 % 64 + 128 ≤ greatest := by
  have hlast : v < 0x110000 := by
    rcases hvalid with h | h
    · omega
    · exact h.2
  have hbits : v / 262144 % 8 + 240 - 0xF0 = v / 262144 := by omega
  unfold leadByte?
  rw [if_neg (by simp), if_neg (by simp), if_neg (by simp), if_neg (by simp), hbits]
  by_cases hfirst : v / 262144 = 0
  · exact ⟨0x90, 0xBF, by simp [hfirst], by omega, by omega⟩
  · by_cases hend : v / 262144 = 4
    · exact ⟨0x80, 0x8F, by simp [hend], by omega, by omega⟩
    · refine ⟨0x80, 0xBF, ?_, by omega, by omega⟩
      rw [if_neg (by simp; omega), if_pos (by simp; omega)]

/-! ## Decoding one byte more -/

section Bytes

variable (position : Nat) (done : List Char) (bytes : List UInt8)

theorem toNat_ofNat_of_lt {b : Nat} (hb : b < 256) : (UInt8.ofNat b).toNat = b := by
  rw [UInt8.toNat_ofNat', Nat.mod_eq_of_lt hb]

/-- A first byte begins a sequence. -/
theorem decodeFrom_lead {b bits left least greatest : Nat} (hb : 0x80 ≤ b) (hb' : b < 256)
    (h : leadByte? b = some (bits, left, least, greatest)) :
    decodeFrom position none done (UInt8.ofNat b :: bytes) =
      decodeFrom (position + 1) (some ⟨position, b, 1, left, bits, least, greatest⟩) done
        bytes := by
  rw [decodeFrom, toNat_ofNat_of_lt hb', if_neg (Nat.not_lt.mpr hb), h]

variable {start byte read left bits least greatest b : Nat}

/-- A byte within a sequence gives six bits, and the byte after it has no bounds of its own. -/
theorem decodeFrom_next (hb : b < 256) (hleft : left ≠ 1) (hleast : least ≤ b)
    (hgreatest : b ≤ greatest) :
    decodeFrom position (some ⟨start, byte, read, left, bits, least, greatest⟩) done
        (UInt8.ofNat b :: bytes) =
      decodeFrom (position + 1)
        (some ⟨start, byte, read + 1, left - 1, bits * 64 + (b - 0x80), 0x80, 0xBF⟩) done
        bytes := by
  have hbounds : (least ≤ b && b ≤ greatest) = true := by
    simp [hleast, hgreatest]
  rw [decodeFrom, toNat_ofNat_of_lt hb, if_pos hbounds, if_neg hleft]

/-- The last byte of a sequence completes a character. -/
theorem decodeFrom_last (hb : b < 256) (hleft : left = 1) (hleast : least ≤ b)
    (hgreatest : b ≤ greatest) :
    decodeFrom position (some ⟨start, byte, read, left, bits, least, greatest⟩) done
        (UInt8.ofNat b :: bytes) =
      decodeFrom (position + 1) none (Char.ofNat (bits * 64 + (b - 0x80)) :: done) bytes := by
  have hbounds : (least ≤ b && b ≤ greatest) = true := by
    simp [hleast, hgreatest]
  rw [decodeFrom, toNat_ofNat_of_lt hb, if_pos hbounds, if_pos hleft]

/-- **The bytes of a character are decoded to the character**, whatever follows them. -/
theorem decodeFrom_utf8EncodeChar (c : Char) :
    ∃ next, decodeFrom position none done (String.utf8EncodeChar c ++ bytes) =
      decodeFrom next none (c :: done) bytes := by
  have hvalid : c.toNat.isValidChar := c.valid
  have hchar {v : Nat} (hv : v = c.toNat) : Char.ofNat v = c := by
    rw [hv, Char.ofNat_toNat]
  -- by the number of bytes; in each case the bits of the bytes make up the number of the character
  simp only [String.utf8EncodeChar, Char.toNat_val]
  generalize c.toNat = v at hvalid hchar
  split
  · refine ⟨position + 1, ?_⟩
    rw [List.singleton_append, decodeFrom, toNat_ofNat_of_lt (by omega), if_pos (by omega),
      hchar rfl]
  · split
    · refine ⟨position + 1 + 1, ?_⟩
      have hlead := leadByte?_two (v := v) (by omega) (by omega)
      rw [List.cons_append, List.singleton_append,
        decodeFrom_lead position done _ (by omega) (by omega) hlead,
        decodeFrom_last _ done bytes (by omega) rfl (by omega) (by omega),
        hchar (by omega)]
    · split
      · refine ⟨position + 1 + 1 + 1, ?_⟩
        obtain ⟨least, greatest, hlead, hleast, hgreatest⟩ :=
          leadByte?_three (v := v) (by omega) (by omega) hvalid
        rw [List.cons_append, List.cons_append, List.singleton_append,
          decodeFrom_lead position done _ (by omega) (by omega) hlead,
          decodeFrom_next _ done _ (by omega) (by decide) hleast hgreatest,
          decodeFrom_last _ done bytes (by omega) rfl (by omega) (by omega),
          hchar (by omega)]
      · refine ⟨position + 1 + 1 + 1 + 1, ?_⟩
        obtain ⟨least, greatest, hlead, hleast, hgreatest⟩ :=
          leadByte?_four (v := v) (by omega) hvalid
        rw [List.cons_append, List.cons_append, List.cons_append, List.singleton_append,
          decodeFrom_lead position done _ (by omega) (by omega) hlead,
          decodeFrom_next _ done _ (by omega) (by decide) hleast hgreatest,
          decodeFrom_next _ done _ (by omega) (by decide) (by omega) (by omega),
          decodeFrom_last _ done bytes (by omega) rfl (by omega) (by omega),
          hchar (by omega)]

end Bytes

/-! ## Decoding a text -/

/-- The bytes of characters are decoded as the characters. -/
theorem decodeFrom_flatMap (cs : List Char) (position : Nat) (done : List Char) :
    decodeFrom position none done (cs.flatMap String.utf8EncodeChar) =
      .ok (done.reverse ++ cs) := by
  induction cs generalizing position done with
  | nil => simp [decodeFrom]
  | cons c cs ih =>
    obtain ⟨next, hnext⟩ :=
      decodeFrom_utf8EncodeChar position done (cs.flatMap String.utf8EncodeChar) c
    rw [List.flatMap_cons, hnext, ih, List.reverse_cons, List.append_assoc, List.singleton_append]

/-- **Decoding the bytes of a text gives the text.** -/
theorem decodeUtf8_textBytes (text : String) : decodeUtf8 (textBytes text) = .ok text := by
  rw [decodeUtf8, textBytes_eq_flatMap, decodeFrom_flatMap]
  simp [Except.map]

theorem plainNewlines_of_notMem {cs : List Char} (h : '\r' ∉ cs) : plainNewlines cs = cs := by
  induction cs with
  | nil => rfl
  | cons c cs ih =>
    rw [List.mem_cons, not_or] at h
    obtain ⟨hc, hcs⟩ := h
    rw [plainNewlines, ih hcs]
    · rintro _ rfl
      exact absurd rfl hc
    · rintro rfl
      exact hc rfl

/-- **A file with the bytes of a text has that text**, if there are no carriage returns in it. -/
theorem decodeFile_textBytes {text : String} (h : '\r' ∉ text.toList) :
    decodeFile (textBytes text) = .ok text := by
  simp only [decodeFile, decodeUtf8_textBytes, plainNewlines_of_notMem h, String.ofList_toList]

/-! ## Texts one after another -/

section Joined

variable {position : Nat} {under : Option Multibyte} {done decoded : List Char}
  {bytes others : List UInt8} {text text' : String}

/-- What is decoded comes after what was decoded before, and it does not matter where the bytes
stand. -/
theorem exists_decodeFrom_eq (h : decodeFrom position under done bytes = .ok decoded) :
    ∃ cs, decoded = done.reverse ++ cs ∧ ∀ position' start done',
      decodeFrom position' (under.map fun p => { p with start := start }) done' bytes =
        .ok (done'.reverse ++ cs) := by
  -- by the bytes; a sequence under way keeps its bits, wherever it began
  fun_induction decodeFrom position under done bytes with
  | case1 => cases h
  | case2 position done =>
    cases h
    exact ⟨[], by simp, fun _ _ _ => by simp [decodeFrom]⟩
  | case3 position done byte bytes b p hbounds bits hleft ih =>
    obtain ⟨cs, rfl, hcs⟩ := ih h
    refine ⟨Char.ofNat bits :: cs, by simp, fun position' start done' => ?_⟩
    have hnext := hcs (position' + 1) start (Char.ofNat bits :: done')
    simp only [decodeFrom, Option.map_some]
    simpa [b, hbounds, hleft] using hnext
  | case4 position done byte bytes b p hbounds bits hleft next ih =>
    obtain ⟨cs, rfl, hcs⟩ := ih h
    refine ⟨cs, rfl, fun position' start done' => ?_⟩
    have hnext := hcs (position' + 1) start done'
    simp only [decodeFrom, Option.map_some]
    simpa [b, hbounds, hleft] using hnext
  | case5 => cases h
  | case6 position done byte bytes b hb ih =>
    obtain ⟨cs, rfl, hcs⟩ := ih h
    refine ⟨Char.ofNat b :: cs, by simp, fun position' start done' => ?_⟩
    have hnext := hcs (position' + 1) start (Char.ofNat b :: done')
    simp only [decodeFrom, Option.map_none]
    simpa [b, hb] using hnext
  | case7 position done byte bytes b hb bits left least greatest hlead ih =>
    obtain ⟨cs, rfl, hcs⟩ := ih h
    refine ⟨cs, rfl, fun position' start done' => ?_⟩
    have hnext := hcs (position' + 1) position' done'
    simp only [decodeFrom, Option.map_none]
    simpa [b, hb, hlead] using hnext
  | case8 => cases h

/-- No sequence is under way after bytes that can be decoded, so a line feed there is one. -/
theorem decodeFrom_append_lineFeed (h : decodeFrom position under done bytes = .ok decoded)
    (others : List UInt8) :
    ∃ next, decodeFrom position under done (bytes ++ 10 :: others) =
      decodeFrom next none ('\n' :: decoded.reverse) others := by
  fun_induction decodeFrom position under done bytes with
  | case1 => cases h
  | case2 position done =>
    cases h
    refine ⟨position + 1, ?_⟩
    rw [List.nil_append, List.reverse_reverse, decodeFrom]
    rfl
  | case3 position done byte bytes b p hbounds bits hleft ih =>
    rw [List.cons_append, decodeFrom]
    simpa [b, hbounds, hleft] using ih h
  | case4 position done byte bytes b p hbounds bits hleft next ih =>
    rw [List.cons_append, decodeFrom]
    simpa [b, hbounds, hleft] using ih h
  | case5 => cases h
  | case6 position done byte bytes b hb ih =>
    rw [List.cons_append, decodeFrom]
    simpa [b, hb] using ih h
  | case7 position done byte bytes b hb bits left least greatest hlead ih =>
    rw [List.cons_append, decodeFrom]
    simpa [b, hb, hlead] using ih h
  | case8 => cases h

theorem decodeUtf8_eq_ok_iff :
    decodeUtf8 bytes = .ok text ↔ decodeFrom 0 none [] bytes = .ok text.toList := by
  rw [decodeUtf8]
  cases decodeFrom 0 none [] bytes with
  | error e => simp [Except.map]
  | ok cs => simp [Except.map, ← String.toList_inj]

/-- **Bytes with a line feed between them are decoded to the texts with a line feed between
them.** -/
theorem decodeUtf8_append_lineFeed (h : decodeUtf8 bytes = .ok text)
    (h' : decodeUtf8 others = .ok text') :
    decodeUtf8 (bytes ++ 10 :: others) =
      .ok (String.ofList (text.toList ++ '\n' :: text'.toList)) := by
  rw [decodeUtf8_eq_ok_iff] at h h' ⊢
  obtain ⟨next, hnext⟩ := decodeFrom_append_lineFeed h others
  obtain ⟨cs, hcs, hothers⟩ := exists_decodeFrom_eq h'
  rw [List.reverse_nil, List.nil_append] at hcs
  subst hcs
  rw [hnext, ← Option.map_none, hothers next 0, String.toList_ofList]
  simp

end Joined

end SmallLisp.Text
