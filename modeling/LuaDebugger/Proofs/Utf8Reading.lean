import LuaDebugger.Text.Utf8
/-!
# Reading the bytes of a text

`decodeLossy_encode`: the bytes of a text, read as UTF-8, give the text back. Each character
is encoded in the shortest form for its value, which is never a surrogate, so the decoder
takes the encoding of each character as one well-formed piece (`decodeAt_of_drop`), and the
pieces of the whole text are its characters (`piecesFrom_of_drop`).

An encoding has one to four bytes, and each length has two lemmas: `utf8EncodeChar_one` to
`_four` give the bytes, `decodeAt_one` to `_four` read them back. The decoder takes the low
bits of a byte with `&&&`, which `and_low_bits` turns into a remainder, so that `omega` does
the arithmetic.
-/

namespace LuaDebugger.Text

/-! ### Bytes and their values -/

theorem get!_add_of_drop {bs : ByteArray} {i : Nat} {l : List UInt8}
    (h : bs.data.toList.drop i = l) (k : Nat) (hk : k < l.length) :
    bs.get! (i + k) = l[k] := by
  rcases bs with ⟨data⟩
  have hlt : i + k < data.size := by
    have := congrArg List.length h
    simp only [List.length_drop, Array.length_toList] at this
    omega
  show data[i + k]! = l[k]
  subst h
  rw [getElem!_pos data _ hlt, ← Array.getElem_toList, List.getElem_drop]

theorem size_of_drop {bs : ByteArray} {i : Nat} {l : List UInt8}
    (h : bs.data.toList.drop i = l) (hl : l ≠ []) : bs.size = i + l.length := by
  have := congrArg List.length h
  simp only [List.length_drop, Array.length_toList, ByteArray.size_data] at this
  have : 0 < l.length := List.length_pos_iff.2 hl
  omega

/-- A byte `10xxxxxx` is a continuation byte. -/
theorem isContinuation_ofNat (y : Nat) (hy : y < 64) :
    isContinuation (UInt8.ofNat (y + 128)) = true := by
  have : ∀ z : Fin 64, isContinuation (UInt8.ofNat (z.val + 128)) = true := by decide
  exact this ⟨y, hy⟩

theorem toNat_ofNat_of_lt {n : Nat} (h : n < 256) : (UInt8.ofNat n).toNat = n := by
  simp [Nat.mod_eq_of_lt h]

theorem and_low_bits (b k : Nat) : b &&& (2 ^ k - 1) = b % 2 ^ k :=
  Nat.and_two_pow_sub_one_eq_mod b k

/-! ### The encoding of a character -/

variable {c : Char}

theorem utf8EncodeChar_one (h : c.toNat ≤ 0x7f) :
    String.utf8EncodeChar c = [UInt8.ofNat c.toNat] :=
  if_pos h

theorem utf8EncodeChar_two (h1 : 0x7f < c.toNat) (h2 : c.toNat ≤ 0x7ff) :
    String.utf8EncodeChar c =
      [UInt8.ofNat (c.toNat / 64 % 32 + 192), UInt8.ofNat (c.toNat % 64 + 128)] := by
  unfold String.utf8EncodeChar
  exact (if_neg (Nat.not_le.2 h1)).trans (if_pos h2)

theorem utf8EncodeChar_three (h1 : 0x7ff < c.toNat) (h2 : c.toNat ≤ 0xffff) :
    String.utf8EncodeChar c =
      [UInt8.ofNat (c.toNat / 4096 % 16 + 224), UInt8.ofNat (c.toNat / 64 % 64 + 128),
        UInt8.ofNat (c.toNat % 64 + 128)] := by
  unfold String.utf8EncodeChar
  exact (if_neg (by change ¬ c.toNat ≤ 0x7f; omega)).trans
    ((if_neg (Nat.not_le.2 h1)).trans (if_pos h2))

theorem utf8EncodeChar_four (h1 : 0xffff < c.toNat) :
    String.utf8EncodeChar c =
      [UInt8.ofNat (c.toNat / 262144 % 8 + 240), UInt8.ofNat (c.toNat / 4096 % 64 + 128),
        UInt8.ofNat (c.toNat / 64 % 64 + 128), UInt8.ofNat (c.toNat % 64 + 128)] := by
  unfold String.utf8EncodeChar
  exact (if_neg (by change ¬ c.toNat ≤ 0x7f; omega)).trans
    ((if_neg (by change ¬ c.toNat ≤ 0x7ff; omega)).trans (if_neg (Nat.not_le.2 h1)))

/-- A character is a scalar value: no surrogate, at most `U+10FFFF`. -/
theorem toNat_valid (c : Char) : c.toNat < 0xd800 ∨ (0xdfff < c.toNat ∧ c.toNat < 0x110000) :=
  c.valid

theorem data_toUTF8 (s : String) :
    s.toUTF8.data.toList = s.toList.flatMap String.utf8EncodeChar := by
  rw [String.toUTF8_eq_toByteArray, ← String.utf8Encode_toList, List.utf8Encode,
    List.toList_data_toByteArray]

/-! ### Reading one character back

In each case the bytes at `i` are named, the size of the string is bounded below, and then
the decoder's tests are passed one at a time, in its order. -/

variable {bs : ByteArray} {i : Nat} {rest : List UInt8}

theorem decodeAt_one (h1 : c.toNat ≤ 0x7f)
    (h : bs.data.toList.drop i = String.utf8EncodeChar c ++ rest) :
    decodeAt bs i = some (c, 1) := by
  rw [utf8EncodeChar_one h1] at h
  have hb0 : bs.get! i = UInt8.ofNat c.toNat := get!_add_of_drop h 0 (by simp)
  have hs := size_of_drop h (by simp)
  simp only [List.length_append, List.length_cons, List.length_nil] at hs
  unfold decodeAt
  simp only [Nat.add_zero, hb0, toNat_ofNat_of_lt (show c.toNat < 256 by omega)]
  rw [if_neg (by omega), if_pos (by omega), Char.ofNat_toNat]

theorem decodeAt_two (h1 : 0x7f < c.toNat) (h2 : c.toNat ≤ 0x7ff)
    (h : bs.data.toList.drop i = String.utf8EncodeChar c ++ rest) :
    decodeAt bs i = some (c, 2) := by
  rw [utf8EncodeChar_two h1 h2] at h
  have hb0 : bs.get! i = _ := get!_add_of_drop h 0 (by simp)
  have hb1 : bs.get! (i + 1) = _ := get!_add_of_drop h 1 (by simp)
  have hs := size_of_drop h (by simp)
  simp only [List.length_append, List.length_cons, List.length_nil] at hs
  simp only [List.cons_append, List.getElem_cons_zero, List.getElem_cons_succ] at hb0 hb1
  have hv : ((c.toNat / 64 % 32 + 192) &&& 31) * 64 + ((c.toNat % 64 + 128) &&& 63) =
      c.toNat := by
    rw [show (31 : Nat) = 2 ^ 5 - 1 from rfl, show (63 : Nat) = 2 ^ 6 - 1 from rfl,
      and_low_bits, and_low_bits]
    omega
  unfold decodeAt
  simp only [Nat.add_zero, hb0, hb1,
    toNat_ofNat_of_lt (show c.toNat / 64 % 32 + 192 < 256 by omega),
    toNat_ofNat_of_lt (show c.toNat % 64 + 128 < 256 by omega),
    isContinuation_ofNat _ (Nat.mod_lt _ (by omega)), hv]
  rw [if_neg (by omega), if_neg (by omega), if_neg (by omega), if_pos (by omega),
    if_pos (decide_eq_true ⟨by omega, trivial⟩), Char.ofNat_toNat]

theorem decodeAt_three (h1 : 0x7ff < c.toNat) (h2 : c.toNat ≤ 0xffff)
    (h : bs.data.toList.drop i = String.utf8EncodeChar c ++ rest) :
    decodeAt bs i = some (c, 3) := by
  rw [utf8EncodeChar_three h1 h2] at h
  have hb0 : bs.get! i = _ := get!_add_of_drop h 0 (by simp)
  have hb1 : bs.get! (i + 1) = _ := get!_add_of_drop h 1 (by simp)
  have hb2 : bs.get! (i + 2) = _ := get!_add_of_drop h 2 (by simp)
  have hs := size_of_drop h (by simp)
  simp only [List.length_append, List.length_cons, List.length_nil] at hs
  simp only [List.cons_append, List.getElem_cons_zero, List.getElem_cons_succ] at hb0 hb1 hb2
  have hc := toNat_valid c
  have hv : ((c.toNat / 4096 % 16 + 224) &&& 15) * 4096 + ((c.toNat / 64 % 64 + 128) &&& 63) * 64
      + ((c.toNat % 64 + 128) &&& 63) = c.toNat := by
    rw [show (15 : Nat) = 2 ^ 4 - 1 from rfl, show (63 : Nat) = 2 ^ 6 - 1 from rfl,
      and_low_bits, and_low_bits, and_low_bits]
    omega
  unfold decodeAt
  simp only [Nat.add_zero, hb0, hb1, hb2,
    toNat_ofNat_of_lt (show c.toNat / 4096 % 16 + 224 < 256 by omega),
    toNat_ofNat_of_lt (show c.toNat / 64 % 64 + 128 < 256 by omega),
    toNat_ofNat_of_lt (show c.toNat % 64 + 128 < 256 by omega),
    isContinuation_ofNat _ (Nat.mod_lt _ (by omega)), hv]
  -- the value is no surrogate and needs three bytes, so it is not refused
  rw [if_neg (by omega), if_neg (by omega), if_neg (by omega), if_neg (by omega),
    if_pos (by omega),
    if_pos ⟨decide_eq_true ⟨by omega, trivial⟩, decide_eq_true ⟨by omega, trivial⟩⟩,
    if_neg (by omega), Char.ofNat_toNat]

theorem decodeAt_four (h1 : 0xffff < c.toNat)
    (h : bs.data.toList.drop i = String.utf8EncodeChar c ++ rest) :
    decodeAt bs i = some (c, 4) := by
  rw [utf8EncodeChar_four h1] at h
  have hb0 : bs.get! i = _ := get!_add_of_drop h 0 (by simp)
  have hb1 : bs.get! (i + 1) = _ := get!_add_of_drop h 1 (by simp)
  have hb2 : bs.get! (i + 2) = _ := get!_add_of_drop h 2 (by simp)
  have hb3 : bs.get! (i + 3) = _ := get!_add_of_drop h 3 (by simp)
  have hs := size_of_drop h (by simp)
  simp only [List.length_append, List.length_cons, List.length_nil] at hs
  simp only [List.cons_append, List.getElem_cons_zero, List.getElem_cons_succ] at hb0 hb1 hb2 hb3
  have hc := toNat_valid c
  have hv : ((c.toNat / 262144 % 8 + 240) &&& 7) * 262144
      + ((c.toNat / 4096 % 64 + 128) &&& 63) * 4096 + ((c.toNat / 64 % 64 + 128) &&& 63) * 64
      + ((c.toNat % 64 + 128) &&& 63) = c.toNat := by
    rw [show (7 : Nat) = 2 ^ 3 - 1 from rfl, show (63 : Nat) = 2 ^ 6 - 1 from rfl,
      and_low_bits, and_low_bits, and_low_bits, and_low_bits]
    omega
  unfold decodeAt
  simp only [Nat.add_zero, hb0, hb1, hb2, hb3,
    toNat_ofNat_of_lt (show c.toNat / 262144 % 8 + 240 < 256 by omega),
    toNat_ofNat_of_lt (show c.toNat / 4096 % 64 + 128 < 256 by omega),
    toNat_ofNat_of_lt (show c.toNat / 64 % 64 + 128 < 256 by omega),
    toNat_ofNat_of_lt (show c.toNat % 64 + 128 < 256 by omega),
    isContinuation_ofNat _ (Nat.mod_lt _ (by omega)), hv]
  -- the value needs four bytes and is at most `U+10FFFF`, so the lead byte is below `0xF5`
  rw [if_neg (by omega), if_neg (by omega), if_neg (by omega), if_neg (by omega),
    if_neg (by omega), if_pos (by omega),
    if_pos ⟨decide_eq_true ⟨by omega, trivial⟩, decide_eq_true ⟨by omega, trivial⟩,
      decide_eq_true ⟨by omega, trivial⟩⟩,
    if_neg (by omega), Char.ofNat_toNat]

/-- The encoding of a character is read back as that character. -/
theorem decodeAt_of_drop (h : bs.data.toList.drop i = String.utf8EncodeChar c ++ rest) :
    decodeAt bs i = some (c, (String.utf8EncodeChar c).length) := by
  by_cases h1 : c.toNat ≤ 0x7f
  · rw [utf8EncodeChar_one h1]
    exact decodeAt_one h1 h
  by_cases h2 : c.toNat ≤ 0x7ff
  · rw [utf8EncodeChar_two (by omega) h2]
    exact decodeAt_two (by omega) h2 h
  by_cases h3 : c.toNat ≤ 0xffff
  · rw [utf8EncodeChar_three (by omega) h3]
    exact decodeAt_three (by omega) h3 h
  · rw [utf8EncodeChar_four (by omega)]
    exact decodeAt_four (by omega) h

/-! ### Reading a whole text back -/

/-- The encodings of characters, one after the other, are read as those characters. -/
theorem piecesFrom_of_drop (cs : List Char) (i : Nat)
    (h : bs.data.toList.drop i = cs.flatMap String.utf8EncodeChar) :
    piecesFrom bs i = cs.map .char := by
  induction cs generalizing i with
  | nil =>
    have hle : bs.size ≤ i := by
      have := congrArg List.length h
      simp only [List.length_drop, Array.length_toList, ByteArray.size_data, List.flatMap_nil,
        List.length_nil] at this
      omega
    rw [piecesFrom, dif_neg (by omega), List.map_nil]
  | cons c cs ih =>
    rw [List.flatMap_cons] at h
    have hpos := List.length_pos_iff.2 (String.utf8EncodeChar_ne_nil (c := c))
    have hlt : i < bs.size := by
      rw [size_of_drop h (by simp), List.length_append]
      omega
    -- the next piece starts right after the encoding of `c`
    have hnext : bs.data.toList.drop (i + max (String.utf8EncodeChar c).length 1) =
        cs.flatMap String.utf8EncodeChar := by
      rw [Nat.max_eq_left hpos, ← List.drop_drop, h, List.drop_left]
    rw [piecesFrom, dif_pos hlt, decodeAt_of_drop h]
    dsimp only
    rw [List.map_cons, ih _ hnext]

/-- **Reading the bytes of a text gives it back**, with no replacement character. -/
theorem decodeLossy_encode (s : String) : decodeLossy s.toUTF8 = s := by
  have hp : pieces s.toUTF8 = s.toList.map .char :=
    piecesFrom_of_drop s.toList 0 (by rw [List.drop_zero, data_toUTF8])
  rw [decodeLossy, hp, List.map_map]
  show String.ofList (s.toList.map fun c ↦ c) = s
  rw [List.map_id', String.ofList_toList]

end LuaDebugger.Text
