import RequestSigning.Proofs.LossyText

/-!
# UTF-8 read back

The bytes of a character are read as that character, whatever stands behind them
(`Utf8.steps_encodeChar_append`). So the bytes of a text are read as the text, and a text whose bytes
start with those of another one starts with that text (`Utf8.prefix_of_encode_prefix`).

The decoder takes a leading byte and as many continuation bytes as it asks for, so there is one case
for each length of a character, one byte to four. The first byte of a character is never a
continuation byte, and so texts can be compared by their bytes: a line feed among the bytes is a
line feed in the text (`Utf8.ofNat_mem_of_mem`).
-/

namespace RequestSigning.Utf8

/-! ### Characters -/

/-- The bytes of a character that is not ASCII lie above ASCII. -/
theorem le_toNat_of_mem_encodeChar {c : Char} (h : 128 ≤ c.toNat) {b : UInt8}
    (hb : b ∈ String.utf8EncodeChar c) : 128 ≤ b.toNat := by
  have hlong : ¬c.val.toNat ≤ 127 := Nat.not_le.mpr h
  simp only [String.utf8EncodeChar, if_neg hlong] at hb
  split_ifs at hb
  all_goals
    simp only [List.mem_cons, List.not_mem_nil, or_false] at hb
    rcases hb with rfl | rfl | rfl | rfl <;> rw [UInt8.toNat_ofNat'] <;> omega

/-- A character below 128 is a byte of its own. -/
theorem encodeChar_of_lt {c : Char} (h : c.toNat < 128) :
    String.utf8EncodeChar c = [UInt8.ofNat c.toNat] := by
  rw [String.utf8EncodeChar]
  exact if_pos (Nat.le_of_lt_succ h)

variable {n : Nat}

private theorem toNat_byte {m : Nat} (h : m < 256) : (UInt8.ofNat m).toNat = m := by
  rw [UInt8.toNat_ofNat', Nat.mod_eq_of_lt h]

private theorem isContinuation_ofNat (m : Nat) :
    isContinuation (UInt8.ofNat (m % 64 + 128)) = true := by
  have hbyte : (UInt8.ofNat (m % 64 + 128)).toNat = m % 64 + 128 :=
    toNat_byte (by omega)
  simp only [isContinuation, Bool.and_eq_true, decide_eq_true_eq, UInt8.le_iff_toNat_le, hbyte,
    UInt8.reduceToNat]
  omega

private theorem bits_ofNat (m : Nat) : bits (UInt8.ofNat (m % 64 + 128)) = m % 64 := by
  rw [bits, toNat_byte (by omega)]
  omega

private theorem scan_two (hlow : 0x80 ≤ n) (hhigh : n < 0x800) (rest : Bytes) :
    scan (UInt8.ofNat (n / 64 % 32 + 192)) (UInt8.ofNat (n % 64 + 128) :: rest) =
      (some (Char.ofNat n), 1) := by
  have hfirst : (UInt8.ofNat (n / 64 % 32 + 192)).toNat = n / 64 % 32 + 192 :=
    toNat_byte (by omega)
  have hvalue : (n / 64 % 32 + 192) % 32 * 64 + n % 64 = n := by omega
  simp only [scan.eq_def, isContinuation_ofNat, bits_ofNat, if_true, Bool.and_eq_true,
    decide_eq_true_eq, UInt8.lt_iff_toNat_lt, UInt8.le_iff_toNat_le, hfirst, UInt8.reduceToNat,
    hvalue]
  rw [if_neg (by omega), if_pos (by omega)]

/-- The second byte of three or four is above what makes the form too long, and below what makes it
no character. -/
private theorem scan_three (hlow : 0x800 ≤ n) (hhigh : n < 0x10000)
    (hvalid : n.isValidChar) (rest : Bytes) :
    scan (UInt8.ofNat (n / 4096 % 16 + 224)) (UInt8.ofNat (n / 64 % 64 + 128) ::
        UInt8.ofNat (n % 64 + 128) :: rest) = (some (Char.ofNat n), 2) := by
  have hfirst : (UInt8.ofNat (n / 4096 % 16 + 224)).toNat = n / 4096 % 16 + 224 :=
    toNat_byte (by omega)
  have hsecond : (UInt8.ofNat (n / 64 % 64 + 128)).toNat = n / 64 % 64 + 128 :=
    toNat_byte (by omega)
  have hallowed : secondOfThree (UInt8.ofNat (n / 4096 % 16 + 224))
      (UInt8.ofNat (n / 64 % 64 + 128)) = true := by
    unfold Nat.isValidChar at hvalid
    simp only [secondOfThree, isContinuation_ofNat, ← UInt8.toNat_inj, hfirst, UInt8.reduceToNat]
    split_ifs <;> simp only [Bool.and_eq_true, decide_eq_true_eq, UInt8.le_iff_toNat_le, hsecond,
      UInt8.reduceToNat] <;> omega
  have hvalue : (n / 4096 % 16 + 224) % 16 * 4096 + n / 64 % 64 * 64 + n % 64 = n := by omega
  simp only [scan.eq_def, isContinuation_ofNat, bits_ofNat, hallowed, if_true, Bool.and_eq_true,
    decide_eq_true_eq, UInt8.lt_iff_toNat_lt, UInt8.le_iff_toNat_le, hfirst, UInt8.reduceToNat,
    hvalue]
  rw [if_neg (by omega), if_neg (by omega), if_pos (by omega)]

private theorem scan_four (hlow : 0x10000 ≤ n) (hvalid : n.isValidChar) (rest : Bytes) :
    scan (UInt8.ofNat (n / 262144 % 8 + 240)) (UInt8.ofNat (n / 4096 % 64 + 128) ::
        UInt8.ofNat (n / 64 % 64 + 128) :: UInt8.ofNat (n % 64 + 128) :: rest) =
      (some (Char.ofNat n), 3) := by
  unfold Nat.isValidChar at hvalid
  have hfirst : (UInt8.ofNat (n / 262144 % 8 + 240)).toNat = n / 262144 % 8 + 240 :=
    toNat_byte (by omega)
  have hsecond : (UInt8.ofNat (n / 4096 % 64 + 128)).toNat = n / 4096 % 64 + 128 :=
    toNat_byte (by omega)
  have hallowed : secondOfFour (UInt8.ofNat (n / 262144 % 8 + 240))
      (UInt8.ofNat (n / 4096 % 64 + 128)) = true := by
    simp only [secondOfFour, isContinuation_ofNat, ← UInt8.toNat_inj, hfirst, UInt8.reduceToNat]
    split_ifs <;> simp only [Bool.and_eq_true, decide_eq_true_eq, UInt8.le_iff_toNat_le, hsecond,
      UInt8.reduceToNat] <;> omega
  have hvalue : (n / 262144 % 8 + 240) % 8 * 262144 + n / 4096 % 64 * 4096 + n / 64 % 64 * 64 +
      n % 64 = n := by omega
  simp only [scan.eq_def, isContinuation_ofNat, bits_ofNat, hallowed, if_true, Bool.and_eq_true,
    decide_eq_true_eq, UInt8.lt_iff_toNat_lt, UInt8.le_iff_toNat_le, hfirst, UInt8.reduceToNat,
    hvalue]
  rw [if_neg (by omega), if_neg (by omega), if_neg (by omega), if_pos (by omega)]

/-- **Characters.** The bytes of a character are read in one step. -/
theorem steps_encodeChar_append (c : Char) (rest : Bytes) :
    steps (String.utf8EncodeChar c ++ rest) = some c :: steps rest := by
  obtain ⟨n, hn⟩ : ∃ n, n = c.val.toNat := ⟨_, rfl⟩
  have hchar : Char.ofNat n = c := by rw [hn, Char.toNat_val, Char.ofNat_toNat]
  have hvalid : n.isValidChar := hn ▸ c.valid
  simp only [String.utf8EncodeChar, ← hn]
  -- one case for each number of bytes
  split_ifs with hone htwo hthree
  · have hascii : (UInt8.ofNat n).toNat = n := toNat_byte (by omega)
    have hlt : UInt8.ofNat n < 128 := by
      rw [UInt8.lt_iff_toNat_lt, hascii]
      exact Nat.lt_succ_of_le hone
    rw [List.singleton_append, steps_cons, scan_of_lt hlt, hascii, hchar, List.drop_zero]
  · rw [List.cons_append, List.singleton_append, steps_cons, scan_two (by omega) (by omega), hchar]
    rfl
  · rw [List.cons_append, List.cons_append, List.singleton_append, steps_cons,
      scan_three (by omega) (by omega) hvalid, hchar]
    rfl
  · rw [List.cons_append, List.cons_append, List.cons_append, List.singleton_append, steps_cons,
      scan_four (by omega) hvalid, hchar]
    rfl

/-! ### Texts -/

/-- The bytes of characters. -/
theorem steps_flatMap_append (chars : List Char) (rest : Bytes) :
    steps (chars.flatMap String.utf8EncodeChar ++ rest) = chars.map some ++ steps rest := by
  induction chars with
  | nil => rfl
  | cons c chars ih =>
    rw [List.flatMap_cons, List.append_assoc, steps_encodeChar_append, ih, List.map_cons,
      List.cons_append]

/-- **Texts.** A text in front of other bytes is read as it is. -/
theorem decode?_encode_append (text : String) (rest : Bytes) :
    decode? (encode text ++ rest) = (decode? rest).map (text ++ ·) := by
  have hall : ((text.toList.map some).all Option.isSome) = true := by simp
  have hchars : (text.toList.map some).filterMap id = text.toList := by simp
  rw [decode?, decode?, encode, steps_flatMap_append]
  simp only [List.all_append, hall, Bool.true_and, List.filterMap_append, hchars]
  split_ifs with hrest
  · rw [Option.map_some, String.ofList_append, String.ofList_toList]
  · rfl

theorem decode?_encode (text : String) : decode? (encode text) = some text := by
  have hnil : decode? [] = some "" := by
    rw [decode?, steps, stepsAfter]
    rfl
  have happend := decode?_encode_append text []
  rwa [List.append_nil, hnil, Option.map_some, String.append_empty] at happend

/-- Where the bytes of a text start with those of another one, so does the text. -/
theorem prefix_of_encode_prefix {front chars : List Char}
    (h : front.flatMap String.utf8EncodeChar <+: chars.flatMap String.utf8EncodeChar) :
    front <+: chars := by
  obtain ⟨rest, hrest⟩ := h
  have hsteps := steps_flatMap_append front rest
  have hwhole := steps_flatMap_append chars []
  have hnil : steps [] = [] := by
    rw [steps, stepsAfter]
    rfl
  rw [hrest] at hsteps
  rw [List.append_nil, hnil, List.append_nil, hsteps] at hwhole
  have hprefix : front.map some <+: chars.map some := ⟨_, hwhole⟩
  exact (List.prefix_map_iff_of_injective fun _ _ => Option.some.inj).mp hprefix

theorem encode_ofList_append (front behind : List Char) :
    encode (String.ofList (front ++ behind)) =
      encode (String.ofList front) ++ encode (String.ofList behind) := by
  simp only [encode, String.toList_ofList, List.flatMap_append]

theorem encode_ofList_ne_nil {line : List Char} (h : line ≠ []) : encode (String.ofList line) ≠ [] := by
  obtain ⟨c, rest, rfl⟩ := List.exists_cons_of_ne_nil h
  have hsize := c.utf8Size_pos
  rw [← String.length_utf8EncodeChar] at hsize
  rw [encode, String.toList_ofList, List.flatMap_cons]
  exact List.append_ne_nil_of_left_ne_nil (List.ne_nil_of_length_pos hsize) _

theorem encode_line (line : List Char) :
    encode (String.ofList (line ++ ['\n'])) = line.flatMap String.utf8EncodeChar ++ [10] := by
  rw [encode, String.toList_ofList, List.flatMap_append]
  rfl

/-- A character below 128 has its byte for itself. -/
theorem ofNat_mem_of_mem {line : List Char} {b : UInt8} (hb : b < 128)
    (h : b ∈ line.flatMap String.utf8EncodeChar) : Char.ofNat b.toNat ∈ line := by
  obtain ⟨c, hc, hbyte⟩ := List.mem_flatMap.mp h
  rcases Nat.lt_or_ge c.toNat 128 with hascii | habove
  · rw [encodeChar_of_lt hascii, List.mem_singleton] at hbyte
    rw [hbyte, UInt8.toNat_ofNat', Nat.mod_eq_of_lt (Nat.lt_trans hascii (by decide)), Char.ofNat_toNat]
    exact hc
  · have hlarge := le_toNat_of_mem_encodeChar habove hbyte
    rw [UInt8.lt_iff_toNat_lt] at hb
    exact absurd hb (Nat.not_lt.mpr hlarge)

end RequestSigning.Utf8
