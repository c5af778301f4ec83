import RequestSigning.Base64
import RequestSigning.Text.Utf8
import Mathlib.Tactic.Common

/-!
# Base64 texts read back

The text of a byte string decodes to that byte string (`Base64.decode?_encodeBytes`). The proof
goes group by group: a group of one to three bytes becomes four characters that decode to it
(`Base64.decodeLast?_encodeGroup`), and cutting the characters in fours finds the groups again.
The text is ASCII (`Base64.encodeBytes_lt`), so its UTF-8 bytes are its characters
(`Base64.utf8_encode`), and padding can stand in the last two places only
(`Base64.pad_notMem_take`).
-/

namespace RequestSigning

/-! ### Pieces -/

namespace Bytes

variable {α : Type}

private theorem chunksAfter_eq (size : Nat) (done : List (List α)) (l : List α) :
    chunksAfter size done l = done.reverse ++ chunksAfter size [] l := by
  induction h : l.length using Nat.strongRecOn generalizing done l with
  | ind n ih =>
    cases l with
    | nil => simp [chunksAfter]
    | cons a rest =>
      have hshorter : (rest.drop size).length < n := by
        rw [List.length_cons] at h
        rw [List.length_drop]
        omega
      rw [chunksAfter, chunksAfter, ih _ hshorter _ _ rfl, ih _ hshorter [_] _ rfl]
      simp

@[simp] theorem chunks_nil (size : Nat) : chunks size ([] : List α) = [] := by
  simp [chunks, chunksAfter]

/-- Each piece is cut from the front. -/
theorem chunks_cons (size : Nat) (a : α) (rest : List α) :
    chunks (size + 1) (a :: rest) = (a :: rest.take size) :: chunks (size + 1) (rest.drop size) := by
  rw [chunks, Nat.add_sub_cancel, chunksAfter, chunksAfter_eq]
  rfl

/-- A whole piece at the front is cut off. -/
theorem chunks_append {size : Nat} (hsize : 0 < size) (piece : List α)
    (h : piece.length = size) (rest : List α) :
    chunks size (piece ++ rest) = piece :: chunks size rest := by
  obtain ⟨size, rfl⟩ := Nat.exists_eq_add_one.mpr hsize
  cases piece with
  | nil => simp at h
  | cons a piece =>
    have hlength : piece.length = size := by simpa using h
    rw [List.cons_append, chunks_cons, List.take_left' hlength, List.drop_left' hlength]

end Bytes

namespace Base64

/-! ### Characters -/

/-- Digits are read back. -/
theorem value?_digit {n : Nat} (h : n < 64) : value? (digit n) = some n := by
  have hall : ∀ n < 64, value? (digit n) = some n := by decide
  exact hall n h

/-- The padding is no digit, so it cannot be mistaken for data. -/
theorem digit_ne_pad {n : Nat} (h : n < 64) : digit n ≠ pad := by
  have hall : ∀ n < 64, digit n ≠ pad := by decide
  exact hall n h

theorem digit_lt {n : Nat} (h : n < 64) : digit n < 128 := by
  have hall : ∀ n < 64, digit n < 128 := by decide
  exact hall n h

/-! ### Groups -/

private theorem ofNat_of_eq {n : Nat} {b : UInt8} (h : n = b.toNat) : UInt8.ofNat n = b := by
  rw [h, UInt8.ofNat_toNat]

/-- The first byte of a group comes back from the first character and the top of the second. -/
private theorem first_byte (a : UInt8) (low : Nat) (h : low < 16) :
    UInt8.ofNat (a.toNat / 4 * 4 + (a.toNat % 4 * 16 + low) / 16) = a :=
  ofNat_of_eq (by omega)

/-- The second byte comes back from the rest of the second character and the top of the third. -/
private theorem second_byte (a b : UInt8) (low : Nat) (h : low < 4) :
    UInt8.ofNat ((a.toNat % 4 * 16 + b.toNat / 16) % 16 * 16 + (b.toNat % 16 * 4 + low) / 4) = b := by
  have hb : b.toNat < 256 := b.toNat_lt
  exact ofNat_of_eq (by omega)

/-- The third byte comes back from the rest of the third character and the fourth. -/
private theorem third_byte (b c : UInt8) :
    UInt8.ofNat ((b.toNat % 16 * 4 + c.toNat / 64) % 4 * 64 + c.toNat % 64) = c := by
  have hc : c.toNat < 256 := c.toNat_lt
  exact ofNat_of_eq (by omega)

/-- A last byte is written with two digits and two paddings. -/
private theorem decodeLast?_one (a : UInt8) : decodeLast? (encodeGroup [a]) = some [a] := by
  have ha : a.toNat < 256 := a.toNat_lt
  have hw := value?_digit (n := a.toNat / 4) (by omega)
  have hx := value?_digit (n := a.toNat % 4 * 16) (by omega)
  have hfirst := first_byte a 0 (by omega)
  have hclear : a.toNat % 4 * 16 % 16 = 0 := by omega
  simp only [encodeGroup, decodeLast?, hw, hx, Option.bind_eq_bind, Option.bind_some, if_true,
    hclear, and_self]
  rw [Nat.add_zero] at hfirst
  rw [hfirst]

/-- Two last bytes are written with three digits and one padding. -/
private theorem decodeLast?_two (a b : UInt8) : decodeLast? (encodeGroup [a, b]) = some [a, b] := by
  have ha : a.toNat < 256 := a.toNat_lt
  have hb : b.toNat < 256 := b.toNat_lt
  have hw := value?_digit (n := a.toNat / 4) (by omega)
  have hx := value?_digit (n := a.toNat % 4 * 16 + b.toNat / 16) (by omega)
  have hy := value?_digit (n := b.toNat % 16 * 4) (by omega)
  have hypad := digit_ne_pad (n := b.toNat % 16 * 4) (by omega)
  have hfirst := first_byte a (b.toNat / 16) (by omega)
  have hsecond := second_byte a b 0 (by omega)
  have hclear : b.toNat % 16 * 4 % 4 = 0 := by omega
  simp only [encodeGroup, decodeLast?, hw, hx, hy, hypad, Option.bind_eq_bind, Option.bind_some,
    if_true, if_false, hclear]
  rw [Nat.add_zero] at hsecond
  rw [hfirst, hsecond]

/-- A full group needs no padding, also at the end. -/
private theorem decodeLast?_three (a b c : UInt8) (rest : Bytes) :
    decodeLast? (encodeGroup (a :: b :: c :: rest)) = some [a, b, c] := by
  have ha : a.toNat < 256 := a.toNat_lt
  have hb : b.toNat < 256 := b.toNat_lt
  have hc : c.toNat < 256 := c.toNat_lt
  have hw := value?_digit (n := a.toNat / 4) (by omega)
  have hx := value?_digit (n := a.toNat % 4 * 16 + b.toNat / 16) (by omega)
  have hy := value?_digit (n := b.toNat % 16 * 4 + c.toNat / 64) (by omega)
  have hz := value?_digit (n := c.toNat % 64) (by omega)
  have hypad := digit_ne_pad (n := b.toNat % 16 * 4 + c.toNat / 64) (by omega)
  have hzpad := digit_ne_pad (n := c.toNat % 64) (by omega)
  have hfirst := first_byte a (b.toNat / 16) (by omega)
  have hsecond := second_byte a b (c.toNat / 64) (by omega)
  have hthird := third_byte b c
  simp only [encodeGroup, decodeLast?, hw, hx, hy, hz, hypad, hzpad, Option.bind_eq_bind,
    Option.bind_some, if_false]
  rw [hfirst, hsecond, hthird]

/-! ### Byte strings -/

/-- Bytes are encoded three at a time. -/
theorem encodeBytes_cons (a b c : UInt8) (rest : Bytes) :
    encodeBytes (a :: b :: c :: rest) = encodeGroup [a, b, c] ++ encodeBytes rest := by
  have hchunks := Bytes.chunks_append (show 0 < 3 by omega) [a, b, c] rfl rest
  rw [List.cons_append, List.cons_append, List.cons_append, List.nil_append] at hchunks
  rw [encodeBytes, hchunks, List.flatMap_cons]
  rfl

private theorem encodeBytes_last {bytes : Bytes} (hpos : bytes ≠ []) (h : bytes.length ≤ 3) :
    encodeBytes bytes = encodeGroup bytes := by
  obtain ⟨a, rest, rfl⟩ := List.exists_cons_of_ne_nil hpos
  have hrest : rest.length ≤ 2 := Nat.le_of_succ_le_succ h
  rw [encodeBytes, Bytes.chunks_cons, List.take_of_length_le hrest, List.drop_of_length_le hrest,
    Bytes.chunks_nil, List.flatMap_cons, List.flatMap_nil, List.append_nil]

/-- A group of three bytes is taken off, whether or not it is the last one. -/
private theorem decodeGroups?_cons {group bytes : Bytes} (h : decodeLast? group = some bytes)
    (hlength : bytes.length = 3) (done groups : List Bytes) :
    decodeGroups? done (group :: groups) = decodeGroups? (bytes :: done) groups := by
  cases groups with
  | nil => simp only [decodeGroups?, h, Option.map_some]
  | cons next groups => simp only [decodeGroups?, h, hlength, if_true]

/-- The decoder keeps the groups it has done in reverse. -/
private theorem decodeGroups?_encodeBytes (done : List Bytes) :
    ∀ bytes : Bytes, decodeGroups? done (Bytes.chunks 4 (encodeBytes bytes)) =
      some (done.reverse.flatten ++ bytes)
  | [] => by
    rw [encodeBytes, Bytes.chunks_nil, List.flatMap_nil, Bytes.chunks_nil, decodeGroups?,
      List.append_nil]
  | [a] => by
    have hcut := Bytes.chunks_append (show 0 < 4 by omega) (encodeGroup [a]) rfl []
    rw [encodeBytes_last (by simp) (by simp), ← List.append_nil (encodeGroup [a]), hcut,
      Bytes.chunks_nil, decodeGroups?, decodeLast?_one]
    simp
  | [a, b] => by
    have hcut := Bytes.chunks_append (show 0 < 4 by omega) (encodeGroup [a, b]) rfl []
    rw [encodeBytes_last (by simp) (by simp), ← List.append_nil (encodeGroup [a, b]), hcut,
      Bytes.chunks_nil, decodeGroups?, decodeLast?_two]
    simp
  | a :: b :: c :: rest => by
    have hcut := Bytes.chunks_append (show 0 < 4 by omega) (encodeGroup [a, b, c]) rfl
      (encodeBytes rest)
    rw [encodeBytes_cons, hcut, decodeGroups?_cons (decodeLast?_three a b c []) rfl,
      decodeGroups?_encodeBytes _ rest]
    simp

/-- **Round trip.** The text of a byte string decodes to the byte string. -/
theorem decode?_encodeBytes (bytes : Bytes) : decode? (encodeBytes bytes) = some bytes := by
  rw [decode?, decodeGroups?_encodeBytes]
  rfl

/-! ### Texts -/

/-- What holds of digits and of the padding holds of the whole encoding. -/
private theorem forall_mem_encodeGroup {P : UInt8 → Prop} (hdigit : ∀ n < 64, P (digit n))
    (hpad : P pad) (group : Bytes) : ∀ c ∈ encodeGroup group, P c := by
  match group with
  | [] => simp [encodeGroup]
  | [a] =>
    have ha : a.toNat < 256 := a.toNat_lt
    simp only [encodeGroup, List.forall_mem_cons]
    exact ⟨hdigit _ (by omega), hdigit _ (by omega), hpad, hpad, by simp⟩
  | [a, b] =>
    have ha : a.toNat < 256 := a.toNat_lt
    have hb : b.toNat < 256 := b.toNat_lt
    simp only [encodeGroup, List.forall_mem_cons]
    exact ⟨hdigit _ (by omega), hdigit _ (by omega), hdigit _ (by omega), hpad, by simp⟩
  | a :: b :: c :: rest =>
    have ha : a.toNat < 256 := a.toNat_lt
    have hb : b.toNat < 256 := b.toNat_lt
    have hc : c.toNat < 256 := c.toNat_lt
    simp only [encodeGroup, List.forall_mem_cons]
    exact ⟨hdigit _ (by omega), hdigit _ (by omega), hdigit _ (by omega), hdigit _ (by omega),
      by simp⟩

/-- What holds of every digit and of the padding holds of every character of a text. -/
theorem forall_mem_encodeBytes {P : UInt8 → Prop} (hdigit : ∀ n < 64, P (digit n)) (hpad : P pad)
    (bytes : Bytes) : ∀ c ∈ encodeBytes bytes, P c := by
  intro c hc
  obtain ⟨group, -, hmem⟩ := List.mem_flatMap.mp hc
  exact forall_mem_encodeGroup hdigit hpad group c hmem

/-- A text is ASCII. -/
theorem encodeBytes_lt (bytes : Bytes) : ∀ c ∈ encodeBytes bytes, c < 128 :=
  forall_mem_encodeBytes (fun _ h => digit_lt h) (by decide) bytes

/-- A text has four characters for every three bytes, and for the rest. -/
theorem length_encodeBytes : ∀ bytes : Bytes,
    (encodeBytes bytes).length = 4 * ((bytes.length + 2) / 3)
  | [] => by rw [encodeBytes, Bytes.chunks_nil]; rfl
  | [a] => by simp [encodeBytes_last, encodeGroup]
  | [a, b] => by simp [encodeBytes_last, encodeGroup]
  | a :: b :: c :: rest => by
    have hgroup : (encodeGroup [a, b, c]).length = 4 := rfl
    rw [encodeBytes_cons, List.length_append, hgroup, length_encodeBytes rest]
    simp only [List.length_cons]
    omega

theorem encodeBytes_ne_nil {bytes : Bytes} (h : bytes ≠ []) : encodeBytes bytes ≠ [] := by
  have hlength := length_encodeBytes bytes
  have hpos : 0 < bytes.length := List.length_pos_iff.mpr h
  rw [← List.length_pos_iff]
  omega

/-- There is no padding before the last two characters of a text. -/
theorem pad_notMem_take : ∀ bytes : Bytes,
    pad ∉ (encodeBytes bytes).take ((encodeBytes bytes).length - 2)
  | [] => by simp [encodeBytes]
  | [a] => by
    have ha : a.toNat < 256 := a.toNat_lt
    have hfirst := digit_ne_pad (n := a.toNat / 4) (by omega)
    have hsecond := digit_ne_pad (n := a.toNat % 4 * 16) (by omega)
    rw [encodeBytes_last (by simp) (by simp)]
    simp [encodeGroup, hfirst.symm, hsecond.symm]
  | [a, b] => by
    have ha : a.toNat < 256 := a.toNat_lt
    have hb : b.toNat < 256 := b.toNat_lt
    have hfirst := digit_ne_pad (n := a.toNat / 4) (by omega)
    have hsecond := digit_ne_pad (n := a.toNat % 4 * 16 + b.toNat / 16) (by omega)
    rw [encodeBytes_last (by simp) (by simp)]
    simp [encodeGroup, hfirst.symm, hsecond.symm]
  | a :: b :: c :: rest => by
    have ha : a.toNat < 256 := a.toNat_lt
    have hb : b.toNat < 256 := b.toNat_lt
    have hc : c.toNat < 256 := c.toNat_lt
    have hgroup : (encodeGroup [a, b, c]).length = 4 := rfl
    have hnone : ∀ d ∈ encodeGroup [a, b, c], d ≠ pad := by
      simp only [encodeGroup, List.forall_mem_cons]
      exact ⟨digit_ne_pad (by omega), digit_ne_pad (by omega), digit_ne_pad (by omega),
        digit_ne_pad (by omega), by simp⟩
    have hsplit : 4 + (encodeBytes rest).length - 2 - 4 = (encodeBytes rest).length - 2 := by omega
    rw [encodeBytes_cons, List.length_append, hgroup, List.take_append, hgroup, hsplit,
      List.mem_append]
    rintro (hmem | hmem)
    · exact hnone pad (List.mem_of_mem_take hmem) rfl
    · exact pad_notMem_take rest hmem

/-- An ASCII byte is its own UTF-8 encoding. -/
theorem utf8EncodeChar_ofNat {c : UInt8} (h : c < 128) :
    String.utf8EncodeChar (Char.ofNat c.toNat) = [c] := by
  have hall : ∀ n < 128, String.utf8EncodeChar (Char.ofNat n) = [UInt8.ofNat n] := by decide
  rw [hall c.toNat (UInt8.lt_iff_toNat_lt.mp h), UInt8.ofNat_toNat]

/-- The UTF-8 bytes of a Base64 text are its characters. -/
theorem utf8_encode (bytes : Bytes) : Utf8.encode (encode bytes) = encodeBytes bytes := by
  have hascii := encodeBytes_lt bytes
  rw [Utf8.encode, encode, String.toList_ofList, List.flatMap_map]
  generalize encodeBytes bytes = chars at hascii
  induction chars with
  | nil => rfl
  | cons c chars ih =>
    rw [List.forall_mem_cons] at hascii
    rw [List.flatMap_cons, utf8EncodeChar_ofNat hascii.1, ih hascii.2, List.singleton_append]

end Base64

end RequestSigning
