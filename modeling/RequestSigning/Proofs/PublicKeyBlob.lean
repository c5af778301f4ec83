import RequestSigning.PrivateKey.Basic
import RequestSigning.Proofs.Rsa
import RequestSigning.Proofs.WireFields

/-!
# The blob of an RSA key

`Ssh.rsaNumbers?` takes the blob of an RSA public key apart, of whatever length: three fields, the
name of the type and two integers in their shortest form, and nothing behind them. The blob of a
private key holds that key's public exponent and modulus (`PrivateKey.rsaNumbers?_blob`), and where
the modulus is short enough for a field that is read, `Ssh.PublicKey.decode?` reads the same numbers
(`PrivateKey.decode?_blob`).

The reader for blobs of any length is needed because the decoder of the wire format refuses fields
above its bound, and keys with a wider modulus than that are parsed. Below the bound the two readers
agree.
-/

namespace RequestSigning

open Wire

namespace Ssh

/-- The number in the content of an integer, unless it is negative or not in its shortest form. -/
def unsigned? : Bytes → Option Nat
  | [] => some 0
  | [first] => if first = 0 ∨ 0x80 ≤ first then none else some first.toNat
  | first :: second :: rest =>
    if 0x80 ≤ first ∨ first = 0 ∧ second < 0x80 then none
    else some (Bytes.toNat (first :: second :: rest))

/-- The **public exponent and modulus** in the blob of an RSA key. -/
def rsaNumbers? (blob : Bytes) : Option (Nat × Nat) := do
  let (name, rest) ← cutField? blob
  let (e, rest) ← cutField? rest
  let (n, rest) ← cutField? rest
  if name = Utf8.encode "ssh-rsa" ∧ rest = [] then
    let e ← unsigned? e
    let n ← unsigned? n
    some (e, n)
  else none

/-! ### Integers -/

/-- An integer's content is its shortest form. -/
theorem unsigned?_integerContent (n : Nat) : unsigned? (integerContent n) = some n := by
  have hvalue := toNat_integerContent n
  rw [integerContent] at hvalue ⊢
  cases hbytes : Bytes.minimal n with
  | nil =>
    rw [hbytes] at hvalue
    exact congrArg some hvalue
  | cons first rest =>
    have hfirst := Bytes.minimal_head_ne_zero hbytes
    rw [hbytes] at hvalue
    dsimp only at hvalue ⊢
    split_ifs at hvalue ⊢ with htop
    · -- the shortest form as it is: its first byte is neither zero nor negative
      have hclear : ¬0x80 ≤ first := UInt8.not_le.mpr htop
      cases rest with
      | nil =>
        have hdigit : Bytes.toNat [first] = first.toNat := by simp [Bytes.toNat]
        rw [unsigned?, if_neg (by simp [hfirst, hclear]), ← hdigit, hvalue]
      | cons second rest => rw [unsigned?, if_neg (by simp [hfirst, hclear]), hvalue]
    · -- a zero byte in front, which the top bit behind it calls for
      rw [unsigned?, if_neg (by simp [htop]), hvalue]

/-- A short field is read. -/
theorem readShort?_field {content : Bytes} {most : Nat} (hmost : most ≤ maxField)
    (h : content.length ≤ most) (rest : Bytes) :
    readShort? most (field content ++ rest) = some (content, rest) := by
  rw [readShort?, readField_field (h.trans hmost)]
  exact if_pos h

/-- An integer in its shortest form is read. -/
theorem readInteger?_field {n : Nat} (h : (integerContent n).length ≤ maxField) (rest : Bytes) :
    readInteger? (field (integerContent n) ++ rest) = some (integerContent n, rest) := by
  have hshortest := unsigned?_integerContent n
  rw [readInteger?, readField_field h]
  dsimp only
  -- what the reader refuses is no shortest form
  generalize integerContent n = content at hshortest
  split
  · simp [unsigned?] at hshortest
  · next second tail =>
    split_ifs with hsecond
    · simp [unsigned?, hsecond] at hshortest
    · rfl
  · rfl

/-- The public half of an RSA key is read, whatever stands behind it. -/
theorem readKey?_rsa {e n : Nat} (he : (integerContent e).length ≤ maxField)
    (hn : (integerContent n).length ≤ maxField) (rest : Bytes) :
    readKey? ((PublicKey.rsa (integerContent e) (integerContent n)).encode ++ rest) =
      some (.rsa (integerContent e) (integerContent n), rest) := by
  have hblob : (PublicKey.rsa (integerContent e) (integerContent n)).encode ++ rest =
      field (Utf8.encode "ssh-rsa") ++
        (field (integerContent e) ++ (field (integerContent n) ++ rest)) := by
    simp only [PublicKey.encode, PublicKey.typeBytes, PublicKey.fields, List.append_assoc]
  rw [readKey?, hblob, readShort?_field (by decide) (by decide)]
  simp only [readFields?, true_or, if_true, readInteger?_field he, readInteger?_field hn,
    Option.bind_eq_bind, Option.bind_some]

end Ssh

/-! ### Blobs -/

namespace PrivateKey

variable {key : Rsa.PrivateKey}

theorem length_integerContent_e (key : Rsa.PrivateKey) : (integerContent key.e).length ≤ 6 := by
  obtain ⟨-, -, -, he⟩ := Rsa.Numbers.fault?_eq_none key.sound
  have hwidth : Bytes.width key.e ≤ 5 := Bytes.width_le_of_lt (he.trans (by decide))
  exact (length_integerContent_le key.e).trans (by omega)

theorem blob_rsa (key : Rsa.PrivateKey) :
    (PrivateKey.rsa key).blob = field (Utf8.encode "ssh-rsa") ++
      (field (integerContent key.e) ++ (field (integerContent key.n) ++ [])) := by
  rw [List.append_nil]
  rfl

/-- The blob of a private key holds its public exponent and its modulus. -/
theorem rsaNumbers?_blob (h : Bytes.width key.n < 2 ^ 28) :
    Ssh.rsaNumbers? (PrivateKey.rsa key).blob = some (key.e, key.n) := by
  have hname : (Utf8.encode "ssh-rsa").length < 2 ^ 32 := by decide
  have he : (integerContent key.e).length < 2 ^ 32 :=
    (length_integerContent_e key).trans_lt (by decide)
  have hn : (integerContent key.n).length < 2 ^ 32 :=
    (length_integerContent_le key.n).trans_lt (by omega)
  rw [Ssh.rsaNumbers?, blob_rsa]
  simp only [cutField?_field hname, cutField?_field he, cutField?_field hn, Option.bind_eq_bind,
    Option.bind_some, and_self, if_true, Ssh.unsigned?_integerContent]

/-- A blob that is not too long is read as the key's public half. -/
theorem decode?_blob (h : Bytes.width key.n < maxField) :
    Ssh.PublicKey.decode? (PrivateKey.rsa key).blob =
      some (.rsa (integerContent key.e) (integerContent key.n)) := by
  have he : (integerContent key.e).length ≤ maxField :=
    (length_integerContent_e key).trans (by decide)
  have hn : (integerContent key.n).length ≤ maxField :=
    (length_integerContent_le key.n).trans h
  have hread := Ssh.readKey?_rsa he hn []
  rw [List.append_nil] at hread
  rw [Ssh.PublicKey.decode?, PrivateKey.blob, PrivateKey.publicKey, hread, Option.map_some]

end PrivateKey

end RequestSigning
