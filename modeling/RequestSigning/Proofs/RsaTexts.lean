import RequestSigning.Proofs.Armour
import RequestSigning.Proofs.NamedKey
import RequestSigning.Proofs.OpenSshFiles
import RequestSigning.Proofs.PkcsKeys
import RequestSigning.Proofs.SelfTest

/-!
# The texts of an RSA key

The numbers of an RSA key can be written as a text in three encodings, each of which carries more
than the numbers: aids to computation, check numbers, a comment. `Rsa.Numbers.WrittenAs` lists these
texts, within the sizes that are read. `rsa_encodings_agree` says that the encoding makes no
difference: all the texts of some numbers are refused, or all give one and the same key.

What `WrittenAs` asks of a text it asks for a reason, as `rsa_encodings_differ` shows: a comment that
is not text, a comment that makes the section too long, and an aid that makes an element too long are
refused in the encoding that carries them.
-/

namespace RequestSigning

open Wire

/-- The numbers of an RSA key **are written as** a text: it is the armour of the numbers in one of the
encodings, whatever else that encoding carries, as long as a comment is text and the size is one that
is read. -/
inductive Rsa.Numbers.WrittenAs (k : Rsa.Numbers) : Bytes → Prop
  | pkcs1 (eol : Pem.LineEnd) (aids : Pkcs1.Aids)
      (hlength : (Pkcs1.encode k aids).length < 2 ^ 28 + 6) :
      WrittenAs k (KeyEncoding.pkcs1.armour eol (Pkcs1.encode k aids))
  | pkcs8 (eol : Pem.LineEnd) (aids : Pkcs1.Aids)
      (hlength : (Pkcs8.encode (Pkcs8.rsaContent k aids)).length < 2 ^ 28 + 6) :
      WrittenAs k (KeyEncoding.pkcs8.armour eol (Pkcs8.encode (Pkcs8.rsaContent k aids)))
  | openSsh (eol : Pem.LineEnd) (inverse check : Nat) (comment : Bytes)
      (htext : (Utf8.decode? comment).isSome)
      (hlength : (OpenSsh.clearSection check (OpenSsh.numbersPair k inverse) comment).length ≤
        maxField) :
      WrittenAs k (KeyEncoding.openSsh.armour eol (OpenSsh.encodeNumbers k inverse check comment))

variable {k : Rsa.Numbers} {text : Bytes}

/-- A text that numbers are written as is parsed as the key of the numbers. -/
theorem Rsa.Numbers.WrittenAs.parse (h : k.WrittenAs text) :
    (PrivateKey.parse text).toOption = k.key.toOption.map .rsa := by
  cases h with
  | pkcs1 eol aids hlength =>
    rw [KeyEncoding.parse_pkcs1 (Pkcs1.encode_ne_nil _ _), Pkcs1.key?_encode hlength]
    cases k.key <;> rfl
  | pkcs8 eol aids hlength =>
    rw [KeyEncoding.parse_pkcs8 (Pkcs8.encode_ne_nil _), Pkcs8.key?_encode_rsa hlength]
    cases k.key <;> rfl
  | openSsh eol inverse check comment htext hlength =>
    rw [KeyEncoding.parse_openSsh (OpenSsh.encodeNumbers_ne_nil _ _ _ _)]
    exact OpenSsh.key_encodeNumbers hlength htext

/-- Parsing a key reports the parser's refusal and nothing else. -/
theorem value_parseKey (bytes : Bytes) :
    (parseKey bytes).value = (PrivateKey.parse bytes).mapError .keyParse := by
  rw [parseKey, PrivateKey.parse]
  simp only [bind, Except.bind]
  cases PrivateKey.parseWith bytes <;> rfl

/-- **The encodings agree.** Either the numbers of an RSA key have a fault and every text they are
written as is refused, or every such text gives one key. Its blob is made of the public exponent and
the modulus, and whatever signers are made for it give the same raw signatures. -/
theorem rsa_encodings_agree (k : Rsa.Numbers) :
    ((∃ fault, k.key = .error fault) ∧
      ∀ text, k.WrittenAs text → ∃ fault, (parseKey text).value = .error (.keyParse fault)) ∨
    ∃ key, k.key = .ok key ∧
      (∀ text, k.WrittenAs text → (parseKey text).value = .ok (.rsa key)) ∧
      (PrivateKey.rsa key).blob = field (Utf8.encode "ssh-rsa") ++
        (field (integerContent k.e) ++ field (integerContent k.n)) ∧
      ∀ trial otherTrial keyName otherName account otherAccount user otherUser signer otherSigner,
        (LocalSigner.make trial keyName (.rsa key) account user).value = .ok signer →
        (LocalSigner.make otherTrial otherName (.rsa key) otherAccount otherUser).value =
          .ok otherSigner →
        ∀ draw otherDraw message,
          (otherSigner.signRaw otherDraw message).value = (signer.signRaw draw message).value := by
  cases hkey : k.key with
  | error fault =>
    refine .inl ⟨⟨fault, rfl⟩, fun text hwritten => ?_⟩
    have hparse := hwritten.parse
    rw [hkey] at hparse
    rw [value_parseKey]
    cases hresult : PrivateKey.parse text with
    | error fault => exact ⟨fault, rfl⟩
    | ok key =>
      rw [hresult] at hparse
      simp [Except.toOption] at hparse
  | ok key =>
    refine .inr ⟨key, rfl, fun text hwritten => ?_, ?_, ?_⟩
    · have hparse := hwritten.parse
      rw [hkey] at hparse
      rw [value_parseKey, toOption_eq_some_iff.mp hparse]
      rfl
    · rw [← Rsa.Numbers.key_eq_ok hkey]
      rfl
    · intro trial otherTrial keyName otherName account otherAccount user otherUser signer
        otherSigner hmake hother draw otherDraw message
      refine LocalSigner.signRaw_congr hmake hother ?_
      rw [PrivateKey.sign_rsa, PrivateKey.sign_rsa]

/-! ### A small key -/

/-- The numbers of a small key. The top bit of its modulus is set. -/
def smallNumbers : Rsa.Numbers := ⟨253, 3, 37, 11, 23⟩

def smallKey : Rsa.PrivateKey := ⟨smallNumbers, by decide⟩

theorem key_smallNumbers : smallNumbers.key = .ok smallKey := rfl

/-- The small key in PKCS#1 and in PKCS#8, with an aid to computation. -/
def smallPkcs1 (dp : Nat) : Bytes :=
  KeyEncoding.pkcs1.armour .lf (Pkcs1.encode smallNumbers ⟨dp, 15, 1⟩)

def smallPkcs8 (dp : Nat) : Bytes :=
  KeyEncoding.pkcs8.armour .crlf (Pkcs8.encode (Pkcs8.rsaContent smallNumbers ⟨dp, 15, 1⟩))

/-- The small key as an OpenSSH key, with a comment. -/
def smallOpenSsh (comment : Bytes) : Bytes :=
  KeyEncoding.openSsh.armour .lf (OpenSsh.encodeNumbers smallNumbers 1 0 comment)

/-- One small key, read from its three texts. -/
theorem rsa_encodings_agree_small :
    ∃ key, key.toNumbers = smallNumbers ∧
      (parseKey (smallPkcs1 7)).value = .ok (.rsa key) ∧
      (parseKey (smallPkcs8 0)).value = .ok (.rsa key) ∧
      (parseKey (smallOpenSsh (Utf8.encode "key"))).value = .ok (.rsa key) ∧
      (PrivateKey.rsa key).blob =
        [0, 0, 0, 7, 115, 115, 104, 45, 114, 115, 97, 0, 0, 0, 1, 3, 0, 0, 0, 2, 0, 253] := by
  obtain ⟨⟨fault, hfault⟩, -⟩ | ⟨key, hkey, htexts, hblob, -⟩ := rsa_encodings_agree smallNumbers
  · rw [key_smallNumbers] at hfault
    cases hfault
  · refine ⟨key, Rsa.Numbers.key_eq_ok hkey, htexts _ (.pkcs1 _ _ ?_), htexts _ (.pkcs8 _ _ ?_),
      htexts _ (.openSsh _ _ _ _ ?_ ?_), ?_⟩
    · decide
    · decide
    · decide +kernel
    · decide
    · rw [hblob]
      decide

/-! ### What is refused -/

/-- A refused content of an OpenSSH file is a refused file. -/
theorem parse_smallOpenSsh {comment : Bytes}
    (h : OpenSsh.key (OpenSsh.encodeNumbers smallNumbers 1 0 comment) = .error .malformedBlock) :
    (parseKey (smallOpenSsh comment)).value = .error (.keyParse .malformedBlock) := by
  rw [value_parseKey, smallOpenSsh, KeyEncoding.parse_openSsh (OpenSsh.encodeNumbers_ne_nil _ _ _ _),
    h]
  rfl

section

variable {dp : Nat}

/-- An exponent too wide for the reader's lengths spoils the PKCS#1 text. -/
theorem parse_smallPkcs1_of_wide (h : 2 ^ 28 + 6 ≤ Bytes.width dp) :
    (parseKey (smallPkcs1 dp)).value = .error (.keyParse .malformedBlock) := by
  have hlong := h.trans (Pkcs1.width_le_length_encode smallNumbers ⟨dp, 15, 1⟩)
  rw [value_parseKey, smallPkcs1, KeyEncoding.parse_pkcs1 (Pkcs1.encode_ne_nil _ _),
    Pkcs1.key?_eq_none_of_long hlong]
  rfl

/-- The same exponent spoils the PKCS#8 text. -/
theorem parse_smallPkcs8_of_wide (h : 2 ^ 28 + 6 ≤ Bytes.width dp) :
    (parseKey (smallPkcs8 dp)).value = .error (.keyParse .malformedPkcs8) := by
  have hkey := Pkcs8.length_key_le (Pkcs8.rsaContent smallNumbers ⟨dp, 15, 1⟩)
  have hlong := h.trans ((Pkcs1.width_le_length_encode smallNumbers ⟨dp, 15, 1⟩).trans hkey)
  rw [value_parseKey, smallPkcs8, KeyEncoding.parse_pkcs8 (Pkcs8.encode_ne_nil _),
    Pkcs8.key?_eq_none_of_long hlong]
  rfl

end

/-- What `WrittenAs` asks of a text is needed: a key that is accepted in one encoding is refused where
its comment is not text, where its comment takes a megabyte, and where an aid is too wide for an
element. -/
theorem rsa_encodings_differ :
    (parseKey (smallPkcs1 7)).value = .ok (.rsa smallKey) ∧
      (parseKey (smallOpenSsh [0xFF])).value = .error (.keyParse .malformedBlock) ∧
      (Utf8.decode? (List.replicate 0x100000 0x61)).isSome ∧
      (parseKey (smallOpenSsh (List.replicate 0x100000 0x61))).value =
        .error (.keyParse .malformedBlock) ∧
      (parseKey (smallPkcs1 (256 ^ (2 ^ 28 + 6)))).value = .error (.keyParse .malformedBlock) ∧
      (parseKey (smallPkcs8 (256 ^ (2 ^ 28 + 6)))).value = .error (.keyParse .malformedPkcs8) := by
  have hpair : (OpenSsh.numbersPair smallNumbers 1).length = 42 := by decide
  have hsection := OpenSsh.length_clearSection 0 (OpenSsh.numbersPair smallNumbers 1)
    (List.replicate 0x100000 0x61)
  rw [hpair, List.length_replicate] at hsection
  have hwide : 2 ^ 28 + 6 ≤ Bytes.width (256 ^ (2 ^ 28 + 6)) :=
    (Bytes.lt_width_pow (2 ^ 28 + 6)).le
  refine ⟨?_, parse_smallOpenSsh ?_, ?_, parse_smallOpenSsh ?_, parse_smallPkcs1_of_wide hwide,
    parse_smallPkcs8_of_wide hwide⟩
  · have hwritten : smallNumbers.WrittenAs (smallPkcs1 7) := .pkcs1 _ _ (by decide)
    have hparse := hwritten.parse
    rw [key_smallNumbers] at hparse
    rw [value_parseKey, toOption_eq_some_iff.mp hparse]
    rfl
  · exact OpenSsh.key_encodeNumbers_of_no_text (by decide) (by decide +kernel)
  · rw [Utf8.decode?_of_ascii]
    · rfl
    · intro b hb
      rw [List.eq_of_mem_replicate hb]
      decide
  · refine OpenSsh.key_encodeNumbers_of_long ?_ ?_ ?_
    · rw [hpair]
      decide
    · rw [hsection]
      decide
    · rw [hsection]
      decide

end RequestSigning
