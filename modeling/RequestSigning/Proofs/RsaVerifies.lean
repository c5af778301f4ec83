import RequestSigning.Proofs.Base64
import RequestSigning.Proofs.LocalSigner
import RequestSigning.Proofs.ModulusWidth
import RequestSigning.Proofs.PublicKeyBlob

/-!
# RSA signatures verify under the advertised key

A verifier knows of a local signer the blob of its public key, the texts it signs, and the Base64
texts of the signatures. `Verifies` is what it checks of them, without the private key.
`rsa_signatures_verify` says that the check succeeds for every key in every encoding, every text and
every date.

The signature has to be as many bytes as the modulus and a number below it, and its power by the
public exponent the padded digest of the text. The exponent and the modulus are not the private
key's fields but the two numbers that are read from the blob, as a verifier has to.
-/

namespace RequestSigning

/-- A Base64 text **verifies** as the signature of a text under a public exponent and a modulus: it
decodes to as many bytes as the modulus has, to a number below the modulus, and the power of that
number is the padded digest of the text. -/
def Verifies (e n : Nat) (text signed : String) : Prop :=
  ∃ signature, Base64.decode? (Utf8.encode signed) = some signature ∧
    signature.length = Bytes.width n ∧ Bytes.toNat signature < n ∧
    Rsa.emsaEncode? (Bytes.width n) (Sha2.sha512 (Utf8.encode text)) =
      some (Bytes.ofNat (Bytes.width n) (Bytes.toNat signature ^ e % n))

/-- A signature by an RSA key verifies under the public half of the key. -/
theorem verifies_of_sign {key : Rsa.PrivateKey} {draw : Nat} {text : String} {signature : Bytes}
    (h : (PrivateKey.rsa key).sign draw (Utf8.encode text) = .ok signature) :
    Verifies key.e key.n text (Base64.encode signature) := by
  rw [PrivateKey.sign] at h
  cases hsign : key.sign (Sha2.sha512 (Utf8.encode text)) with
  | error fault => simp [hsign] at h
  | ok signed =>
    simp only [hsign] at h
    obtain rfl := Except.ok.inj h
    have hdecode : Base64.decode? (Utf8.encode (Base64.encode signed)) = some signed := by
      rw [Base64.utf8_encode, Base64.decode?_encodeBytes]
    exact ⟨signed, hdecode, Rsa.PrivateKey.sign_eq_ok (Sha2.length_sha512 _) hsign⟩

/-- **RSA signatures verify.** Let a signer be made for an RSA key that was read from a text. The
blob of the signer's key holds a public exponent and a modulus, the same that are read from it where
it is not too long to be read, and every signature of a text, and the one in every Authorization
value for a date, verifies under them. -/
theorem rsa_signatures_verify {bytes : Bytes} {key : Rsa.PrivateKey} {trial : Nat}
    {keyName account : String} {user : Option String} {signer : LocalSigner}
    (hparse : PrivateKey.parse bytes = .ok (.rsa key))
    (hmake : (LocalSigner.make trial keyName (.rsa key) account user).value = .ok signer) :
    ∃ e n, Ssh.rsaNumbers? signer.key.blob = some (e, n) ∧
      (Bytes.width n < Wire.maxField → ∃ eBytes nBytes,
        Ssh.PublicKey.decode? signer.key.blob = some (.rsa eBytes nBytes) ∧
        Bytes.toNat eBytes = e ∧ Bytes.toNat nBytes = n) ∧
      (∀ draw text raw, (signer.signRaw draw text).value = .ok raw →
        Verifies e n text raw.signature) ∧
      ∀ draw date value, (signer.sign draw date).value = .ok value →
        ∃ signed, Verifies e n ("date: " ++ date) signed ∧
          value = "Signature keyId=\"" ++ signer.identity.keyId.text ++
            "\",algorithm=\"" ++ "rsa-sha512" ++ "\",headers=\"date\",signature=\"" ++ signed ++
            "\"" := by
  obtain ⟨-, rfl⟩ := LocalSigner.make_eq_ok hmake
  refine ⟨key.e, key.n, PrivateKey.rsaNumbers?_blob (PrivateKey.width_of_parse hparse), ?_, ?_, ?_⟩
  · intro hshort
    exact ⟨_, _, PrivateKey.decode?_blob hshort, Wire.toNat_integerContent _,
      Wire.toNat_integerContent _⟩
  · intro draw text raw hraw
    obtain ⟨signature, hsign, rfl⟩ := LocalSigner.signRaw_eq_ok hraw
    exact verifies_of_sign hsign
  · intro draw date value hvalue
    obtain ⟨signature, hsign, rfl⟩ := LocalSigner.sign_eq_ok hvalue
    exact ⟨_, verifies_of_sign hsign, rfl⟩

/-! ### A key of 94 bytes -/

/-- The encoding of a text, from the characters of its bytes. -/
private theorem PrivateKey.encodingOf_eq (bytes : Bytes) :
    encodingOf bytes =
      if (Utf8.steps bytes).all Option.isSome then
        match (Text.lines ((Utf8.steps bytes).filterMap id)).findSome? labelOfLine? with
        | none => .error .noHeader
        | some label => KeyEncoding.ofLabel (String.ofList label)
      else .error .notText := by
  rw [encodingOf, Utf8.decode?]
  by_cases h : (Utf8.steps bytes).all Option.isSome
  · simp only [h, if_true, label?, String.toList_ofList]
    cases (Text.lines ((Utf8.steps bytes).filterMap id)).findSome? labelOfLine? <;> rfl
  · simp only [h]
    rfl

/-- A key whose modulus has 94 bytes, the fewest that a padded digest fits in. -/
def shortNumbers : Rsa.Numbers :=
  let p :=
    0xcc8c3c637cf898d3d33a29fa5cfb147b66e7518ec74c66a2abaccb3a47955700828b40ca08686e7acea1ba20e7f533
  let q :=
    0xf21a34ed98e09db01f235b2fd93ff5ea3543112151d8dc21bae8fc3e864ac138af2a87f573bf7b7ad58cfae89a55bf
  ⟨p * q, 3, (2 * (p - 1) * (q - 1) + 1) / 3, p, q⟩

/-- The text of that key. -/
def shortText : Bytes :=
  let k := shortNumbers
  let aids : Pkcs1.Aids :=
    ⟨k.d % (k.p - 1), k.d % (k.q - 1), (Modular.inverse? k.q k.p).getD 0⟩
  let label := Utf8.encode KeyEncoding.pkcs1.label ++ Pem.dashes
  let body := Bytes.chunks 64 (Base64.encodeBytes (Pkcs1.encode k aids))
  Pem.beginMark ++ label ++ [10] ++ body.flatMap (· ++ [10]) ++ Pem.endMark ++ label

theorem rsa_signatures_verify_short :
    ∃ key signer raw, PrivateKey.parse shortText = .ok (.rsa key) ∧
      (LocalSigner.make 0 "c50689345f77572f2f38dc166430f979" (.rsa key) "acct" none).value =
        .ok signer ∧
      (signer.signRaw 0 "text").value = .ok raw ∧
      ∃ e n, Ssh.rsaNumbers? signer.key.blob = some (e, n) ∧ Verifies e n "text" raw.signature := by
  -- all that can fail is run at once, and the stages are read off the result
  have hruns : (((PrivateKey.parse shortText).toOption.filter fun key => key.kind = .rsa).bind
      fun key =>
        (LocalSigner.make 0 "c50689345f77572f2f38dc166430f979" key "acct"
          none).value.toOption.bind fun signer =>
            (signer.signRaw 0 "text").value.toOption).isSome = true := by
    rw [PrivateKey.parse, PrivateKey.parseWith, PrivateKey.encodingOf_eq]
    decide +kernel
  obtain ⟨raw, hraw⟩ := Option.isSome_iff_exists.mp hruns
  simp only [Option.bind_eq_some_iff, Option.filter_eq_some_iff,
    Wire.toOption_eq_some_iff] at hraw
  obtain ⟨key, ⟨hparse, hkind⟩, signer, hmake, hraw⟩ := hraw
  cases key with
  | ecdsa key => simp [PrivateKey.kind] at hkind
  | rsa key =>
    obtain ⟨e, n, hnumbers, -, hverifies, -⟩ := rsa_signatures_verify hparse hmake
    exact ⟨key, signer, raw, hparse, hmake, hraw, e, n, hnumbers, hverifies 0 "text" raw hraw⟩

end RequestSigning
