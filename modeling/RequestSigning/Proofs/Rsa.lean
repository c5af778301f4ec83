import RequestSigning.Der
import RequestSigning.Proofs.BigEndian
import RequestSigning.Proofs.Modular
import RequestSigning.Rsa

/-!
# RSA signatures

What is padded for a signature is the EMSA-PKCS1-v1_5 encoding of the digest, put together here
from its parts (`Rsa.emsaEncode?`). A private key's power is below its modulus whichever way it is
computed (`Rsa.PrivateKey.power_lt`), so a signature is a number below the modulus, as many bytes
long as the modulus, and its power by the public exponent is the padded digest
(`Rsa.PrivateKey.sign_eq_ok`).

Signing raises to the private exponent by the two factors of the modulus or by the whole of it, and
then checks the result by the public exponent. This check is what the theorems here rest on:
whatever numbers a key was given, a signature that it lets out is right.
-/

namespace RequestSigning.Rsa

/-! ### The padded digest -/

/-- The content of the object identifier of SHA-512, `2.16.840.1.101.3.4.2.3`. -/
def sha512Identifier : Bytes := [0x60, 0x86, 0x48, 0x01, 0x65, 0x03, 0x04, 0x02, 0x03]

/-- A SHA-512 digest with its algorithm, which has no parameters. -/
def encodedDigest (digest : Bytes) : Bytes :=
  Der.element Der.sequenceTag
    (Der.element Der.sequenceTag
        (Der.element Der.identifierTag sha512Identifier ++ Der.element Der.nullTag []) ++
      Der.element Der.octetStringTag digest)

/-- The **EMSA-PKCS1-v1_5 encoding** of a SHA-512 digest in a number of bytes, if these are enough
for eight bytes of padding. -/
def emsaEncode? (size : Nat) (digest : Bytes) : Option Bytes :=
  let info := encodedDigest digest
  if info.length + 11 ≤ size then
    some ([0x00, 0x01] ++ List.replicate (size - info.length - 3) 0xFF ++ [0x00] ++ info)
  else none

/-- Digests of 64 bytes all stand behind the same bytes. -/
theorem encodedDigest_eq {digest : Bytes} (h : digest.length = 64) :
    encodedDigest digest = digestInfo ++ digest := by
  have hstring : Der.element Der.octetStringTag digest = [0x04, 0x40] ++ digest := by
    rw [Der.element, h]
    rfl
  have halgorithm : Der.element Der.sequenceTag
      (Der.element Der.identifierTag sha512Identifier ++ Der.element Der.nullTag []) =
        [0x30, 0x0d, 0x06, 0x09, 0x60, 0x86, 0x48, 0x01, 0x65, 0x03, 0x04, 0x02, 0x03, 0x05,
          0x00] := by decide
  have hlength : Der.lengthBytes (digest.length + 17) = [0x51] := by
    rw [h]
    decide
  rw [encodedDigest, hstring, halgorithm, Der.element]
  have htotal : ([0x30, 0x0d, 0x06, 0x09, 0x60, 0x86, 0x48, 0x01, 0x65, 0x03, 0x04, 0x02, 0x03,
      0x05, 0x00] ++ ([0x04, 0x40] ++ digest) : Bytes).length = digest.length + 17 := by simp
  rw [htotal, hlength]
  rfl

/-- A padded digest is its encoding, and fills the size. -/
theorem pad?_eq_some {size : Nat} {digest padded : Bytes} (hdigest : digest.length = 64)
    (h : pad? size digest = some padded) :
    emsaEncode? size digest = some padded ∧ padded.length = size := by
  have hinfo : (digestInfo ++ digest).length = 83 := by
    rw [List.length_append, hdigest]
    rfl
  rw [pad?] at h
  split_ifs at h with hroom
  obtain rfl := Option.some.inj h
  constructor
  · rw [emsaEncode?, encodedDigest_eq hdigest, if_pos (not_lt.mp hroom)]
    simp
  · simp only [List.length_cons, List.length_append, List.length_replicate]
    rw [List.length_append] at hinfo hroom
    omega

/-! ### Keys -/

theorem publicFault?_eq_none {n e : Nat} (h : publicFault? n e = none) : e < 2 ^ 33 := by
  rw [publicFault?] at h
  split_ifs at h with _ _ _ _ hlarge
  exact not_le.mp hlarge

/-- What is known of numbers without a fault. -/
theorem Numbers.fault?_eq_none {k : Numbers} (h : k.fault? = none) :
    1 < k.p ∧ 1 < k.q ∧ k.p * k.q = k.n ∧ k.e < 2 ^ 33 := by
  rw [fault?] at h
  cases hpublic : publicFault? k.n k.e with
  | some fault => simp [hpublic] at h
  | none =>
    simp only [hpublic] at h
    split_ifs at h with hfactors hmodulus
    simp only [not_or, not_le] at hfactors
    exact ⟨hfactors.1, hfactors.2, not_not.mp hmodulus, publicFault?_eq_none hpublic⟩

theorem Numbers.key_eq_ok {k : Numbers} {key : PrivateKey} (h : k.key = .ok key) :
    key.toNumbers = k := by
  rw [Numbers.key] at h
  split at h
  · simp at h
  · rw [← Except.ok.inj h]

theorem PrivateKey.key_toNumbers (key : PrivateKey) : key.toNumbers.key = .ok key := by
  rw [Numbers.key]
  split
  · next fault hfault => exact absurd (hfault.symm.trans key.sound) (Option.some_ne_none fault)
  · rfl

/-- The power of a private key is below the modulus. -/
theorem PrivateKey.power_lt (key : PrivateKey) (m : Nat) : key.power m < key.n := by
  obtain ⟨hp, hq, hn, -⟩ := Numbers.fault?_eq_none key.sound
  rw [power]
  split
  · next inverse _ =>
    -- a remainder by `q` and a multiple of `q` by less than `p`
    set x := Modular.powMod m (key.d % (key.p - 1)) key.p
    set y := Modular.powMod m (key.d % (key.q - 1)) key.q with hy
    have hlow : y < key.q := by
      rw [hy, Modular.powMod_eq]
      exact Nat.mod_lt _ (by omega)
    have hhigh : (x + (key.p - y % key.p)) * inverse % key.p ≤ key.p - 1 :=
      Nat.le_sub_one_of_lt (Nat.mod_lt _ (by omega))
    calc y + (x + (key.p - y % key.p)) * inverse % key.p * key.q
        ≤ y + (key.p - 1) * key.q := Nat.add_le_add_left (Nat.mul_le_mul_right _ hhigh) _
      _ < key.q + (key.p - 1) * key.q := Nat.add_lt_add_right hlow _
      _ = (key.p - 1 + 1) * key.q := by rw [Nat.add_comm, Nat.succ_mul]
      _ = key.n := by rw [Nat.sub_add_cancel hp.le, hn]
  · rw [Modular.powMod_eq]
    have hpos : 0 < key.n := hn ▸ Nat.mul_pos (by omega) (by omega)
    exact Nat.mod_lt _ hpos

/-- **Signatures verify.** A signature is as long as the modulus and below it, and its power by the
public exponent is the padded digest. -/
theorem PrivateKey.sign_eq_ok {key : PrivateKey} {digest signature : Bytes}
    (hdigest : digest.length = 64) (h : key.sign digest = .ok signature) :
    signature.length = Bytes.width key.n ∧ Bytes.toNat signature < key.n ∧
      emsaEncode? (Bytes.width key.n) digest =
        some (Bytes.ofNat (Bytes.width key.n) (Bytes.toNat signature ^ key.e % key.n)) := by
  rw [sign] at h
  cases hpad : pad? key.size digest with
  | none => simp [hpad] at h
  | some padded =>
    simp only [hpad] at h
    split_ifs at h with hverifies
    obtain rfl := Except.ok.inj h
    obtain ⟨hencoded, hlength⟩ := pad?_eq_some hdigest hpad
    have hlt := key.power_lt (Bytes.toNat padded)
    have hvalue : Bytes.toNat (Bytes.ofNat key.size (key.power (Bytes.toNat padded))) =
        key.power (Bytes.toNat padded) :=
      Bytes.toNat_ofNat_of_lt (hlt.trans (Bytes.lt_pow_width key.n))
    rw [Modular.powMod_eq] at hverifies
    refine ⟨Bytes.length_ofNat _ _, ?_, ?_⟩
    · rw [hvalue]
      exact hlt
    · have hpadded : Bytes.ofNat key.size (Bytes.toNat padded) = padded := by
        rw [← hlength]
        exact Bytes.ofNat_toNat padded
      rw [hvalue, hverifies, ← PrivateKey.size, hpadded]
      exact hencoded

end RequestSigning.Rsa
