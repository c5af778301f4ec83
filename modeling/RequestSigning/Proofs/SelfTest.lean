import RequestSigning.Proofs.CurvePrimes
import RequestSigning.Proofs.LocalSigner
import RequestSigning.Proofs.RsaPowers

/-!
# What the trial signature decides

A local signer is made only after its key signed one fixed text. For an RSA key with primes this one
signature stands for all later ones, as `self_test_decides` says: whether the trial succeeds depends
on nothing but the length of the modulus, and where it does no text and no date is refused later.

The padding needs 94 bytes, 11 of its own and 83 for the digest with its identifier, and this is all
that signing asks of a modulus. The power itself cannot go wrong for a key whose factors are primes,
whatever the text. Keys with the same public numbers give the same signatures, so the trial does not
depend on the private ones either.
-/

namespace RequestSigning

open LocalSigner

namespace PrivateKey

variable {key : Rsa.PrivateKey}

/-- An RSA key signs the SHA-512 digest of a message, and draws no random number. -/
theorem sign_rsa (key : Rsa.PrivateKey) (draw : Nat) (message : Bytes) :
    (rsa key).sign draw message = (key.sign (Sha2.sha512 message)).mapError .rsa := by
  rw [sign]
  cases key.sign (Sha2.sha512 message) <;> rfl

/-- A key with primes whose modulus has 94 bytes or more signs every message. -/
theorem exists_sign_rsa_eq_ok (h : key.HasPrimes) (hfits : 94 ≤ Bytes.width key.n) (draw : Nat)
    (message : Bytes) : ∃ signature, (rsa key).sign draw message = .ok signature := by
  obtain ⟨signature, hsign⟩ := Rsa.PrivateKey.exists_sign_eq_ok h (Sha2.length_sha512 message) hfits
  exact ⟨signature, by rw [sign_rsa, hsign]; rfl⟩

/-- A key whose modulus has fewer bytes signs none. -/
theorem sign_rsa_eq_error (hshort : Bytes.width key.n < 94) (draw : Nat) (message : Bytes) :
    (rsa key).sign draw message = .error (.rsa .messageTooLong) := by
  rw [sign_rsa, key.sign_eq_error (Sha2.length_sha512 message) hshort]
  rfl

/-- Keys with primes that share their public half sign every message alike. -/
theorem sign_rsa_congr {other : Rsa.PrivateKey} (h : key.HasPrimes) (hother : other.HasPrimes)
    (hn : other.n = key.n) (he : other.e = key.e) (draw otherDraw : Nat) (message : Bytes) :
    (rsa other).sign otherDraw message = (rsa key).sign draw message := by
  rw [sign_rsa, sign_rsa, Rsa.PrivateKey.sign_congr h hother hn he (Sha2.length_sha512 message)]

end PrivateKey

/-- Signers of RSA keys that sign alike give the same raw signatures. -/
theorem LocalSigner.signRaw_congr {key other : Rsa.PrivateKey} {signer otherSigner : LocalSigner}
    {trial otherTrial : Nat} {keyName otherName account otherAccount : String}
    {user otherUser : Option String}
    (hmake : (make trial keyName (.rsa key) account user).value = .ok signer)
    (hother : (make otherTrial otherName (.rsa other) otherAccount otherUser).value =
      .ok otherSigner) {draw otherDraw : Nat} {text : String}
    (hsign : (PrivateKey.rsa other).sign otherDraw (Utf8.encode text) =
      (PrivateKey.rsa key).sign draw (Utf8.encode text)) :
    (otherSigner.signRaw otherDraw text).value = (signer.signRaw draw text).value := by
  obtain ⟨-, rfl⟩ := make_eq_ok hmake
  obtain ⟨-, rfl⟩ := make_eq_ok hother
  simp only [signRaw, signText, Logged.value_bind, hsign]
  cases (PrivateKey.rsa key).sign draw (Utf8.encode text) <;> rfl

/-- **The trial signature decides.** Let an RSA key with primes be named by its caller. A signer is
made for it exactly if its modulus has 94 bytes or more, and otherwise the trial signature is what
fails. A signer that was made signs every date and every text, and signers for keys of the same
public half give the same signatures. -/
theorem self_test_decides {key : Rsa.PrivateKey} (hprimes : key.HasPrimes) {keyName : String}
    (hnamed : (PrivateKey.rsa key).fingerprint.isNamedBy keyName = true) (trial : Nat)
    (account : String) (user : Option String) :
    ((∃ signer, (make trial keyName (.rsa key) account user).value = .ok signer) ↔
      94 ≤ Bytes.width key.n) ∧
    (¬94 ≤ Bytes.width key.n → (make trial keyName (.rsa key) account user).value =
      .error (.selfTestSign "signing failed: message too long")) ∧
    ∀ signer, (make trial keyName (.rsa key) account user).value = .ok signer →
      (∀ draw date, ∃ value, (signer.sign draw date).value = .ok value) ∧
      (∀ draw text, ∃ raw, (signer.signRaw draw text).value = .ok raw) ∧
      ∀ (other : Rsa.PrivateKey), other.HasPrimes → other.n = key.n → other.e = key.e →
        ∀ otherTrial otherName otherAccount otherUser otherSigner,
          (make otherTrial otherName (.rsa other) otherAccount otherUser).value =
            .ok otherSigner →
          ∀ draw otherDraw text,
            (otherSigner.signRaw otherDraw text).value = (signer.signRaw draw text).value := by
  have hrefused : ¬94 ≤ Bytes.width key.n →
      (make trial keyName (.rsa key) account user).value =
        .error (.selfTestSign "signing failed: message too long") := fun hshort =>
    make_of_fault hnamed (PrivateKey.sign_rsa_eq_error (not_le.mp hshort) _ _) account user
  have hfits : ∀ signer, (make trial keyName (.rsa key) account user).value = .ok signer →
      94 ≤ Bytes.width key.n := by
    intro signer hmake
    by_contra hshort
    rw [hrefused hshort] at hmake
    contradiction
  refine ⟨⟨fun ⟨signer, hmake⟩ => hfits signer hmake, fun hwide => ?_⟩, hrefused, ?_⟩
  · obtain ⟨signature, hsign⟩ := PrivateKey.exists_sign_rsa_eq_ok hprimes hwide trial
      (Utf8.encode selfTestText)
    exact ⟨_, make_of_signs hnamed hsign account user⟩
  · intro signer hmake
    have hwide := hfits signer hmake
    refine ⟨fun draw date => ?_, fun draw text => ?_, ?_⟩
    · obtain ⟨-, rfl⟩ := make_eq_ok hmake
      obtain ⟨signature, hsign⟩ := PrivateKey.exists_sign_rsa_eq_ok hprimes hwide draw
        (Utf8.encode (signingString date))
      exact ⟨_, sign_of_signs hsign⟩
    · obtain ⟨-, rfl⟩ := make_eq_ok hmake
      obtain ⟨signature, hsign⟩ := PrivateKey.exists_sign_rsa_eq_ok hprimes hwide draw
        (Utf8.encode text)
      exact ⟨_, signRaw_of_signs hsign⟩
    · intro other hotherPrimes hn he _ _ _ _ otherSigner hother draw otherDraw text
      exact signRaw_congr hmake hother
        (PrivateKey.sign_rsa_congr hprimes hotherPrimes hn he draw otherDraw _)

/-! ### Keys of two Mersenne primes -/

/-- Numbers whose factors are the Mersenne primes of 521 and 607 bits. -/
def mersenneNumbers : Rsa.Numbers :=
  let p := mersenne 521
  let q := mersenne 607
  ⟨p * q, 13, (9 * (p - 1) * (q - 1) + 1) / 13, p, q⟩

/-- The same with the factors the other way round, and a smaller private exponent. -/
def swappedNumbers : Rsa.Numbers :=
  let p := mersenne 521
  let q := mersenne 607
  ⟨p * q, 13, (2 * ((p - 1) * (q - 1) / 6) + 1) / 13, q, p⟩

def mersenneKey : Rsa.PrivateKey := ⟨mersenneNumbers, by decide +kernel⟩

def swappedKey : Rsa.PrivateKey := ⟨swappedNumbers, by decide +kernel⟩

theorem prime_mersenne_607 : (mersenne 607).Prime :=
  lucas_lehmer_sufficiency _ (by norm_num) (by norm_num)

theorem mersenneKey_hasPrimes : mersenneKey.HasPrimes :=
  ⟨prime_mersenne_521, prime_mersenne_607, by decide +kernel⟩

theorem swappedKey_hasPrimes : swappedKey.HasPrimes :=
  ⟨prime_mersenne_607, prime_mersenne_521, by decide +kernel⟩

theorem self_test_decides_mersenne :
    mersenneKey.HasPrimes ∧ swappedKey.HasPrimes ∧ mersenneKey.d ≠ swappedKey.d ∧
      ∃ keyName signer otherSigner raw value,
        (PrivateKey.rsa mersenneKey).fingerprint.isNamedBy keyName = true ∧
        (make 0 keyName (.rsa mersenneKey) "acct" none).value = .ok signer ∧
        (make 1 keyName (.rsa swappedKey) "acct" (some "u")).value = .ok otherSigner ∧
        (signer.sign 2 "d").value = .ok value ∧
        (signer.signRaw 3 "text").value = .ok raw ∧
        (otherSigner.signRaw 4 "text").value = .ok raw := by
  -- the two keys have one blob, so one name names both
  obtain ⟨keyName, hname⟩ : ∃ keyName, keyName = (PrivateKey.rsa mersenneKey).fingerprint.display :=
    ⟨_, rfl⟩
  have hnamed : (PrivateKey.rsa mersenneKey).fingerprint.isNamedBy keyName = true := by
    rw [hname]
    decide +kernel
  have hnamedSwapped : (PrivateKey.rsa swappedKey).fingerprint.isNamedBy keyName = true := by
    rw [hname]
    decide +kernel
  have hwide : 94 ≤ Bytes.width mersenneKey.n := by decide +kernel
  have hn : swappedKey.n = mersenneKey.n := by decide +kernel
  have he : swappedKey.e = mersenneKey.e := by decide +kernel
  obtain ⟨hmake, -, hsigns⟩ := self_test_decides mersenneKey_hasPrimes hnamed 0 "acct" none
  obtain ⟨hother, -, -⟩ :=
    self_test_decides swappedKey_hasPrimes hnamedSwapped 1 "acct" (some "u")
  obtain ⟨signer, hsigner⟩ := hmake.mpr hwide
  obtain ⟨otherSigner, hotherSigner⟩ := hother.mpr (hn ▸ hwide)
  obtain ⟨hdates, htexts, hsame⟩ := hsigns signer hsigner
  obtain ⟨value, hvalue⟩ := hdates 2 "d"
  obtain ⟨raw, hraw⟩ := htexts 3 "text"
  refine ⟨mersenneKey_hasPrimes, swappedKey_hasPrimes, by decide +kernel, keyName, signer,
    otherSigner, raw, value, hnamed, hsigner, hotherSigner, hvalue, hraw, ?_⟩
  rw [← hraw]
  exact hsame swappedKey swappedKey_hasPrimes hn he _ _ _ _ otherSigner hotherSigner 3 4 "text"

end RequestSigning
