import RequestSigning.LocalSigner

/-!
# What a local signer is made of

A local signer is given out only for a key that its caller named, and holds that key and the
identity made from it (`LocalSigner.make_eq_ok`). Whatever it then signs is signed by that key
(`LocalSigner.signRaw_eq_ok`, `LocalSigner.sign_eq_ok`). The other way round, a key that is named and
signs the trial text makes a signer, and one that does not is refused for it
(`LocalSigner.make_of_signs`, `LocalSigner.make_of_fault`); what the key signs the signer signs
(`LocalSigner.signRaw_of_signs`, `LocalSigner.sign_of_signs`).

A caller of the signer needs no more than these lemmas: none of the later modules opens
`LocalSigner.make` or the functions that sign. The draw, which gives the nonce of a signature on a
curve, is a parameter everywhere, one for the trial and one for each signature.
-/

namespace RequestSigning.LocalSigner

/-- A signer is made for a key that the caller named, and signs as that key. -/
theorem make_eq_ok {draw : Nat} {keyName : String} {key : PrivateKey} {account : String}
    {user : Option String} {signer : LocalSigner}
    (h : (make draw keyName key account user).value = .ok signer) :
    key.fingerprint.isNamedBy keyName = true ∧
      signer = ⟨key, ⟨KeyId.make account user key.fingerprint, key.algorithm⟩⟩ := by
  rw [make] at h
  by_cases hnamed : key.fingerprint.isNamedBy keyName = true
  · simp only [hnamed, not_true_eq_false, if_false] at h
    cases htrial : key.sign draw (Utf8.encode selfTestText) with
    | error fault => simp [htrial] at h
    | ok signature =>
      simp only [htrial, Logged.value_bind, Logged.value_pure] at h
      exact ⟨hnamed, (Except.ok.inj h).symm⟩
  · simp [hnamed] at h

/-- The Base64 text of a signature is that of a signature by the signer's key. -/
theorem signText_eq_ok {signer : LocalSigner} {draw : Nat} {text signed : String}
    (h : (signer.signText draw text).value = .ok signed) :
    ∃ signature, signer.key.sign draw (Utf8.encode text) = .ok signature ∧
      signed = Base64.encode signature := by
  rw [signText] at h
  cases hsign : signer.key.sign draw (Utf8.encode text) with
  | error fault => simp [hsign] at h
  | ok signature =>
    simp only [hsign, Logged.value_bind, Logged.value_pure] at h
    exact ⟨signature, rfl, (Except.ok.inj h).symm⟩

theorem signRaw_eq_ok {signer : LocalSigner} {draw : Nat} {text : String} {raw : RawSignature}
    (h : (signer.signRaw draw text).value = .ok raw) :
    ∃ signature, signer.key.sign draw (Utf8.encode text) = .ok signature ∧
      raw = ⟨Base64.encode signature, signer.identity.algorithm⟩ := by
  rw [signRaw, Logged.value_bind, Logged.value_pure] at h
  cases htext : (signer.signText draw text).value with
  | error e => simp [htext, Except.map] at h
  | ok signed =>
    obtain ⟨signature, hsign, rfl⟩ := signText_eq_ok htext
    rw [htext] at h
    exact ⟨signature, hsign, (Except.ok.inj h).symm⟩

theorem sign_eq_ok {signer : LocalSigner} {draw : Nat} {date value : String}
    (h : (signer.sign draw date).value = .ok value) :
    ∃ signature, signer.key.sign draw (Utf8.encode (signingString date)) = .ok signature ∧
      value = signer.identity.authorization (Base64.encode signature) := by
  rw [sign, Logged.value_bind, Logged.value_pure] at h
  cases htext : (signer.signText draw (signingString date)).value with
  | error e => simp [htext, Except.map] at h
  | ok signed =>
    obtain ⟨signature, hsign, rfl⟩ := signText_eq_ok htext
    rw [htext] at h
    exact ⟨signature, hsign, (Except.ok.inj h).symm⟩

/-! ### From the key to the signer -/

section

variable {keyName : String} {key : PrivateKey} {draw : Nat} {signature : Bytes}

/-- A key that is named and signs the trial text makes a signer. -/
theorem make_of_signs (hnamed : key.fingerprint.isNamedBy keyName = true)
    (hsign : key.sign draw (Utf8.encode selfTestText) = .ok signature) (account : String)
    (user : Option String) :
    (make draw keyName key account user).value =
      .ok ⟨key, ⟨KeyId.make account user key.fingerprint, key.algorithm⟩⟩ := by
  rw [make]
  simp only [hnamed, not_true_eq_false, if_false, hsign, Logged.value_bind, Logged.value_pure]

/-- A key that is named but does not sign the trial text is refused. -/
theorem make_of_fault {fault : SigningFault} (hnamed : key.fingerprint.isNamedBy keyName = true)
    (hsign : key.sign draw (Utf8.encode selfTestText) = .error fault) (account : String)
    (user : Option String) :
    (make draw keyName key account user).value =
      .error (.selfTestSign (AuthError.signing fault).message) := by
  rw [make]
  simp only [hnamed, not_true_eq_false, if_false, hsign, Logged.value_pure]

theorem signText_of_signs {signer : LocalSigner} {text : String}
    (hsign : signer.key.sign draw (Utf8.encode text) = .ok signature) :
    (signer.signText draw text).value = .ok (Base64.encode signature) := by
  rw [signText, hsign]
  rfl

theorem signRaw_of_signs {signer : LocalSigner} {text : String}
    (hsign : signer.key.sign draw (Utf8.encode text) = .ok signature) :
    (signer.signRaw draw text).value =
      .ok ⟨Base64.encode signature, signer.identity.algorithm⟩ := by
  rw [signRaw, Logged.value_bind, signText_of_signs hsign]
  rfl

theorem sign_of_signs {signer : LocalSigner} {date : String}
    (hsign : signer.key.sign draw (Utf8.encode (signingString date)) = .ok signature) :
    (signer.sign draw date).value =
      .ok (signer.identity.authorization (Base64.encode signature)) := by
  rw [sign, Logged.value_bind, signText_of_signs hsign]
  rfl

end

end RequestSigning.LocalSigner
