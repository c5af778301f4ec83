import RequestSigning.Proofs.Chains
import RequestSigning.Proofs.NamedKey
import RequestSigning.Proofs.RsaTexts

/-!
# Why there is no signer or no signature

Each part of building a signer and of signing has its own ways to fail, told by what the host holds:
a file that is not read or holds no key (`KeyFails`), a key that is not the one named or does not
sign (`LocalSigner.Fails`), an agent that is not there or does not list the key
(`AgentSigner.Fails`), and one that gives no signature in the format that is accepted
(`AgentSigner.SignFails`). Each gives an error exactly where one of its ways applies, as
`Config.buildSigner_eq_error_iff` and `Signer.sign_eq_error_iff` say for signers of both kinds.
-/

namespace RequestSigning

open Agent

variable {σ : Type}

/-! ### Keys in files -/

/-- The file at a path **holds** a key. -/
def KeyAt (host : Host σ) (path : String) (key : PrivateKey) : Prop :=
  ∃ bytes, host.read path = .ok bytes ∧ PrivateKey.parse bytes = .ok key

/-- Why the file at a path gives no key. -/
inductive KeyFails (host : Host σ) (path : String) : AuthError → Prop
  | unread {cause : IoFault} (hread : host.read path = .error cause) :
      KeyFails host path (.readKey path cause)
  | unparsed {bytes : Bytes} {fault : KeyFault} (hread : host.read path = .ok bytes)
      (hparse : PrivateKey.parse bytes = .error fault) : KeyFails host path (.keyParse fault)

section

variable {host : Host σ} {path : String}

/-- A key is read in two stages, each with its own error: the file, and the text in it. -/
theorem value_readKey (host : Host σ) (path : String) :
    (readKey host path).value = (do
      let bytes ← (host.read path).mapError (.readKey path)
      (PrivateKey.parse bytes).mapError .keyParse) := by
  rw [readKey]
  cases host.read path with
  | error cause => rfl
  | ok bytes => exact value_parseKey bytes

/-- Reading gives a key exactly if the file at the path holds it. -/
theorem readKey_eq_ok_iff {key : PrivateKey} :
    (readKey host path).value = .ok key ↔ KeyAt host path key := by
  simp only [value_readKey, bind_eq_ok_iff, mapError_eq_ok_iff, KeyAt]

/-- **Key files.** Reading fails exactly where the file is not read or holds no key, and the error
says which. -/
theorem readKey_eq_error_iff {e : AuthError} :
    (readKey host path).value = .error e ↔ KeyFails host path e := by
  simp only [value_readKey, bind_eq_error_iff, mapError_eq_error_iff, mapError_eq_ok_iff]
  constructor
  · rintro (⟨cause, hread, rfl⟩ | ⟨bytes, hread, fault, hparse, rfl⟩)
    · exact .unread hread
    · exact .unparsed hread hparse
  · rintro (hread | ⟨hread, hparse⟩)
    · exact .inl ⟨_, hread, rfl⟩
    · exact .inr ⟨_, hread, _, hparse, rfl⟩

end

/-! ### Keys at hand -/

namespace LocalSigner

/-- Why no signer is made for a key: it is not the one named, or it does not sign the trial text. -/
inductive Fails (draw : Nat) (keyName : String) (key : PrivateKey) : AuthError → Prop
  | mismatch (hnamed : key.fingerprint.isNamedBy keyName = false) :
      Fails draw keyName key
        (.fingerprintMismatch (Fingerprint.normalize keyName) key.fingerprint.compact)
  | trial {fault : SigningFault} (hnamed : key.fingerprint.isNamedBy keyName = true)
      (hsign : key.sign draw (Utf8.encode selfTestText) = .error fault) :
      Fails draw keyName key (.selfTestSign (AuthError.signing fault).message)

variable {draw : Nat} {signer : LocalSigner} {e : AuthError}

/-- A local signer is not made exactly if its key is not the one named or does not sign. -/
theorem make_eq_error_iff {keyName account : String} {key : PrivateKey} {user : Option String} :
    (make draw keyName key account user).value = .error e ↔ Fails draw keyName key e := by
  cases hnamed : key.fingerprint.isNamedBy keyName with
  | false =>
    have hvalue : (make draw keyName key account user).value = .error
        (.fingerprintMismatch (Fingerprint.normalize keyName) key.fingerprint.compact) := by
      simp [make, hnamed]
    rw [hvalue, Except.error.injEq]
    constructor
    · rintro rfl
      exact .mismatch hnamed
    · rintro (_ | ⟨hother, -⟩)
      · rfl
      · simp [hnamed] at hother
  | true =>
    cases hsign : key.sign draw (Utf8.encode selfTestText) with
    | ok signature =>
      rw [make_of_signs hnamed hsign]
      constructor
      · intro h
        contradiction
      · rintro (hother | ⟨-, hfault⟩)
        · simp [hnamed] at hother
        · simp [hsign] at hfault
    | error fault =>
      rw [make_of_fault hnamed hsign, Except.error.injEq]
      constructor
      · rintro rfl
        exact .trial hnamed hsign
      · rintro (hother | ⟨-, hfault⟩)
        · simp [hnamed] at hother
        · rw [hsign] at hfault
          rw [Except.error.inj hfault]

/-- The signature of a text is that of the key, in Base64; an error of the key is passed on. -/
theorem value_signText (signer : LocalSigner) (draw : Nat) (text : String) :
    (signer.signText draw text).value =
      ((signer.key.sign draw (Utf8.encode text)).mapError .signing).map Base64.encode := by
  rw [signText]
  cases signer.key.sign draw (Utf8.encode text) <;> rfl

/-- A local signer refuses a date exactly if its key does not sign the text for it. -/
theorem sign_eq_error_iff {date : String} :
    (signer.sign draw date).value = .error e ↔
      ∃ fault, signer.key.sign draw (Utf8.encode (signingString date)) = .error fault ∧
        .signing fault = e := by
  simp only [sign, Logged.value_bind, Logged.value_pure, value_signText, map_eq_error_iff,
    mapError_eq_error_iff]

theorem signRaw_eq_error_iff {text : String} :
    (signer.signRaw draw text).value = .error e ↔
      ∃ fault, signer.key.sign draw (Utf8.encode text) = .error fault ∧ .signing fault = e := by
  simp only [signRaw, Logged.value_bind, Logged.value_pure, value_signText, map_eq_error_iff,
    mapError_eq_error_iff]

end LocalSigner

/-! ### Agents -/

namespace AgentSigner

variable [ByteStream σ] {connect : String → Except IoFault σ} {e : AuthError}

/-- Why no signer is made for an agent: it is not known where it listens, it cannot be connected to,
it does not list its keys, or the one named is not among them. -/
inductive Fails (connect : String → Except IoFault σ) (keyName : String) :
    Option String → AuthError → Prop
  | unknown : Fails connect keyName none .agentUnavailable
  | unconnected {socket : String} {cause : IoFault} (hconnect : connect socket = .error cause) :
      Fails connect keyName (some socket) (.agentConnect socket cause)
  | unlisted {socket : String} {stream : σ} {e : AuthError} (hconnect : connect socket = .ok stream)
      (hlist : (Client.ofStream stream).listIdentities.1 = .error e) :
      Fails connect keyName (some socket) e
  | notFound {socket : String} {stream : σ} {keys : List Agent.Identity}
      (hconnect : connect socket = .ok stream)
      (hlist : (Client.ofStream stream).listIdentities.1 = .ok keys)
      (hnamed : ∀ key ∈ keys, key.fingerprint.isNamedBy keyName = false) :
      Fails connect keyName (some socket) (.keyNotFoundInAgent keyName)

omit [ByteStream σ] in
theorem value_dial (connect : String → Except IoFault σ) (socket : String) :
    (dial connect socket).value =
      ((connect socket).mapError (.agentConnect socket)).map Client.ofStream := by
  rw [dial]
  cases connect socket <;> rfl

omit [ByteStream σ] in
/-- No key is chosen exactly if none of those listed is named; the error has the name as it was
given. -/
theorem choose_eq_error_iff {client : Client σ} {keys : List Agent.Identity}
    {keyName account : String} {user : Option String} :
    (choose client keys keyName account user).value = .error e ↔
      (∀ key ∈ keys, key.fingerprint.isNamedBy keyName = false) ∧
        .keyNotFoundInAgent keyName = e := by
  rw [choose, Logged.value_bind]
  cases hkey : chooseKey? keyName keys with
  | none =>
    rw [chooseKey?, List.find?_eq_none] at hkey
    simpa using fun _ => hkey
  | some key =>
    rw [chooseKey?] at hkey
    constructor
    · intro h
      contradiction
    · rintro ⟨hnamed, -⟩
      have hfound := List.find?_some hkey
      simp [hnamed key (List.mem_of_find?_eq_some hkey)] at hfound

/-- The stages of a signer with a socket: connecting, listing the keys, choosing one. -/
theorem value_make_some (connect : String → Except IoFault σ) (socket keyName account : String)
    (user : Option String) :
    (make connect (some socket) keyName account user).value.1 = (do
      let stream ← (connect socket).mapError (.agentConnect socket)
      let keys ← (Client.ofStream stream).listIdentities.1
      (choose (Client.ofStream stream).listIdentities.2 keys keyName account user).value) := by
  cases hconnect : connect socket with
  | error cause => simp [make, dial, hconnect]
  | ok stream =>
    cases hlist : (Client.ofStream stream).listIdentities.1 with
    | error e => simp [make, dial, hconnect, ofClient, hlist]
    | ok keys => simp [make, dial, hconnect, ofClient, hlist]

/-- An agent's signer is not made exactly if no agent can be asked, the agent lists no keys, or no
key is the one named. -/
theorem make_eq_error_iff {path : Option String} {keyName account : String}
    {user : Option String} :
    (make connect path keyName account user).value.1 = .error e ↔ Fails connect keyName path e := by
  cases path with
  | none =>
    have hvalue : (make connect none keyName account user).value.1 = .error .agentUnavailable := rfl
    rw [hvalue, Except.error.injEq]
    constructor
    · rintro rfl
      exact .unknown
    · rintro ⟨⟩
      rfl
  | some socket =>
    simp only [value_make_some, bind_eq_error_iff, mapError_eq_error_iff, mapError_eq_ok_iff,
      choose_eq_error_iff]
    constructor
    · rintro (⟨cause, hconnect, rfl⟩ | ⟨stream, hconnect, hlist | ⟨keys, hlist, hnamed, rfl⟩⟩)
      · exact .unconnected hconnect
      · exact .unlisted hconnect hlist
      · exact .notFound hconnect hlist hnamed
    · rintro (_ | hconnect | ⟨hconnect, hlist⟩ | ⟨hconnect, hlist, hnamed⟩)
      · exact .inl ⟨_, hconnect, rfl⟩
      · exact .inr ⟨_, hconnect, .inl hlist⟩
      · exact .inr ⟨_, hconnect, .inr ⟨_, hlist, hnamed, rfl⟩⟩

/-- Why an agent's signature for a date is not passed on: there is none, or it has another format than
the one that is accepted. -/
inductive SignFails (signer : AgentSigner σ) (date : String) : AuthError → Prop
  | unsigned {e : AuthError}
      (hsign : (signer.client.sign signer.key.keyBlob (Utf8.encode (signingString date))).1 =
        .error e) : SignFails signer date e
  | format {signature : Agent.Signature}
      (hsign : (signer.client.sign signer.key.keyBlob (Utf8.encode (signingString date))).1 =
        .ok signature) (hformat : signature.format ≠ acceptedFormat) :
      SignFails signer date (.unsupportedAgentAlgorithm signature.format)

/-- A signature is refused exactly if its format is not the accepted one. -/
theorem authorization_eq_error_iff {identity : SignerIdentity} {signature : Agent.Signature} :
    (authorization identity signature).value = .error e ↔
      signature.format ≠ acceptedFormat ∧ .unsupportedAgentAlgorithm signature.format = e := by
  rw [authorization]
  by_cases hformat : signature.format = acceptedFormat
  · simp [hformat]
  · simp [hformat]

/-- An agent's signer refuses a date exactly if the agent gives no signature of the accepted format.
-/
theorem sign_eq_error_iff {signer : AgentSigner σ} {date : String} :
    (sign date signer).value.1 = .error e ↔ SignFails signer date e := by
  have hvalue : (sign date signer).value.1 = (do
      let signature ← (signer.client.sign signer.key.keyBlob (Utf8.encode (signingString date))).1
      (authorization signer.identity signature).value) := by
    rw [value_sign, Client.sign, request]
  simp only [hvalue, bind_eq_error_iff, authorization_eq_error_iff]
  constructor
  · rintro (hsign | ⟨signature, hsign, hformat, rfl⟩)
    · exact .unsigned hsign
    · exact .format hsign hformat
  · rintro (hsign | ⟨hsign, hformat⟩)
    · exact .inl hsign
    · exact .inr ⟨_, hsign, hformat, rfl⟩

end AgentSigner

/-! ### Signers -/

section

variable [ByteStream σ] {host : Host σ} {config : Config} {e : AuthError}

/-- Why there is no signer for a configuration. -/
inductive Config.SignerFails (config : Config) (host : Host σ) : AuthError → Prop
  | key {path : String} {e : AuthError} (hsource : config.keySource = .file path)
      (hkey : KeyFails host path e) : SignerFails config host e
  | ofKey {path : String} {key : PrivateKey} {e : AuthError}
      (hsource : config.keySource = .file path) (hkey : KeyAt host path key)
      (hmake : LocalSigner.Fails (host.draws 0) config.keyId key e) : SignerFails config host e
  | ofAgent {socket : Option String} {e : AuthError} (hsource : config.keySource = .agent socket)
      (hmake : AgentSigner.Fails host.connect config.keyId socket e) : SignerFails config host e

omit [ByteStream σ] in
/-- A signer of a key in a file: the key is read first, then tried. -/
theorem Config.value_keySigner (config : Config) (host : Host σ) (path : String) :
    (config.keySigner host path).value = (do
      let key ← (readKey host path).value
      (LocalSigner.make (host.draws 0) config.keyId key config.account config.user).value) := by
  rw [keySigner, Logged.value_bind]
  cases (readKey host path).value with
  | error e => rfl
  | ok key => rw [ok_bind]

/-- **Signers.** No signer is built exactly where one of the parts that it is built of fails. -/
theorem Config.buildSigner_eq_error_iff :
    (config.buildSigner host).value.1 = .error e ↔ config.SignerFails host e := by
  rw [buildSigner]
  cases hsource : config.keySource with
  | file path =>
    simp only [Logged.value_bind, Logged.value_pure, map_eq_error_iff, value_keySigner,
      bind_eq_error_iff, readKey_eq_error_iff, readKey_eq_ok_iff, LocalSigner.make_eq_error_iff]
    constructor
    · rintro (hkey | ⟨key, hkey, hmake⟩)
      · exact .key hsource hkey
      · exact .ofKey hsource hkey hmake
    · rintro (⟨hother, hkey⟩ | ⟨hother, hkey, hmake⟩ | ⟨hother, -⟩)
      · obtain rfl := KeySource.file.inj (hsource.symm.trans hother)
        exact .inl hkey
      · obtain rfl := KeySource.file.inj (hsource.symm.trans hother)
        exact .inr ⟨_, hkey, hmake⟩
      · simp [hsource] at hother
  | agent socket =>
    simp only [Logged.value_bind, Logged.value_pure, map_eq_error_iff,
      AgentSigner.make_eq_error_iff]
    constructor
    · exact .ofAgent hsource
    · rintro (⟨hother, -⟩ | ⟨hother, -, -⟩ | ⟨hother, hmake⟩)
      · simp [hsource] at hother
      · simp [hsource] at hother
      · obtain rfl := KeySource.agent.inj (hsource.symm.trans hother)
        exact hmake

/-- Why a signer does not sign for a date. -/
inductive Signer.SignFails (draw : Nat) (date : String) : Signer σ → AuthError → Prop
  | ofKey {signer : LocalSigner} {fault : SigningFault}
      (hsign : signer.key.sign draw (Utf8.encode (signingString date)) = .error fault) :
      SignFails draw date (.ofKey signer) (.signing fault)
  | ofAgent {signer : AgentSigner σ} {e : AuthError} (hsign : signer.SignFails date e) :
      SignFails draw date (.ofAgent signer) e

/-- **Signing.** A signer of either kind refuses a date exactly where its key or its agent does. -/
theorem Signer.sign_eq_error_iff {draw : Nat} {date : String} {signer : Signer σ} :
    (sign draw date signer).value.1 = .error e ↔ SignFails draw date signer e := by
  cases signer with
  | ofKey signer =>
    have hvalue : (sign draw date (.ofKey signer : Signer σ)).value.1 =
        (signer.sign draw date).value := rfl
    rw [hvalue, LocalSigner.sign_eq_error_iff]
    constructor
    · rintro ⟨fault, hsign, rfl⟩
      exact .ofKey hsign
    · rintro ⟨hsign⟩
      exact ⟨_, hsign, rfl⟩
  | ofAgent signer =>
    have hvalue : (sign draw date (.ofAgent signer)).value.1 =
        (AgentSigner.sign date signer).value.1 := rfl
    rw [hvalue, AgentSigner.sign_eq_error_iff]
    constructor
    · exact .ofAgent
    · rintro ⟨⟩
      assumption

end

end RequestSigning
