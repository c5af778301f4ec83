import RequestSigning.Proofs.Agent.Signer
import RequestSigning.Proofs.Fingerprint
import RequestSigning.Proofs.LocalSigner
import RequestSigning.Signer

/-!
# The key that is named and the key that signs

A signer that was built from a configuration ties three things together: the text that names the
key in the configuration, the key id in every Authorization value, and the key that signs. The
invariant is `Signer.Built`: a signer of either kind holds a key that the configuration names, and
the identity made from it. Building a signer gives one (`Signer.built_of_buildSigner`), and signing
keeps it one (`Signer.Built.sign`), whatever an agent answers.

The invariant is preserved by any sequence of signatures (`Signer.Built.after`), each with its own
date and its own draw, and for an agent with whatever it replied in between. The fingerprint it
speaks of is computed from the key that signs, never taken from what an agent or a caller says of
it.
-/

namespace RequestSigning

open Agent

variable {σ : Type} {config : Config} {host : Host σ}

/-! ### Keys from files -/

theorem parseKey_eq_ok {bytes : Bytes} {key : PrivateKey}
    (h : (parseKey bytes).value = .ok key) : PrivateKey.parse bytes = .ok key := by
  rw [parseKey] at h
  cases hparse : PrivateKey.parseWith bytes with
  | error fault => simp [hparse] at h
  | ok found =>
    obtain ⟨encoding, read⟩ := found
    simp only [hparse, Logged.value_bind, Logged.value_pure] at h
    obtain rfl := Except.ok.inj h
    rw [PrivateKey.parse, hparse]
    rfl

/-- A key that was read is the one that the bytes of the file hold. -/
theorem readKey_eq_ok {path : String} {key : PrivateKey}
    (h : (readKey host path).value = .ok key) :
    ∃ bytes, host.read path = .ok bytes ∧ PrivateKey.parse bytes = .ok key := by
  rw [readKey] at h
  cases hread : host.read path with
  | error cause => simp [hread] at h
  | ok bytes =>
    rw [hread] at h
    exact ⟨bytes, rfl, parseKey_eq_ok h⟩

/-! ### The invariant -/

/-- A signer is **built** from a configuration when it holds a key that the configuration names,
from where the configuration says, and signs as that key. -/
inductive Signer.Built (config : Config) (host : Host σ) : Signer σ → Prop
  | ofKey {path : String} {bytes : Bytes} {key : PrivateKey}
      (hsource : config.keySource = .file path) (hread : host.read path = .ok bytes)
      (hparse : PrivateKey.parse bytes = .ok key)
      (hnamed : key.fingerprint.isNamedBy config.keyId = true) :
      Built config host
        (.ofKey ⟨key, ⟨KeyId.make config.account config.user key.fingerprint, key.algorithm⟩⟩)
  | ofAgent {socket : Option String} {client : Client σ} {key : Agent.Identity}
      (hsource : config.keySource = .agent socket)
      (hnamed : key.fingerprint.isNamedBy config.keyId = true) :
      Built config host
        (.ofAgent ⟨client, key,
          ⟨KeyId.make config.account config.user key.fingerprint, .rsaSha1⟩⟩)

namespace Signer

/-- Without colons, the fingerprint that a built signer shows is the name in the configuration in
its normal form. -/
theorem Built.normalize_keyId {signer : Signer σ} (h : Built config host signer) :
    String.ofList (signer.keyFingerprint.toList.filter (· ≠ ':')) =
      Fingerprint.normalize config.keyId := by
  cases h with
  | ofKey _ _ _ hnamed =>
    rw [Fingerprint.normalize_eq_of_isNamedBy hnamed]
    exact Fingerprint.compact_of_display _
  | ofAgent _ hnamed =>
    rw [Fingerprint.normalize_eq_of_isNamedBy hnamed]
    exact Fingerprint.compact_of_display _

variable [ByteStream σ]

theorem built_of_buildSigner {signer : Signer σ}
    (h : (config.buildSigner host).value.1 = .ok signer) : Built config host signer := by
  rw [Config.buildSigner] at h
  cases hsource : config.keySource with
  | file path =>
    simp only [hsource, Logged.value_bind, Logged.value_pure, Config.keySigner] at h
    cases hkey : (readKey host path).value with
    | error e => simp [hkey, Except.map] at h
    | ok key =>
      simp only [hkey] at h
      cases hmake : (LocalSigner.make (host.draws 0) config.keyId key config.account
          config.user).value with
      | error e => simp [hmake, Except.map] at h
      | ok signer' =>
        rw [hmake] at h
        obtain rfl := Except.ok.inj h
        obtain ⟨hnamed, rfl⟩ := LocalSigner.make_eq_ok hmake
        obtain ⟨bytes, hread, hparse⟩ := readKey_eq_ok hkey
        exact .ofKey hsource hread hparse hnamed
  | agent socket =>
    simp only [hsource, Logged.value_bind, Logged.value_pure] at h
    cases hmake : (AgentSigner.make host.connect socket config.keyId config.account
        config.user).value.1 with
    | error e => simp [hmake, Except.map] at h
    | ok signer' =>
      rw [hmake] at h
      obtain rfl := Except.ok.inj h
      obtain ⟨_, _, _, _, _, _, key, _, hnamed, rfl⟩ := AgentSigner.make_eq_ok hmake
      exact .ofAgent hsource hnamed

/-! ### Signing -/

/-- The signer after it signed for a date, with a random number. -/
def next (signer : Signer σ) (turn : Nat × String) : Signer σ :=
  (sign turn.1 turn.2 signer).value.2

/-- The signer after it signed for several dates, one after the other. -/
def after (signer : Signer σ) (turns : List (Nat × String)) : Signer σ :=
  turns.foldl next signer

/-- Signing keeps a built signer built, and the fingerprint that it shows. -/
theorem Built.next {signer : Signer σ} (h : Built config host signer) (turn : Nat × String) :
    Built config host (signer.next turn) ∧
      (signer.next turn).keyFingerprint = signer.keyFingerprint := by
  cases h with
  | ofKey hsource hread hparse hnamed => exact ⟨.ofKey hsource hread hparse hnamed, rfl⟩
  | @ofAgent socket client key hsource hnamed =>
    -- only the client changes, whatever the agent answers
    have hvalue := AgentSigner.value_sign ⟨client, key,
      ⟨KeyId.make config.account config.user key.fingerprint, .rsaSha1⟩⟩ turn.2
    simp only [Signer.next, sign, Logged.value_bind, Logged.value_pure, hvalue]
    exact ⟨.ofAgent hsource hnamed, rfl⟩

theorem Built.after {signer : Signer σ} (h : Built config host signer)
    (turns : List (Nat × String)) :
    Built config host (signer.after turns) ∧
      (signer.after turns).keyFingerprint = signer.keyFingerprint := by
  induction turns generalizing signer with
  | nil => exact ⟨h, rfl⟩
  | cons turn turns ih =>
    obtain ⟨hnext, hsame⟩ := h.next turn
    obtain ⟨hafter, hkept⟩ := ih hnext
    exact ⟨hafter, hkept.trans hsame⟩

end Signer

/-! ### Authorization values -/

/-- The key id of a configuration for the key that shows a fingerprint: with the user, exactly when
there is one and it is not empty. -/
def Config.keyIdText (config : Config) (fingerprint : String) : String :=
  match config.user with
  | none => "/" ++ config.account ++ "/keys/" ++ fingerprint
  | some user =>
    if user = "" then "/" ++ config.account ++ "/keys/" ++ fingerprint
    else "/" ++ config.account ++ "/users/" ++ user ++ "/keys/" ++ fingerprint

theorem KeyId.text_make (config : Config) (fingerprint : Fingerprint) :
    (KeyId.make config.account config.user fingerprint).text =
      config.keyIdText fingerprint.display := by
  rw [KeyId.text, KeyId.make, Config.keyIdText]
  cases config.user with
  | none => rfl
  | some user =>
    by_cases hempty : user = ""
    · simp [Option.filter, hempty]
    · simp [Option.filter, hempty]

theorem SignerIdentity.authorization_make (config : Config) (fingerprint : Fingerprint)
    (algorithm : SigningAlgorithm) (signature : String) :
    SignerIdentity.authorization
        ⟨KeyId.make config.account config.user fingerprint, algorithm⟩ signature =
      "Signature keyId=\"" ++ config.keyIdText fingerprint.display ++ "\",algorithm=\"" ++
        algorithm.name ++ "\",headers=\"date\",signature=\"" ++ signature ++ "\"" := by
  unfold SignerIdentity.authorization
  dsimp only
  rw [KeyId.text_make]

/-- Where the bytes of a signature for a date **come from**, and the algorithm they are advertised
with: the private key in the configuration's file, or the reply of the configuration's agent to a
request for a key. Either way the blob of that key has the fingerprint shown. -/
inductive SignedBy [ByteStream σ] (config : Config) (host : Host σ) (fingerprint : String)
    (client? : Option (Client σ)) (draw : Nat) (date : String) : String → Bytes → Prop
  | rsaKey {path : String} {bytes : Bytes} {key : Rsa.PrivateKey} {signature : Bytes}
      (hsource : config.keySource = .file path) (hread : host.read path = .ok bytes)
      (hparse : PrivateKey.parse bytes = .ok (.rsa key))
      (hshown : (Fingerprint.ofBlob (PrivateKey.rsa key).blob).display = fingerprint)
      (hsign : (PrivateKey.rsa key).sign draw (Utf8.encode ("date: " ++ date)) = .ok signature) :
      SignedBy config host fingerprint client? draw date "rsa-sha512" signature
  | ecdsaKey {path : String} {bytes : Bytes} {key : Ecdsa.PrivateKey} {signature : Bytes}
      (hsource : config.keySource = .file path) (hread : host.read path = .ok bytes)
      (hparse : PrivateKey.parse bytes = .ok (.ecdsa key))
      (hshown : (Fingerprint.ofBlob (PrivateKey.ecdsa key).blob).display = fingerprint)
      (hsign : (PrivateKey.ecdsa key).sign draw (Utf8.encode ("date: " ++ date)) =
        .ok signature) :
      SignedBy config host fingerprint client? draw date "ecdsa-sha512" signature
  | agentKey {socket : Option String} {client : Client σ} {blob reply signature : Bytes}
      (hsource : config.keySource = .agent socket) (hclient : client? = some client)
      (hshown : (Fingerprint.ofBlob blob).display = fingerprint)
      (hreply : (client.ask (.sign blob (Utf8.encode ("date: " ++ date)))).1 = .ok reply)
      (hdecode : decodeSignature reply = .ok ⟨"ssh-rsa", signature⟩) :
      SignedBy config host fingerprint client? draw date "rsa-sha1" signature

namespace Signer

variable [ByteStream σ]

/-- What a built signer signs comes from the key that it shows. -/
theorem Built.sign_eq_ok {signer : Signer σ} (h : Built config host signer) {draw : Nat}
    {date value : String} (hsign : (sign draw date signer).value.1 = .ok value) :
    ∃ algorithm signature,
      SignedBy config host signer.keyFingerprint signer.client? draw date algorithm signature ∧
      value = "Signature keyId=\"" ++ config.keyIdText signer.keyFingerprint ++
        "\",algorithm=\"" ++ algorithm ++ "\",headers=\"date\",signature=\"" ++
        Base64.encode signature ++ "\"" := by
  cases h with
  | @ofKey path bytes key hsource hread hparse hnamed =>
    obtain ⟨signature, hsigned, rfl⟩ := LocalSigner.sign_eq_ok hsign
    refine ⟨key.algorithm.name, signature, ?_, ?_⟩
    · cases key with
      | rsa key => exact .rsaKey hsource hread hparse rfl hsigned
      | ecdsa key => exact .ecdsaKey hsource hread hparse rfl hsigned
    · exact SignerIdentity.authorization_make config key.fingerprint key.algorithm _
  | @ofAgent socket client key hsource hnamed =>
    have hvalue := AgentSigner.value_sign ⟨client, key,
      ⟨KeyId.make config.account config.user key.fingerprint, .rsaSha1⟩⟩ date
    simp only [sign, Logged.value_bind, Logged.value_pure, hvalue] at hsign
    obtain ⟨reply, signature, hreply, hdecode, hpassed⟩ := AgentSigner.signed_eq_ok hsign
    obtain ⟨hformat, rfl⟩ := AgentSigner.authorization_eq_ok hpassed
    obtain ⟨format, blob⟩ := signature
    obtain rfl : format = AgentSigner.acceptedFormat := hformat
    exact ⟨_, blob, .agentKey hsource rfl rfl hreply hdecode,
      SignerIdentity.authorization_make config key.fingerprint .rsaSha1 _⟩

end Signer

/-- **The named key signs.** Let a signer be built from a configuration. The fingerprint that it
shows is, without colons, the normal form of the name in the configuration. Whatever it signed
before, every Authorization value that it gives has the key id of the configuration for the
fingerprint shown, and a signature that comes from the key whose blob has this fingerprint. -/
theorem named_key_signs [ByteStream σ] {signer : Signer σ}
    (hbuild : (config.buildSigner host).value.1 = .ok signer) :
    String.ofList (signer.keyFingerprint.toList.filter (· ≠ ':')) =
      Fingerprint.normalize config.keyId ∧
    ∀ (earlier : List (Nat × String)) (draw : Nat) (date value : String),
      (Signer.sign draw date (signer.after earlier)).value.1 = .ok value →
      ∃ algorithm signature,
        SignedBy config host signer.keyFingerprint (signer.after earlier).client? draw date
          algorithm signature ∧
        value = "Signature keyId=\"" ++ config.keyIdText signer.keyFingerprint ++
          "\",algorithm=\"" ++ algorithm ++ "\",headers=\"date\",signature=\"" ++
          Base64.encode signature ++ "\"" := by
  have hbuilt := Signer.built_of_buildSigner hbuild
  refine ⟨hbuilt.normalize_keyId, ?_⟩
  intro earlier draw date value hsign
  obtain ⟨hafter, hshown⟩ := hbuilt.after earlier
  rw [← hshown]
  exact hafter.sign_eq_ok hsign

/-- An agent at `/s` that lists one key, and signs once. -/
def sampleHost : Host MemoryStream where
  environment := ⟨[]⟩
  files := ⟨[(["s"], .socket
    ⟨Wire.field (listReplyType :: (Wire.word 1 ++ Wire.field [7] ++ Wire.field [])) ++
      Wire.field (signReplyType :: Wire.field
        (Wire.field (Utf8.encode AgentSigner.acceptedFormat) ++ Wire.field [1, 2, 3])),
      [], none, .brokenPipe, none⟩)]⟩
  directory := []
  userHome := none
  now := ⟨0, 0, by decide, by decide⟩
  draws := fun _ => 0

/-- A configuration that names the key of that agent in capitals, with colons and a mark. -/
def sampleConfig : Config where
  account := "acct"
  user := some "u"
  keyId := " MD5:89:E7:4E:64:0B:8C:46:25:7A:29:DE:06:16:79:4D:5D"
  keySource := .agent (some "/s")

theorem named_key_signs_sample :
    ∃ signer, (sampleConfig.buildSigner sampleHost).value.1 = .ok signer ∧
      String.ofList (signer.keyFingerprint.toList.filter (· ≠ ':')) =
        Fingerprint.normalize sampleConfig.keyId ∧
      ∃ value, (Signer.sign 0 "d" signer).value.1 = .ok value ∧
        ∃ algorithm signature,
          SignedBy sampleConfig sampleHost signer.keyFingerprint signer.client? 0 "d" algorithm
            signature := by
  have hruns : ((sampleConfig.buildSigner sampleHost).value.1.toOption.bind fun signer =>
      (Signer.sign 0 "d" signer).value.1.toOption).isSome = true := by decide +kernel
  obtain ⟨value, hvalue⟩ := Option.isSome_iff_exists.mp hruns
  simp only [Option.bind_eq_some_iff, Wire.toOption_eq_some_iff] at hvalue
  obtain ⟨signer, hbuild, hsign⟩ := hvalue
  obtain ⟨hshown, hsigns⟩ := named_key_signs hbuild
  obtain ⟨algorithm, signature, hfrom, -⟩ := hsigns [] 0 "d" value hsign
  exact ⟨signer, hbuild, hshown, value, hsign, algorithm, signature, hfrom⟩

end RequestSigning
