import RequestSigning.Agent.Signer

/-!
# What an agent signer is made of

An agent signer is given out only for a key that its caller named and the agent listed
(`AgentSigner.make_eq_ok`). Whatever it then signs is the agent's reply to a request for that key
(`AgentSigner.value_sign`), passed on only in the one format that is accepted
(`AgentSigner.authorization_eq_ok`).

Each lemma takes one result apart: from a value that was returned it gives the answers of the agent
that led to it. None of them assumes that the agent behaves, so a reply may be cut off, refuse, or
hold a signature for another key; what the signer checks of it is the format and nothing else.
-/

namespace RequestSigning

open Agent

namespace AgentSigner

variable {σ : Type}

/-- A signer is chosen for a key that the caller named, and signs as that key. -/
theorem choose_eq_ok {client : Client σ} {keys : List Agent.Identity} {keyName account : String}
    {user : Option String} {signer : AgentSigner σ}
    (h : (choose client keys keyName account user).value = .ok signer) :
    ∃ key ∈ keys, key.fingerprint.isNamedBy keyName = true ∧
      signer = ⟨client, key, ⟨KeyId.make account user key.fingerprint, .rsaSha1⟩⟩ := by
  rw [choose, Logged.value_bind] at h
  cases hkey : chooseKey? keyName keys with
  | none => simp [hkey] at h
  | some key =>
    simp only [hkey, Logged.value_bind, Logged.value_pure] at h
    rw [chooseKey?] at hkey
    have hmem := List.mem_of_find?_eq_some hkey
    have hnamed := List.find?_some hkey
    exact ⟨key, hmem, hnamed, (Except.ok.inj h).symm⟩

/-- A signature is passed on only in the accepted format. -/
theorem authorization_eq_ok {identity : SignerIdentity} {signature : Agent.Signature}
    {value : String} (h : (authorization identity signature).value = .ok value) :
    signature.format = acceptedFormat ∧
      value = identity.authorization (Base64.encode signature.blob) := by
  rw [authorization] at h
  by_cases hformat : signature.format = acceptedFormat
  · simp only [hformat, ne_eq, not_true_eq_false, if_false, Logged.value_bind,
      Logged.value_pure] at h
    exact ⟨hformat, (Except.ok.inj h).symm⟩
  · simp [hformat] at h

/-- An Authorization value comes from a reply that holds a signature. -/
theorem signed_eq_ok {identity : SignerIdentity} {answer : Except AuthError Bytes} {value : String}
    (h : (do
      let signature ← Client.decodeReply decodeSignature answer
      (authorization identity signature).value) = .ok value) :
    ∃ reply signature, answer = .ok reply ∧ decodeSignature reply = .ok signature ∧
      (authorization identity signature).value = .ok value := by
  cases answer with
  | error e =>
    rw [Client.decodeReply_error] at h
    contradiction
  | ok reply =>
    cases hdecode : decodeSignature reply with
    | error fault =>
      rw [Client.decodeReply_of_error hdecode] at h
      contradiction
    | ok signature =>
      rw [Client.decodeReply_of_ok hdecode] at h
      exact ⟨reply, signature, rfl, hdecode, h⟩

section Streams

variable [ByteStream σ]

@[simp] theorem value_reported {α : Type} (result : Except AuthError α) :
    (reported result).value = result := by
  unfold reported
  split <;> rfl

/-- A signer is made for a key that the caller named and the agent listed. -/
theorem make_eq_ok {connect : String → Except IoFault σ} {path : Option String}
    {keyName account : String} {user : Option String} {signer : AgentSigner σ}
    (h : (make connect path keyName account user).value.1 = .ok signer) :
    ∃ socket stream keys, path = some socket ∧ connect socket = .ok stream ∧
      ((Client.ofStream stream).listIdentities).1 = .ok keys ∧
      ∃ key ∈ keys, key.fingerprint.isNamedBy keyName = true ∧
        signer = ⟨((Client.ofStream stream).listIdentities).2, key,
          ⟨KeyId.make account user key.fingerprint, .rsaSha1⟩⟩ := by
  cases path with
  | none => simp [make] at h
  | some socket =>
    cases hconnect : connect socket with
    | error cause => simp [make, dial, hconnect] at h
    | ok stream =>
      cases hkeys : ((Client.ofStream stream).listIdentities).1 with
      | error e => simp [make, dial, hconnect, ofClient, hkeys] at h
      | ok keys =>
        refine ⟨socket, stream, keys, rfl, hconnect, hkeys, choose_eq_ok ?_⟩
        simpa [make, dial, hconnect, ofClient, hkeys] using h

/-- The request that a signer sends for a date. -/
def request (signer : AgentSigner σ) (date : String) : Request :=
  .sign signer.key.keyBlob (Utf8.encode (signingString date))

/-- Signing asks the request for the date, and changes nothing but the client. -/
theorem value_sign (signer : AgentSigner σ) (date : String) :
    (sign date signer).value =
      ((do
        let signature ← Client.decodeReply decodeSignature
          (signer.client.ask (signer.request date)).1
        (authorization signer.identity signature).value),
        { signer with client := (signer.client.ask (signer.request date)).2 }) := by
  have hanswer : (signer.client.sign signer.key.keyBlob (Utf8.encode (signingString date))) =
      (Client.decodeReply decodeSignature (signer.client.ask (signer.request date)).1,
        (signer.client.ask (signer.request date)).2) := rfl
  rw [sign, hanswer]
  cases hreply : Client.decodeReply decodeSignature (signer.client.ask (signer.request date)).1
    with
  | error e => cases e <;> rfl
  | ok signature => rfl

end Streams

end AgentSigner

end RequestSigning
