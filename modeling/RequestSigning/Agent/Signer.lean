import RequestSigning.Agent.Client
import RequestSigning.Base64
import RequestSigning.Identity

/-!
# Signing through an agent

An agent signer holds a client of an agent and the key that the agent signs with, the first of
the agent's keys that the caller's text names. Only signatures of the format `ssh-rsa` can be
passed on to a verifier.

The keys are asked for once, when the signer is made. Afterwards each signature is one request with
the blob of the chosen key; if the agent no longer has it, the agent refuses, and the signer does
not choose again.
-/

namespace RequestSigning

open Agent

/-- An **agent signer**: the client, the agent's key, and who signs with it. -/
structure AgentSigner (σ : Type) where
  client : Client σ
  key : Agent.Identity
  identity : SignerIdentity

namespace AgentSigner

variable {σ : Type}

/-- The one format of an agent's signatures that is passed on. -/
def acceptedFormat : String := "ssh-rsa"

/-- A client of the agent that listens at a path. -/
def dial (connect : String → Except IoFault σ) (path : String) :
    Logged (Except AuthError (Client σ)) :=
  match connect path with
  | .error cause => pure (.error (.agentConnect path cause))
  | .ok stream => do
    Logged.emit ⟨.debug, logTarget, "connected to SSH agent", [("socket", path)]⟩
    pure (.ok (Client.ofStream stream))

/-- The first key that a text names. -/
def chooseKey? (keyName : String) (keys : List Agent.Identity) : Option Agent.Identity :=
  keys.find? fun key => key.fingerprint.isNamedBy keyName

/-- The signer for one of the keys that an agent listed. -/
def choose (client : Client σ) (keys : List Agent.Identity) (keyName account : String)
    (user : Option String) : Logged (Except AuthError (AgentSigner σ)) := do
  Logged.emit ⟨.debug, logTarget, "SSH agent listed keys", [("count", toString keys.length)]⟩
  match chooseKey? keyName keys with
  | none =>
    Logged.emit ⟨.warn, logTarget, "key not found in SSH agent", [("fingerprint", keyName)]⟩
    pure (.error (.keyNotFoundInAgent keyName))
  | some key =>
    Logged.emit ⟨.debug, logTarget, "selected SSH agent key",
      [("fingerprint", key.fingerprint.display), ("comment", key.comment)]⟩
    pure (.ok ⟨client, key, ⟨KeyId.make account user key.fingerprint, .rsaSha1⟩⟩)

section Streams

variable [ByteStream σ]

/-- The signer for a key of the agent that a client talks to, and the client after the agent
was asked for its keys. -/
def ofClient (client : Client σ) (keyName account : String) (user : Option String) :
    Logged (Except AuthError (AgentSigner σ) × Client σ) := do
  let (answer, client) := client.listIdentities
  let answer ← reported answer
  match answer with
  | .error e => pure (.error e, client)
  | .ok keys =>
    let signer ← choose client keys keyName account user
    pure (signer, client)

/-- The signer for a key of the agent that listens at a path, if there is a path, and the
client of that agent, if there is one. -/
def make (connect : String → Except IoFault σ) (path : Option String)
    (keyName account : String) (user : Option String) :
    Logged (Except AuthError (AgentSigner σ) × Option (Client σ)) := do
  match path with
  | none => pure (.error .agentUnavailable, none)
  | some path =>
    let dialled ← dial connect path
    match dialled with
    | .error e => pure (.error e, none)
    | .ok client =>
      let (signer, client) ← ofClient client keyName account user
      pure (signer, some client)

/-- The Authorization value for an agent's signature. -/
def authorization (identity : SignerIdentity) (signature : Agent.Signature) :
    Logged (Except AuthError String) := do
  if signature.format ≠ acceptedFormat then
    pure (.error (.unsupportedAgentAlgorithm signature.format))
  else
    Logged.emit ⟨.trace, logTarget, "SSH agent signed request",
      [("len", toString signature.blob.length)]⟩
    pure (.ok (identity.authorization (Base64.encode signature.blob)))

/-- The Authorization value for a `date` header. -/
def sign (date : String) : StateT (AgentSigner σ) Logged (Except AuthError String) :=
  fun signer => do
    let (answer, client) :=
      signer.client.sign signer.key.keyBlob (Utf8.encode (signingString date))
    let answer ← reported answer
    let signer := { signer with client := client }
    match answer with
    | .error e => pure (.error e, signer)
    | .ok signature =>
      let text ← authorization signer.identity signature
      pure (text, signer)

end Streams

end AgentSigner

end RequestSigning
