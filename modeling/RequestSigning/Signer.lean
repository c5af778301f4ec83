import RequestSigning.Agent.Signer
import RequestSigning.LocalSigner
import RequestSigning.PrivateKey.Parse
import RequestSigning.Settings.Sources

/-!
# The signer of a configuration

A configuration is turned into a local signer, which reads its key from a file, or into a
signer that leaves the signing to an agent.

Both kinds are used through one interface, which gives the signer's identity, the fingerprint of its
key and a signature for a date. Signing passes on the state of an agent's client, so a signer that
lost its connection stays without one.
-/

namespace RequestSigning

open Agent

/-! ### Keys in files -/

/-- Where log events about key files come from. -/
def keyLogTarget : String := "triton_auth::key"

/-- The private key that bytes hold as text; reports its kind and its encoding. -/
def parseKey (bytes : Bytes) : Logged (Except AuthError PrivateKey) :=
  match PrivateKey.parseWith bytes with
  | .error fault => pure (.error (.keyParse fault))
  | .ok (encoding, key) => do
    Logged.emit
      ⟨.debug, keyLogTarget, "parsed private key",
        [("kind", key.kind.name), ("format", Text.quote encoding.label)]⟩
    pure (.ok key)

/-- The private key in the file at a path. -/
def readKey {σ : Type} (host : Host σ) (path : String) : Logged (Except AuthError PrivateKey) :=
  match host.read path with
  | .error cause => pure (.error (.readKey path cause))
  | .ok bytes => parseKey bytes

/-! ### Signers -/

/-- A **signer**: one with a key of its own, or one of an agent. -/
inductive Signer (σ : Type)
  | ofKey (signer : LocalSigner)
  | ofAgent (signer : AgentSigner σ)

namespace Signer

variable {σ : Type}

/-- Who signs. -/
def identity : Signer σ → SignerIdentity
  | ofKey signer => signer.identity
  | ofAgent signer => signer.identity

/-- The fingerprint of the key that signs, as it is shown. -/
def keyFingerprint (signer : Signer σ) : String :=
  signer.identity.keyId.fingerprint.display

/-- The client of the agent that signs, if one does. -/
def client? : Signer σ → Option (Client σ)
  | ofKey _ => none
  | ofAgent signer => some signer.client

/-- The Authorization value for a `date` header. -/
def sign [ByteStream σ] (draw : Nat) (date : String) :
    StateT (Signer σ) Logged (Except AuthError String)
  | ofKey signer => do
    let answer ← signer.sign draw date
    pure (answer, ofKey signer)
  | ofAgent signer => do
    let (answer, signer) ← AgentSigner.sign date signer
    pure (answer, ofAgent signer)

end Signer

namespace Config

variable {σ : Type}

/-- The local signer with the key in the file at a path. -/
def keySigner (config : Config) (host : Host σ) (path : String) :
    Logged (Except AuthError LocalSigner) := do
  let key ← readKey host path
  match key with
  | .error e => pure (.error e)
  | .ok key => LocalSigner.make (host.draws 0) config.keyId key config.account config.user

/-- The signer that a configuration describes, and the client of the agent that was asked, if
one was. -/
def buildSigner [ByteStream σ] (config : Config) (host : Host σ) :
    Logged (Except AuthError (Signer σ) × Option (Client σ)) :=
  match config.keySource with
  | .file path => do
    let signer ← config.keySigner host path
    pure (signer.map .ofKey, none)
  | .agent socket => do
    let (signer, client) ←
      AgentSigner.make host.connect socket config.keyId config.account config.user
    pure (signer.map .ofAgent, client)

end Config

end RequestSigning
