import RequestSigning.Base64
import RequestSigning.Identity
import RequestSigning.Log
import RequestSigning.PrivateKey.Basic

/-!
# Signing with a key at hand

A local signer holds a private key. It is built only for the key that was asked for, and only
if the key can sign: a text is signed once before the signer is given out.

The trial takes a draw of its own, the first, and its signature is thrown away. What a key cannot
sign at all is told when the signer is built and not with the first request.
-/

namespace RequestSigning

/-- A **local signer**: a private key, and who signs with it. -/
structure LocalSigner where
  key : PrivateKey
  identity : SignerIdentity

/-- A Base64 signature and the algorithm it was made with. -/
structure RawSignature where
  signature : String
  algorithm : SigningAlgorithm
  deriving DecidableEq

namespace LocalSigner

/-- Where log events of local signers come from. -/
def logTarget : String := "triton_auth::local"

/-- The text signed before a signer is given out. -/
def selfTestText : String := "triton-auth signing self-test"

/-- The signer of a key for an account and a user, if the key is the one named and can sign.
`draw` is a random number for the trial signature. -/
def make (draw : Nat) (keyName : String) (key : PrivateKey) (account : String)
    (user : Option String) : Logged (Except AuthError LocalSigner) := do
  let fingerprint := key.fingerprint
  if ¬ fingerprint.isNamedBy keyName then
    Logged.emit ⟨.warn, logTarget, "private key does not match configured key id",
      [("expected", keyName), ("actual", fingerprint.display)]⟩
    pure (.error (.fingerprintMismatch (Fingerprint.normalize keyName) fingerprint.compact))
  else
    match key.sign draw (Utf8.encode selfTestText) with
    | .error fault => pure (.error (.selfTestSign (AuthError.signing fault).message))
    | .ok _ =>
      Logged.emit ⟨.debug, logTarget, "created private key signer",
        [("fingerprint", fingerprint.display), ("algorithm", key.algorithm.name),
          ("account", Text.quote account)]⟩
      pure (.ok ⟨key, ⟨KeyId.make account user fingerprint, key.algorithm⟩⟩)

/-- The Base64 signature of a text. -/
def signText (signer : LocalSigner) (draw : Nat) (text : String) :
    Logged (Except AuthError String) :=
  match signer.key.sign draw (Utf8.encode text) with
  | .error fault => pure (.error (.signing fault))
  | .ok signature => do
    Logged.emit ⟨.trace, logTarget, "signed",
      [("algorithm", signer.identity.algorithm.name), ("len", toString signature.length)]⟩
    pure (.ok (Base64.encode signature))

/-- The algorithm that a signer always uses. -/
def defaultAlgorithm (signer : LocalSigner) : SigningAlgorithm :=
  signer.identity.algorithm

/-- The Authorization value for a `date` header. -/
def sign (signer : LocalSigner) (draw : Nat) (date : String) :
    Logged (Except AuthError String) := do
  let answer ← signer.signText draw (signingString date)
  pure (answer.map signer.identity.authorization)

/-- The signature of any text. -/
def signRaw (signer : LocalSigner) (draw : Nat) (text : String) :
    Logged (Except AuthError RawSignature) := do
  let answer ← signer.signText draw text
  pure (answer.map fun signature => ⟨signature, signer.identity.algorithm⟩)

end LocalSigner

end RequestSigning
