import RequestSigning.Fingerprint

/-!
# Who signs a request

The key id names an account, a user of it if there is one, and a key by its fingerprint. With
one of the algorithms that a verifier of requests knows it makes up a signer's identity, which writes
the Authorization value for a signature. What is signed is the text of the `date` header.
-/

namespace RequestSigning

/-- The **algorithms** a signature may be made with. -/
inductive SigningAlgorithm
  /-- RSA with PKCS#1 v1.5 padding over SHA-512. -/
  | rsaSha512
  /-- ECDSA over SHA-512, the two numbers as a sequence. -/
  | ecdsaSha512
  /-- RSA with PKCS#1 v1.5 padding over SHA-1, as an agent makes it. -/
  | rsaSha1
  deriving DecidableEq, Repr

/-- The name of an algorithm in a signed request. -/
def SigningAlgorithm.name : SigningAlgorithm → String
  | .rsaSha512 => "rsa-sha512"
  | .ecdsaSha512 => "ecdsa-sha512"
  | .rsaSha1 => "rsa-sha1"

/-- A **key id**: the account, a user unless the account's own key signs, and the key's
fingerprint. -/
structure KeyId where
  account : String
  user : Option String
  fingerprint : Fingerprint
  deriving DecidableEq

/-- The key id for an account and a user; an empty user is none. -/
def KeyId.make (account : String) (user : Option String) (fingerprint : Fingerprint) : KeyId :=
  ⟨account, user.filter fun user => user ≠ "", fingerprint⟩

/-- The text of a key id. -/
def KeyId.text (id : KeyId) : String :=
  match id.user with
  | some user =>
    "/" ++ id.account ++ "/users/" ++ user ++ "/keys/" ++ id.fingerprint.display
  | none => "/" ++ id.account ++ "/keys/" ++ id.fingerprint.display

/-- Who is signing and how. -/
structure SignerIdentity where
  keyId : KeyId
  algorithm : SigningAlgorithm
  deriving DecidableEq

/-- The Authorization value for a Base64 signature. -/
def SignerIdentity.authorization (identity : SignerIdentity) (signature : String) : String :=
  "Signature keyId=\"" ++ identity.keyId.text ++ "\",algorithm=\"" ++ identity.algorithm.name ++
    "\",headers=\"date\",signature=\"" ++ signature ++ "\""

/-- The text that is signed for a request with this `date` header. -/
def signingString (date : String) : String :=
  "date: " ++ date

end RequestSigning
