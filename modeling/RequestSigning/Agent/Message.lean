import RequestSigning.Error
import RequestSigning.Fingerprint
import RequestSigning.Ssh.PublicKey

/-!
# Messages to and from an agent

The bodies of the two requests a client makes and of the replies to them. The first byte of a
body is its type. A list of keys is a count and two fields for each key, its blob and a
comment; a signature is a field that holds two fields, the format's name and the signature's
bytes. Bytes behind these are ignored.
-/

namespace RequestSigning.Agent

/-- Type of the reply that refuses a request. -/
def failureType : UInt8 := 5

/-- Type of the request for all keys. -/
def listRequestType : UInt8 := 11

/-- Type of the reply with all keys. -/
def listReplyType : UInt8 := 12

/-- Type of the request for a signature. -/
def signRequestType : UInt8 := 13

/-- Type of the reply with a signature. -/
def signReplyType : UInt8 := 14

/-- A **key held by an agent**: its blob, and the agent's comment on it. -/
structure Identity where
  keyBlob : Bytes
  comment : String
  deriving DecidableEq

namespace Identity

/-- The fingerprint of the key. -/
def fingerprint (identity : Identity) : Fingerprint :=
  Fingerprint.ofBlob identity.keyBlob

/-- The public key in the blob, if it is of a type that is known. -/
def publicKey? (identity : Identity) : Option Ssh.PublicKey :=
  Ssh.PublicKey.decode? identity.keyBlob

/-- The name of the key's type, if that is known. -/
def keyType? (identity : Identity) : Option String :=
  identity.publicKey?.map Ssh.PublicKey.typeName

end Identity

/-- A **signature made by an agent**: the name of its format, and its bytes. -/
structure Signature where
  format : String
  blob : Bytes
  deriving DecidableEq

/-! ### Requests -/

/-- A **request** to an agent. -/
inductive Request
  | list
  | sign (keyBlob data : Bytes)
  deriving DecidableEq

/-- The body of a request. No flags are set in the request for a signature. -/
def Request.body : Request → Except Wire.Fault Bytes
  | .list => .ok [listRequestType]
  | .sign keyBlob data => do
    let keyField ← Wire.field? keyBlob
    let dataField ← Wire.field? data
    pure (signRequestType :: (keyField ++ dataField ++ Wire.word 0))

/-! ### Replies -/

/-- The bytes behind the type of a reply, if it is the type expected. -/
def expectType (expected : UInt8) (operation : AgentOperation) (body : Bytes) :
    Except ProtocolFault Bytes :=
  match body with
  | [] => .error (.malformedReply .length)
  | type :: rest =>
    if type = expected then .ok rest
    else if type = failureType then .error (.refused operation)
    else .error (.unexpectedType type operation)

/-- The key at the front, and the bytes behind it. -/
def readIdentity (bytes : Bytes) : Except Wire.Fault (Identity × Bytes) := do
  let (keyBlob, rest) ← Wire.readField bytes
  let (comment, rest) ← Wire.readField rest
  pure (⟨keyBlob, Utf8.decodeLossy comment⟩, rest)

/-- As many keys as asked for, behind those already read, the latest first. -/
def readIdentities : Nat → List Identity → Bytes → Except Wire.Fault (List Identity)
  | 0, read, _ => .ok read.reverse
  | count + 1, read, bytes =>
    match readIdentity bytes with
    | .ok (identity, rest) => readIdentities count (identity :: read) rest
    | .error fault => .error fault

/-- The fault of a reply whose fields cannot be read. -/
def malformed {α : Type} (read : Except Wire.Fault α) : Except ProtocolFault α :=
  read.mapError .malformedReply

/-- The keys in the body of a reply. -/
def decodeIdentities (body : Bytes) : Except ProtocolFault (List Identity) := do
  let rest ← expectType listReplyType .listKeys body
  let (count, rest) ← malformed (Wire.readWord rest)
  malformed (readIdentities count [] rest)

/-- The format and the bytes of a signature. -/
def readSignature (bytes : Bytes) : Except Wire.Fault (Signature × Bytes) := do
  let (format, rest) ← Wire.readField bytes
  let (blob, rest) ← Wire.readField rest
  pure (⟨Utf8.decodeLossy format, blob⟩, rest)

/-- The signature in the body of a reply. -/
def decodeSignature (body : Bytes) : Except ProtocolFault Signature := do
  let rest ← expectType signReplyType .sign body
  let (signature, _) ← malformed (Wire.readInside readSignature rest)
  pure signature

end RequestSigning.Agent
