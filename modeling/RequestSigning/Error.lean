import RequestSigning.IoFault
import RequestSigning.Rsa
import RequestSigning.Ssh.Wire
import RequestSigning.Text.Characters

/-!
# Errors

Why a signer cannot be built or a request cannot be signed. Each error is a cause;
`AuthError.message` gives its words, and `AuthError.source` the words of the failure beneath
it where there is one.

The words are part of what a caller sees, and the causes keep what the words are made of: a path, a
socket, a number of bytes, a key's name. So theorems name an error by its cause and hold for its
words as well.
-/

namespace RequestSigning

/-- The **kinds** of private key. Only the first two can sign. -/
inductive KeyKind
  | rsa
  | ecdsa
  | ed25519
  | dsa
  deriving DecidableEq, Repr

/-- The name of a kind. -/
def KeyKind.name : KeyKind → String
  | .rsa => "rsa"
  | .ecdsa => "ecdsa"
  | .ed25519 => "ed25519"
  | .dsa => "dsa"

/-- Why a text is not a private key that can sign. -/
inductive KeyFault
  | notText
  | noHeader
  | unrecognizedBlock (label : String)
  | unsupportedKind (kind : KeyKind)
  | unsupportedType
  | encrypted
  /-- The block does not hold what its name says. -/
  | malformedBlock
  | malformedEc
  | malformedPkcs8
  | negativeComponent
  | invalidScalar
  /-- The numbers of an RSA key do not fit together. -/
  | numbers (fault : Rsa.KeyFault)
  /-- Any other reason, by its words. -/
  | described (text : String)
  deriving DecidableEq, Repr

/-- The words for a fault. -/
def KeyFault.message : KeyFault → String
  | .notText => "key material is not PEM text"
  | .noHeader => "no PEM header found"
  | .unrecognizedBlock label => "unrecognized PEM block " ++ Text.quote label
  | .unsupportedKind kind => "unsupported key type: " ++ kind.name
  | .unsupportedType => "unsupported OpenSSH key type"
  | .encrypted => "passphrase-protected keys are not supported"
  | .malformedBlock => "malformed PEM block"
  | .malformedEc => "EC key is malformed or not on a NIST P curve"
  | .malformedPkcs8 => "PKCS#8 key is not RSA or ECDSA on a NIST P curve"
  | .negativeComponent => "negative RSA key component"
  | .invalidScalar => "invalid ECDSA private scalar"
  | .numbers fault => fault.message
  | .described text => text

/-- Why a key gives no signature. -/
inductive SigningFault
  | rsa (fault : Rsa.SigningFault)
  | ecdsa
  /-- Any other reason, by its words. -/
  | described (text : String)
  deriving DecidableEq, Repr

/-- The words for a fault. -/
def SigningFault.message : SigningFault → String
  | .rsa .messageTooLong => "message too long"
  | .rsa .notInverse => "internal error"
  | .ecdsa => "signature error"
  | .described text => text

/-- What an agent is asked to do. -/
inductive AgentOperation
  | listKeys
  | sign
  deriving DecidableEq, Repr

/-- The words for an operation. -/
def AgentOperation.name : AgentOperation → String
  | .listKeys => "list keys"
  | .sign => "sign"

/-- How an exchange with an agent breaks the protocol. -/
inductive ProtocolFault
  | replyLength (length : Nat)
  | refused (operation : AgentOperation)
  | unexpectedType (type : UInt8) (operation : AgentOperation)
  | malformedReply (fault : Wire.Fault)
  | requestTooLong (fault : Wire.Fault)
  /-- Any other reason, by its words. -/
  | described (text : String)
  deriving DecidableEq, Repr

/-- The words for a fault. -/
def ProtocolFault.message : ProtocolFault → String
  | .replyLength length => "invalid reply length " ++ toString length
  | .refused operation => "agent refused " ++ operation.name ++ " request"
  | .unexpectedType type operation =>
    "unexpected reply type " ++ toString type.toNat ++ " to " ++ operation.name ++ " request"
  | .malformedReply fault => "malformed agent reply: " ++ fault.message
  | .requestTooLong fault => "cannot encode agent request: " ++ fault.message
  | .described text => text

/-- What is wrong with the settings. -/
inductive ConfigFault
  | accountMissing
  | keyIdMissing
  | unreadable (path : String) (cause : IoFault)
  | unparsable (path : String)
  /-- Any other reason, by its words. -/
  | described (text : String)
  deriving DecidableEq, Repr

/-- The words for a fault. -/
def ConfigFault.message : ConfigFault → String
  | .accountMissing => "account is not set (TRITON_ACCOUNT)"
  | .keyIdMissing => "key id is not set (TRITON_KEY_ID)"
  | .unreadable path cause => "failed to read " ++ path ++ ": " ++ cause.message
  | .unparsable path => "failed to parse " ++ path ++ ": not a table of settings"
  | .described text => text

/-- An **error** in building a signer or signing a request. -/
inductive AuthError
  | readKey (path : String) (cause : IoFault)
  | keyParse (fault : KeyFault)
  | fingerprintMismatch (expected actual : String)
  | selfTestSign (text : String)
  | agentUnavailable
  | agentConnect (path : String) (cause : IoFault)
  | keyNotFoundInAgent (fingerprint : String)
  | agentIo (cause : IoFault)
  | agentProtocol (fault : ProtocolFault)
  | agentConnectionLost
  | unsupportedAgentAlgorithm (format : String)
  | signing (fault : SigningFault)
  | invalidHeader (header message : String)
  | config (fault : ConfigFault)
  deriving DecidableEq, Repr

namespace AuthError

/-- The words for an error. -/
def message : AuthError → String
  | readKey path cause =>
    "failed to read private key from " ++ path ++ ": " ++ cause.message
  | keyParse fault => "failed to parse private key: " ++ fault.message
  | fingerprintMismatch expected actual =>
    "key fingerprint mismatch: expected " ++ expected ++ ", key has " ++ actual
  | selfTestSign text => "private key failed signing self-test: " ++ text
  | agentUnavailable => "no SSH agent available (SSH_AUTH_SOCK is not set)"
  | agentConnect path cause =>
    "failed to connect to SSH agent at " ++ path ++ ": " ++ cause.message
  | keyNotFoundInAgent fingerprint =>
    "no key with fingerprint " ++ fingerprint ++ " found in SSH agent"
  | agentIo cause => "SSH agent I/O failed: " ++ cause.message
  | agentProtocol fault => "SSH agent protocol error: " ++ fault.message
  | agentConnectionLost => "SSH agent connection was lost; construct a new signer"
  | unsupportedAgentAlgorithm format =>
    "unsupported SSH agent signature algorithm: " ++ format
  | signing fault => "signing failed: " ++ fault.message
  | invalidHeader header message => "invalid value for header " ++ header ++ ": " ++ message
  | config fault => "invalid configuration: " ++ fault.message

/-- The words of the failure beneath an error, where there is one. -/
def source : AuthError → Option String
  | readKey _ cause | agentConnect _ cause | agentIo cause => some cause.message
  | _ => none

end AuthError

end RequestSigning
