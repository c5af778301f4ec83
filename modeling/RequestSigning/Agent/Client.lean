import RequestSigning.Agent.Message
import RequestSigning.Agent.Stream
import RequestSigning.Log

/-!
# Exchanges with an agent

A client sends a request as one frame, its length and its body, and reads one frame in reply.
A failure of the stream, or a reply of a length out of bounds, leaves it unknown where the next
frame starts; the client then refuses all further requests.

The body of a reply is decoded only after the whole frame was read, so a body that makes no sense
fails its own request and leaves the stream at the start of the next frame. `Exchange` keeps apart
the ways in which an exchange ends, and `Exchange.breaks` says which of them leave the client
unusable.
-/

namespace RequestSigning.Agent

/-- Bytes in the longest reply that is read. -/
def maxReply : Nat := 262144

/-- How an exchange of one request ended. -/
inductive Exchange
  /-- The request does not fit a frame; nothing was sent. -/
  | tooLong (fault : Wire.Fault)
  /-- The stream failed. -/
  | failed (cause : IoFault)
  /-- The length of the reply is out of bounds. -/
  | badLength (length : Nat)
  | reply (body : Bytes)
  deriving DecidableEq

/-- Whether the stream cannot be used after an exchange. -/
def Exchange.breaks : Exchange → Bool
  | failed _ | badLength _ => true
  | _ => false

/-- The body of the reply, or why there is none. -/
def Exchange.result : Exchange → Except AuthError Bytes
  | tooLong fault => .error (.agentProtocol (.requestTooLong fault))
  | failed cause => .error (.agentIo cause)
  | badLength length => .error (.agentProtocol (.replyLength length))
  | reply body => .ok body

section Streams

variable {σ : Type} [ByteStream σ]

/-- Sends a frame. -/
def send (stream : σ) (frame : Bytes) : Except IoFault Unit × σ :=
  match ByteStream.write stream frame with
  | (.ok (), stream) => ByteStream.flush stream
  | (.error cause, stream) => (.error cause, stream)

/-- Receives a frame. -/
def receive (stream : σ) : Exchange × σ :=
  match ByteStream.read stream 4 with
  | (.error cause, stream) => (.failed cause, stream)
  | (.ok length, stream) =>
    let length := Bytes.toNat length
    if length = 0 ∨ maxReply < length then (.badLength length, stream)
    else
      match ByteStream.read stream length with
      | (.error cause, stream) => (.failed cause, stream)
      | (.ok body, stream) => (.reply body, stream)

/-- Sends a request's body as a frame, and receives the reply. -/
def exchange (stream : σ) (body : Bytes) : Exchange × σ :=
  match Wire.field? body with
  | .error fault => (.tooLong fault, stream)
  | .ok frame =>
    match send stream frame with
    | (.error cause, stream) => (.failed cause, stream)
    | (.ok (), stream) => receive stream

end Streams

/-- A **client** of an agent: the stream, and whether it can no longer be used. -/
structure Client (σ : Type) where
  stream : σ
  broken : Bool

namespace Client

variable {σ : Type} [ByteStream σ]

/-- The client of a fresh stream. -/
def ofStream (stream : σ) : Client σ := ⟨stream, false⟩

/-- The reply to a request's body. -/
def roundTrip (client : Client σ) (body : Bytes) : Except AuthError Bytes × Client σ :=
  if client.broken then (.error .agentConnectionLost, client)
  else
    let (outcome, stream) := exchange client.stream body
    (outcome.result, ⟨stream, outcome.breaks⟩)

/-- The reply to a request. -/
def ask (client : Client σ) (request : Request) : Except AuthError Bytes × Client σ :=
  match request.body with
  | .error fault => (.error (.agentProtocol (.requestTooLong fault)), client)
  | .ok body => client.roundTrip body

/-- What a reply's body holds, or why there is none. -/
def decodeReply {α : Type} (decode : Bytes → Except ProtocolFault α)
    (answer : Except AuthError Bytes) : Except AuthError α := do
  let body ← answer
  (decode body).mapError .agentProtocol

section Replies

variable {α : Type} {decode : Bytes → Except ProtocolFault α}

@[simp] theorem decodeReply_error (e : AuthError) : decodeReply decode (.error e) = .error e := rfl

theorem decodeReply_of_ok {body : Bytes} {value : α} (h : decode body = .ok value) :
    decodeReply decode (.ok body) = .ok value := by
  change (decode body).mapError _ = _
  rw [h]
  rfl

/-- A reply that cannot be decoded is a fault of the protocol. -/
theorem decodeReply_of_error {body : Bytes} {fault : ProtocolFault}
    (h : decode body = .error fault) :
    decodeReply decode (.ok body) = .error (.agentProtocol fault) := by
  change (decode body).mapError _ = _
  rw [h]
  rfl

end Replies

/-- All keys that the agent holds. -/
def listIdentities (client : Client σ) : Except AuthError (List Identity) × Client σ :=
  let (answer, client) := client.ask .list
  (decodeReply decodeIdentities answer, client)

/-- The agent's signature of data with the key that has this blob. -/
def sign (client : Client σ) (keyBlob data : Bytes) : Except AuthError Signature × Client σ :=
  let (answer, client) := client.ask (.sign keyBlob data)
  (decodeReply decodeSignature answer, client)

end Client

/-- Where log events about agents come from. -/
def logTarget : String := "triton_auth::agent"

/-- Reports an exchange that broke on the stream's failure, and returns its result. -/
def reported {α : Type} (result : Except AuthError α) : Logged (Except AuthError α) := do
  match result with
  | .error (.agentIo _) =>
    Logged.emit ⟨.warn, logTarget, "SSH agent connection failed; signer is no longer usable", []⟩
  | _ => pure ()
  pure result

end RequestSigning.Agent
