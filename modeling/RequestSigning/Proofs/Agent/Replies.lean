import RequestSigning.Proofs.Agent.Pairing
import RequestSigning.Proofs.Chains

/-!
# Replies that arrive

A client is delivered a body in reply to a request if its stream takes the frame of the request and
then gives out the frame of the body (`Client.Delivered`). Whatever the stream does besides, asking
the request then gives this body (`Client.ask_of_delivered`), and what a call or a signer makes of
it is what it makes of the body alone. The type of the body comes first: with the type asked for,
its fields are read, and a body of any other type is a refusal or has a type that is not expected. A
body with a signature holds a field, inside which stand the format's name and the signature's bytes
as fields (`signatureReply`); the field may be longer than these, and need not be there to its end
(`decodeSignature_eq_ok_iff`).
-/

namespace RequestSigning

open Agent

variable {σ : Type} [ByteStream σ]

namespace Agent

/-! ### Delivery -/

/-- A client **is delivered** a body in reply to a request: it is usable, the request fits a frame,
and the stream takes this frame and then gives out the frame of the body. -/
inductive Client.Delivered (client : Client σ) (request : Request) (body : Bytes) : Prop
  | of {frame : Bytes} {written flushed measured done : σ} (husable : client.broken = false)
      (hframe : request.frame? = some frame)
      (hwrite : ByteStream.write client.stream frame = (.ok (), written))
      (hflush : ByteStream.flush written = (.ok (), flushed))
      (hlength : ByteStream.read flushed 4 = (.ok (Wire.word body.length), measured))
      (hbody : ByteStream.read measured body.length = (.ok body, done))

theorem Request.eq_of_frame?_eq_some {request : Request} {frame : Bytes}
    (h : request.frame? = some frame) :
    request.bytes.length < 2 ^ 32 ∧ frame = Wire.field request.bytes := by
  rw [frame?] at h
  split_ifs at h with hfits
  exact ⟨hfits, (Option.some.inj h).symm⟩

/-- A client that is delivered a body of a length within the bounds has it as its reply, and can be
used again. -/
theorem Client.ask_of_delivered {client : Client σ} {request : Request} {body : Bytes}
    (h : client.Delivered request body) (hreply : IsReply body) :
    (client.ask request).1 = .ok body ∧ (client.ask request).2.broken = false := by
  obtain ⟨husable, hframe, hwrite, hflush, hlength, hbody⟩ := h
  obtain ⟨hfits, rfl⟩ := Request.eq_of_frame?_eq_some hframe
  have hword : Bytes.toNat (Wire.word body.length) = body.length :=
    Wire.toNat_word (hreply.2.trans_lt (by decide))
  have hbounds : ¬(body.length = 0 ∨ maxReply < body.length) := by
    rw [not_or, not_lt]
    exact ⟨hreply.1.ne', hreply.2⟩
  have hexchange : (exchange client.stream request.bytes).1 = .reply body := by
    rw [exchange, Wire.field?_of_fits hfits]
    simp only [send, hwrite, hflush, receive, hlength, hword, hbounds, if_false, hbody]
  rw [ask, Request.body_of_fits hfits]
  simp only [roundTrip, husable, Bool.false_eq_true, if_false, hexchange, Exchange.result,
    Exchange.breaks, and_self]

/-- Bytes that are ahead in memory are read. -/
theorem MemoryStream.read_of_ahead {stream : MemoryStream} {bytes rest : Bytes}
    (h : stream.incoming = bytes ++ rest) :
    ByteStream.read stream bytes.length = (.ok bytes, { stream with incoming := rest }) := by
  simp only [ByteStream.read, MemoryStream.read, h, takeExactly_append]

/-- A client that is served bodies is delivered the first one. -/
theorem Client.Served.delivered {client : Client MemoryStream} {body : Bytes} {bodies : List Bytes}
    (h : client.Served (body :: bodies)) {request : Request}
    (hfits : request.bytes.length < 2 ^ 32) : client.Delivered request body := by
  have hahead := h.ahead
  rw [List.map_cons, List.flatten_cons, Wire.field, List.append_assoc] at hahead
  have hwrite : ByteStream.write client.stream (Wire.field request.bytes) =
      (.ok (), { client.stream with
        written := client.stream.written ++ Wire.field request.bytes }) := by
    simp only [ByteStream.write, MemoryStream.write, h.room]
  generalize hafter : { client.stream with
    written := client.stream.written ++ Wire.field request.bytes } = after at hwrite
  -- the frame of the body is still ahead when the request was taken
  have hflush : ByteStream.flush after = (.ok (), after) := by
    simp only [← hafter, ByteStream.flush, MemoryStream.flush, h.flushes]
  have hincoming : after.incoming =
      Wire.word body.length ++ (body ++ (bodies.map Wire.field).flatten) := by
    rw [← hafter]
    exact hahead
  have hlength := MemoryStream.read_of_ahead hincoming
  have hbody := MemoryStream.read_of_ahead
    (show MemoryStream.incoming { after with incoming := body ++ (bodies.map Wire.field).flatten } =
      body ++ (bodies.map Wire.field).flatten from rfl)
  exact .of h.usable (Request.frame?_of_fits hfits) hwrite hflush hlength hbody

/-- The keys listed are those in the body that is delivered. -/
theorem Client.listIdentities_of_delivered {client : Client σ} {body : Bytes}
    (h : client.Delivered .list body) (hreply : IsReply body) :
    client.listIdentities.1 = (decodeIdentities body).mapError .agentProtocol := by
  have hcall : client.listIdentities.1 = decodeReply decodeIdentities (client.ask .list).1 := rfl
  rw [hcall, (ask_of_delivered h hreply).1]
  rfl

/-! ### Types of replies -/

section Types

variable {operation : AgentOperation} {expected type : UInt8}

theorem expectType_self (expected : UInt8) (operation : AgentOperation) (fields : Bytes) :
    expectType expected operation (expected :: fields) = .ok fields :=
  if_pos rfl

theorem expectType_failure (h : expected ≠ failureType) (operation : AgentOperation)
    (fields : Bytes) :
    expectType expected operation (failureType :: fields) = .error (.refused operation) := by
  rw [expectType, if_neg h.symm, if_pos rfl]

theorem expectType_other (h : type ≠ expected) (hfailure : type ≠ failureType)
    (operation : AgentOperation) (fields : Bytes) :
    expectType expected operation (type :: fields) = .error (.unexpectedType type operation) := by
  rw [expectType, if_neg h, if_neg hfailure]

/-- Fields are read only behind the type that is expected. -/
theorem expectType_eq_ok_iff {body fields : Bytes} :
    expectType expected operation body = .ok fields ↔ body = expected :: fields := by
  constructor
  · intro h
    cases body with
    | nil => contradiction
    | cons type rest =>
      rw [expectType] at h
      split_ifs at h with htype
      rw [htype, Except.ok.inj h]
  · rintro rfl
    exact expectType_self expected operation fields

end Types

/-! ### Bodies with a signature -/

/-- The **body with a signature**: inside a field of this length, the format's name and the
signature's bytes as fields, and what stands behind these. -/
def signatureReply (length : Nat) (format blob behind : Bytes) : Bytes :=
  signReplyType :: (Wire.word length ++ (Wire.field format ++ (Wire.field blob ++ behind)))

/-- A field that ends with the signature's bytes is one of the length of both fields. -/
theorem signatureReply_of_field (format blob behind : Bytes) :
    signReplyType :: (Wire.field (Wire.field format ++ Wire.field blob) ++ behind) =
      signatureReply (8 + format.length + blob.length) format blob behind := by
  have hlength : (Wire.field format ++ Wire.field blob).length =
      8 + format.length + blob.length := by
    rw [List.length_append, Wire.length_field, Wire.length_field]
    omega
  rw [signatureReply, Wire.field, hlength]
  simp only [List.append_assoc]

/-- A signature is read where the fields of its format and its bytes are there. -/
theorem readSignature_eq_ok_iff {bytes rest : Bytes} {signature : Signature} :
    readSignature bytes = .ok (signature, rest) ↔
      ∃ format blob, format.length ≤ Wire.maxField ∧ blob.length ≤ Wire.maxField ∧
        bytes = Wire.field format ++ (Wire.field blob ++ rest) ∧
        signature = ⟨Utf8.decodeLossy format, blob⟩ := by
  rw [readSignature, Wire.readTwoFields_eq_ok_iff
    (f := fun format blob => (⟨Utf8.decodeLossy format, blob⟩ : Signature))]

/-- Both fields are in front of bytes cut off where they still are inside. -/
theorem take_fields {n : Nat} {format blob : Bytes} (h : 8 + format.length + blob.length ≤ n)
    (behind : Bytes) :
    (Wire.field format ++ (Wire.field blob ++ behind)).take n =
      Wire.field format ++
        (Wire.field blob ++ behind.take (n - (8 + format.length + blob.length))) := by
  have hformat : (Wire.field format).length ≤ n := by
    rw [Wire.length_field]
    omega
  have hblob : (Wire.field blob).length ≤ n - (Wire.field format).length := by
    rw [Wire.length_field, Wire.length_field]
    omega
  have hrest : n - (Wire.field format).length - (Wire.field blob).length =
      n - (8 + format.length + blob.length) := by
    rw [Wire.length_field, Wire.length_field]
    omega
  rw [List.take_append, List.take_of_length_le hformat, List.take_append,
    List.take_of_length_le hblob, hrest]

/-- **Bodies with a signature.** A signature is read exactly from a body of the form
`signatureReply` that has both fields inside the outer one. -/
theorem decodeSignature_eq_ok_iff {body : Bytes} {signature : Signature} :
    decodeSignature body = .ok signature ↔
      ∃ length format blob behind, length ≤ Wire.maxField ∧
        8 + format.length + blob.length ≤ length ∧
        body = signatureReply length format blob behind ∧
        signature = ⟨Utf8.decodeLossy format, blob⟩ := by
  constructor
  · intro h
    rw [decodeSignature, bind_eq_ok_iff] at h
    obtain ⟨fields, htype, h⟩ := h
    obtain rfl := expectType_eq_ok_iff.mp htype
    rw [bind_eq_ok_iff] at h
    obtain ⟨⟨found, rest⟩, hread, h⟩ := h
    obtain rfl : found = signature := Except.ok.inj h
    rw [malformed, mapError_eq_ok_iff, Wire.readInside_eq_ok_iff] at hread
    obtain ⟨length, tail, left, hlength, rfl, hread, -⟩ := hread
    obtain ⟨format, blob, -, -, hfields, rfl⟩ := readSignature_eq_ok_iff.mp hread
    have hinside := List.length_take_le length tail
    rw [hfields] at hinside
    simp only [List.length_append, Wire.length_field] at hinside
    refine ⟨length, format, blob, left ++ tail.drop length, hlength, by omega, ?_, rfl⟩
    -- what was read inside stands in front of what the field was cut off from
    have htail : tail =
        Wire.field format ++ (Wire.field blob ++ (left ++ tail.drop length)) := by
      calc tail = tail.take length ++ tail.drop length := (List.take_append_drop length tail).symm
        _ = _ := by rw [hfields, List.append_assoc, List.append_assoc]
    rw [signatureReply, ← htail]
  · rintro ⟨length, format, blob, behind, hlength, hinside, rfl, rfl⟩
    have hread := readSignature_eq_ok_iff.mpr ⟨format, blob, by omega, by omega,
      take_fields hinside behind, rfl⟩
    have houter := Wire.readInside_eq_ok_iff.mpr ⟨length, _, _, hlength, rfl, hread, rfl⟩
    rw [decodeSignature, signatureReply, expectType_self, ok_bind, houter]
    rfl

end Agent

/-- What a signer gives for a date is what it makes of the body that is delivered. -/
theorem AgentSigner.sign_of_delivered {signer : AgentSigner σ} {date : String} {body : Bytes}
    (h : signer.client.Delivered (signer.request date) body) (hreply : IsReply body) :
    (sign date signer).value.1 = decode signer.identity body := by
  rw [value_sign, (Client.ask_of_delivered h hreply).1]
  rfl

end RequestSigning
