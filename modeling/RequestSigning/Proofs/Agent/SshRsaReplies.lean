import RequestSigning.Proofs.Agent.Replies
import RequestSigning.Proofs.AuthorizationValue
import RequestSigning.Proofs.LossyText

/-!
# Replies that become Authorization values

A signer passes on the signatures of the format `ssh-rsa` alone, as their bytes in Base64. The name
of the format is text read from bytes, but no other bytes read as this name
(`decodeLossy_eq_acceptedFormat_iff`). So the bodies that become an Authorization value are those
with a signature (`Agent.signatureReply`) under this name, and it is told what the others become
(`ssh_rsa_replies_sign_iff`).

The statement goes over all bodies at once. A body that is no signature becomes an error that says
why: another type of message, a body that breaks off, a refusal, a format that is not accepted.
`AuthorizationFields.signature?` reads the signature back out of the header's value, as a verifier
would.
-/

namespace RequestSigning

open Agent

/-! ### The accepted format -/

/-- The bytes of the name `ssh-rsa`. -/
def sshRsa : Bytes :=
  [0x73, 0x73, 0x68, 0x2D, 0x72, 0x73, 0x61]

/-- No other bytes read as the name of the accepted format, those that are not UTF-8 included. -/
theorem decodeLossy_eq_acceptedFormat_iff {format : Bytes} :
    Utf8.decodeLossy format = AgentSigner.acceptedFormat ↔ format = sshRsa := by
  have hchars : AgentSigner.acceptedFormat.toList = ['s', 's', 'h', '-', 'r', 's', 'a'] := by decide
  have hascii : ∀ c ∈ AgentSigner.acceptedFormat.toList, c.toNat < 128 := by
    rw [hchars]
    simp
  constructor
  · intro h
    rw [Utf8.eq_encode_of_decodeLossy h hascii]
    decide +kernel
  · rintro rfl
    decide +kernel

namespace AgentSigner

variable {identity : SignerIdentity} {body : Bytes}

/-- A signature of the accepted format is passed on, and no other one is. -/
theorem decode_of_signature {signature : Agent.Signature}
    (h : decodeSignature body = .ok signature) :
    decode identity body =
      if signature.format = acceptedFormat then
        .ok (identity.authorization (Base64.encode signature.blob))
      else .error (.unsupportedAgentAlgorithm signature.format) := by
  by_cases hformat : signature.format = acceptedFormat
  · rw [if_pos hformat, decode_eq_ok h hformat]
  · rw [if_neg hformat, decode, Client.decodeReply_of_ok h, ok_bind, authorization, if_pos hformat]
    rfl

/-- A fault in the body of a reply is the reason why there is no Authorization value. -/
theorem decode_of_fault {fault : ProtocolFault} (h : decodeSignature body = .error fault) :
    decode identity body = .error (.agentProtocol fault) := by
  rw [decode, Client.decodeReply_of_error h, error_bind]

theorem decode_signatureReply {length : Nat} {format blob : Bytes}
    (hlength : length ≤ Wire.maxField) (hinside : 8 + format.length + blob.length ≤ length)
    (behind : Bytes) :
    decode identity (signatureReply length format blob behind) =
      if format = sshRsa then .ok (identity.authorization (Base64.encode blob))
      else .error (.unsupportedAgentAlgorithm (Utf8.decodeLossy format)) := by
  have hread := decodeSignature_eq_ok_iff.mpr
    ⟨length, format, blob, behind, hlength, hinside, rfl, rfl⟩
  rw [decode_of_signature hread]
  simp only [decodeLossy_eq_acceptedFormat_iff]

/-- An Authorization value comes from a body with a signature of the accepted format. -/
theorem decode_eq_ok_iff {text : String} :
    decode identity body = .ok text ↔
      ∃ length blob behind, length ≤ Wire.maxField ∧ 15 + blob.length ≤ length ∧
        body = signatureReply length sshRsa blob behind ∧
        text = identity.authorization (Base64.encode blob) := by
  constructor
  · intro h
    cases hread : decodeSignature body with
    | error fault =>
      rw [decode_of_fault hread] at h
      contradiction
    | ok signature =>
      obtain ⟨length, format, blob, behind, hlength, hinside, rfl, -⟩ :=
        decodeSignature_eq_ok_iff.mp hread
      rw [decode_signatureReply hlength hinside] at h
      split_ifs at h with hformat
      rw [hformat] at hinside ⊢
      have hname : sshRsa.length = 7 := rfl
      exact ⟨length, blob, behind, hlength, by omega, rfl, (Except.ok.inj h).symm⟩
  · rintro ⟨length, blob, behind, hlength, hinside, rfl, rfl⟩
    have hname : sshRsa.length = 7 := rfl
    rw [decode_signatureReply hlength (by omega), if_pos rfl]

/-- A body of another type becomes the fault of its type. -/
theorem decode_of_type {type : UInt8} (h : type ≠ signReplyType) (fields : Bytes) :
    decode identity (type :: fields) = .error (.agentProtocol
      (if type = failureType then .refused .sign else .unexpectedType type .sign)) := by
  apply decode_of_fault
  split_ifs with hfailure
  · rw [decodeSignature, hfailure, expectType_failure (by decide), error_bind]
  · rw [decodeSignature, expectType_other h hfailure, error_bind]

end AgentSigner

/-! ### The signature in an Authorization value -/

/-- The value of the last field of an Authorization value, read from the end: the signature. -/
def AuthorizationFields.signature? (value : String) : Option String := do
  let rest ← Text.behind? ['"'] value.toList.reverse
  let (signature, _) ← Text.upTo? '"' rest
  some (String.ofList signature.reverse)

/-- The signature reads back from the end, whatever stands before it. -/
theorem SignerIdentity.signature?_authorization (identity : SignerIdentity) {signature : String}
    (h : '"' ∉ signature.toList) :
    AuthorizationFields.signature? (identity.authorization signature) = some signature := by
  have hopen : "\",headers=\"date\",signature=\"".toList =
      "\",headers=\"date\",signature=".toList ++ ['"'] := by decide
  have hclose : "\"".toList = ['"'] := by decide
  obtain ⟨front, hfront⟩ : ∃ front, (identity.authorization signature).toList =
      front ++ '"' :: (signature.toList ++ ['"']) := by
    unfold authorization
    rw [String.toList_append, String.toList_append, String.toList_append, hopen, hclose]
    have hassoc (start middle last : List Char) : start ++ (middle ++ ['"']) ++ last ++ ['"'] =
        (start ++ middle) ++ '"' :: (last ++ ['"']) := by simp
    exact ⟨_, hassoc _ _ _⟩
  have hreversed : (identity.authorization signature).toList.reverse =
      ['"'] ++ (signature.toList.reverse ++ '"' :: front.reverse) := by
    rw [hfront]
    simp
  have hreverse : '"' ∉ signature.toList.reverse := by rwa [List.mem_reverse]
  rw [AuthorizationFields.signature?, hreversed, Text.behind?_append]
  simp only [Option.bind_eq_bind, Option.bind_some, Text.upTo?_append hreverse,
    List.reverse_reverse, String.ofList_toList]

/-! ### Signing -/

variable {σ : Type} [ByteStream σ]

/-- **Only ssh-rsa replies sign.** Let a signer's client be delivered a body of a length within the
bounds in reply to its request for a date. It gives an Authorization value exactly if the body is
the type of a signature, a length, and within that length the field of the name `ssh-rsa`, these
seven bytes and no others, and the field of the signature's bytes; whatever stands behind. The value
is that of the signature's bytes in Base64, and these read back from it. In particular the body
whose only field holds the two fields gives this value, and with another name the fault that tells
that name as text; a body of another type is a refusal, or has a type that is not expected. -/
theorem ssh_rsa_replies_sign_iff {signer : AgentSigner σ} {date : String} {body : Bytes}
    (hdelivered : signer.client.Delivered (signer.request date) body)
    (hbody : 0 < body.length ∧ body.length ≤ 262144) :
    let answer := (AgentSigner.sign date signer).value.1
    let header blob := signer.identity.authorization (Base64.encode blob)
    (∀ text, answer = .ok text ↔
      ∃ length blob behind, length ≤ Wire.maxField ∧ 15 + blob.length ≤ length ∧
        body = 14 :: (Wire.word length ++
          (Wire.field [0x73, 0x73, 0x68, 0x2D, 0x72, 0x73, 0x61] ++ (Wire.field blob ++ behind))) ∧
        text = header blob) ∧
    (∀ blob : Bytes,
      ((AuthorizationFields.signature? (header blob)).bind fun signature =>
        Base64.decode? (Utf8.encode signature)) = some blob ∧
      ('"' ∉ signer.identity.keyId.text.toList →
        ((AuthorizationFields.read? (header blob)).bind fun fields =>
          Base64.decode? (Utf8.encode fields.signature)) = some blob)) ∧
    (∀ blob behind,
      body = 14 :: (Wire.field (Wire.field [0x73, 0x73, 0x68, 0x2D, 0x72, 0x73, 0x61] ++
        Wire.field blob) ++ behind) →
      answer = .ok (header blob)) ∧
    (∀ format blob behind, format ≠ [0x73, 0x73, 0x68, 0x2D, 0x72, 0x73, 0x61] →
      body = 14 :: (Wire.field (Wire.field format ++ Wire.field blob) ++ behind) →
      answer = .error (.unsupportedAgentAlgorithm (Utf8.decodeLossy format))) ∧
    ∀ type fields, type ≠ 14 → body = type :: fields →
      answer = .error (.agentProtocol
        (if type = 5 then .refused .sign else .unexpectedType type .sign)) := by
  intro answer header
  have hanswer : answer = AgentSigner.decode signer.identity body :=
    AgentSigner.sign_of_delivered hdelivered hbody
  have hfield {format blob behind : Bytes}
      (h : body = 14 :: (Wire.field (Wire.field format ++ Wire.field blob) ++ behind)) :
      answer = if format = sshRsa then .ok (header blob)
        else .error (.unsupportedAgentAlgorithm (Utf8.decodeLossy format)) := by
    have hform := h.trans (signatureReply_of_field format blob behind)
    have hmax : 8 + format.length + blob.length ≤ Wire.maxField := by
      have hlength := hbody.2
      rw [hform, signatureReply] at hlength
      simp only [List.length_cons, List.length_append, Wire.length_word, Wire.length_field]
        at hlength
      rw [Wire.maxField]
      omega
    rw [hanswer, hform, AgentSigner.decode_signatureReply hmax le_rfl]
  refine ⟨fun text => ?_, fun blob => ⟨?_, fun hquote => ?_⟩, fun blob behind h => ?_,
    fun format blob behind hformat h => ?_, ?_⟩
  · rw [hanswer]
    exact AgentSigner.decode_eq_ok_iff
  · rw [SignerIdentity.signature?_authorization _ (Base64.quote_notMem_encode blob),
      Option.bind_some, Base64.utf8_encode, Base64.decode?_encodeBytes]
  · rw [SignerIdentity.read?_authorization hquote (Base64.quote_notMem_encode blob),
      Option.bind_some, Base64.utf8_encode, Base64.decode?_encodeBytes]
  · rw [hfield h]
    exact if_pos rfl
  · rw [hfield h]
    exact if_neg hformat
  · rintro type fields htype rfl
    rw [hanswer]
    exact AgentSigner.decode_of_type htype fields

/-- A signer whose agent answers with a body. -/
def answeredSigner (body : Bytes) : AgentSigner MemoryStream :=
  ⟨Client.ofStream (.serving [body]), ⟨[7], ""⟩, mixedIdentity⟩

theorem ssh_rsa_replies_sign_two :
    (AgentSigner.sign "d" (answeredSigner
        (14 :: (Wire.field (Wire.field [0x73, 0x73, 0x68, 0x2D, 0x72, 0x73, 0x61] ++
          Wire.field [1, 2, 3]) ++ [9])))).value.1 = .ok (mixedIdentity.authorization "AQID") ∧
      (AgentSigner.sign "d" (answeredSigner
        (14 :: (Wire.field (Wire.field [0x73, 0xFF] ++ Wire.field [1]) ++ [])))).value.1 =
        .error (.unsupportedAgentAlgorithm "s\uFFFD") := by
  have hfits : (Request.sign [7] (Utf8.encode (signingString "d"))).bytes.length < 2 ^ 32 := by
    decide
  have hdelivered (body : Bytes) :
      (answeredSigner body).client.Delivered ((answeredSigner body).request "d") body :=
    (Client.served_serving [body]).delivered hfits
  obtain ⟨-, -, hsigned, -⟩ := ssh_rsa_replies_sign_iff
    (hdelivered (14 :: (Wire.field (Wire.field [0x73, 0x73, 0x68, 0x2D, 0x72, 0x73, 0x61] ++
      Wire.field [1, 2, 3]) ++ [9]))) (by decide)
  obtain ⟨-, -, -, hrefused, -⟩ := ssh_rsa_replies_sign_iff
    (hdelivered (14 :: (Wire.field (Wire.field [0x73, 0xFF] ++ Wire.field [1]) ++ []))) (by decide)
  have htext : Base64.encode [1, 2, 3] = "AQID" := by decide +kernel
  have hname : Utf8.decodeLossy [0x73, 0xFF] = "s\uFFFD" := by decide +kernel
  rw [← htext, ← hname]
  exact ⟨hsigned _ _ rfl, hrefused _ _ _ (by decide) rfl⟩

end RequestSigning
