import RequestSigning.Proofs.Agent.Replies
import RequestSigning.Proofs.AlikeHosts
import RequestSigning.Proofs.SignerFailures

/-!
# Agents that differ in their signatures

Two streams lead to alike agents (`Agent.Alike`) if their replies are the same, but for the bytes of
the signature in a reply to a request to sign; there only the number of the bytes is the same. Signers
for alike agents are made alike, and sign alike (`AgentSigner.alike_make`, `AgentSigner.alike_sign`):
they log the same and fail for the same reason, and their Authorization values differ in the signature
alone.

This is a relation between two runs, kept up step by step: `Logged.Alike` for computations that log
the same and give related values, `Client.SignAlike` for clients, `AgentSigner.Alike` for signers.
The signature's bytes go nowhere but into the value, and the log tells their number only.
-/

namespace RequestSigning

open Agent

variable {σ α β γ δ : Type}

/-! ### Logged stages -/

/-- Stages that are **alike**: they log the same, and their results are related. -/
structure Logged.Alike (R : α → β → Prop) (x : Logged α) (y : Logged β) : Prop where
  events : y.events = x.events
  value : R x.value y.value

namespace Logged

variable {R : α → β → Prop} {S : γ → δ → Prop}

theorem Alike.pure {a : α} {b : β} (h : R a b) : Alike R (Pure.pure a) (Pure.pure b) := ⟨rfl, h⟩

/-- Runs in steps are alike when their steps are. -/
theorem Alike.bind {x : Logged α} {y : Logged β} {f : α → Logged γ} {g : β → Logged δ}
    (h : Alike R x y) (hnext : ∀ a b, R a b → Alike S (f a) (g b)) :
    Alike S (x >>= f) (y >>= g) where
  events := by rw [events_bind, events_bind, h.events, (hnext _ _ h.value).events]
  value := (hnext _ _ h.value).value

/-- A common first step can be passed over. -/
theorem Alike.bind_same (x : Logged α) {f : α → Logged γ} {g : α → Logged δ}
    (h : Alike S (f x.value) (g x.value)) : Alike S (x >>= f) (x >>= g) where
  events := by rw [events_bind, events_bind, h.events]
  value := h.value

theorem Alike.of_eq {x y : Logged α} (h : y = x) : Alike (fun a b => b = a) x y :=
  ⟨by rw [h], by rw [h]⟩

end Logged

/-! ### Replies -/

namespace Agent

/-- Replies that are the same, but for the bytes of a signature. -/
inductive SameButSignature : Bytes → Bytes → Prop
  | same (body : Bytes) : SameButSignature body body
  | signed (format : Bytes) {blob other : Bytes} (hlength : other.length = blob.length)
    (hfits : (Wire.field format ++ Wire.field blob).length ≤ maxReply) :
    SameButSignature (signReplyType :: Wire.field (Wire.field format ++ Wire.field blob))
      (signReplyType :: Wire.field (Wire.field format ++ Wire.field other))

/-- Ends of exchanges that are the same, but for the bytes of a signature. -/
inductive Exchange.Alike : Exchange → Exchange → Prop
  | same (outcome : Exchange) : Alike outcome outcome
  | reply {body other : Bytes} (h : SameButSignature body other) : Alike (.reply body) (.reply other)

/-- Streams that lead to **alike** agents: these list the same keys, and after that give signatures of
one format and length. -/
structure Alike [ByteStream σ] (stream other : σ) : Prop where
  list : (exchange other [listRequestType]).1 = (exchange stream [listRequestType]).1
  sign : ∀ keyBlob data body, (Request.sign keyBlob data).body = .ok body →
    Exchange.Alike (exchange (exchange stream [listRequestType]).2 body).1
      (exchange (exchange other [listRequestType]).2 body).1

/-- Signatures of one format and length. -/
structure Signature.Alike (signature other : Signature) : Prop where
  format : other.format = signature.format
  length : other.blob.length = signature.blob.length

/-- A reply that holds a signature is read as this. -/
theorem decodeSignature_signed {format blob : Bytes}
    (hfits : (Wire.field format ++ Wire.field blob).length ≤ maxReply) :
    decodeSignature (signReplyType :: Wire.field (Wire.field format ++ Wire.field blob)) =
      .ok ⟨Utf8.decodeLossy format, blob⟩ := by
  have hmax : maxReply ≤ Wire.maxField := by decide
  have hform := signatureReply_of_field format blob []
  rw [List.append_nil] at hform
  rw [List.length_append, Wire.length_field, Wire.length_field] at hfits
  exact decodeSignature_eq_ok_iff.mpr ⟨_, format, blob, [], by omega, le_rfl, hform, rfl⟩

/-- Replies that differ in a signature's bytes decode to signatures that differ there, or fail
alike. -/
theorem SameButSignature.decode {body other : Bytes} (h : SameButSignature body other) :
    Outcomes Signature.Alike (decodeSignature body) (decodeSignature other) := by
  cases h with
  | same =>
    cases decodeSignature body with
    | error fault => exact .error fault
    | ok signature => exact .ok ⟨rfl, rfl⟩
  | @signed format blob changed hlength hfits =>
    have hchanged : (Wire.field format ++ Wire.field changed).length ≤ maxReply := by
      simpa only [List.length_append, Wire.length_field, hlength] using hfits
    rw [decodeSignature_signed hfits, decodeSignature_signed hchanged]
    exact .ok ⟨rfl, hlength⟩

/-! ### Clients -/

/-- Clients that sign **alike**. -/
def Client.SignAlike [ByteStream σ] (client other : Client σ) : Prop :=
  ∀ keyBlob data, Outcomes Signature.Alike (client.sign keyBlob data).1 (other.sign keyBlob data).1

theorem Exchange.Alike.decode {outcome other : Exchange} (h : outcome.Alike other) :
    Outcomes Signature.Alike (Client.decodeReply decodeSignature outcome.result)
      (Client.decodeReply decodeSignature other.result) := by
  cases h with
  | same =>
    cases Client.decodeReply decodeSignature outcome.result with
    | error e => exact .error e
    | ok signature => exact .ok ⟨rfl, rfl⟩
  | @reply body changed hbody =>
    have hdecode := hbody.decode
    rw [result, result, Client.decodeReply, Client.decodeReply, ok_bind, ok_bind]
    generalize decodeSignature body = read, decodeSignature changed = changedRead at hdecode ⊢
    cases hdecode with
    | error fault => exact .error _
    | ok hsignature => exact .ok hsignature

section Streams

variable [ByteStream σ] {stream other : σ}

/-- A fresh client asks for the keys in one exchange. -/
theorem Client.ask_list (stream : σ) :
    (Client.ofStream stream).ask .list =
      ((exchange stream [listRequestType]).1.result,
        ⟨(exchange stream [listRequestType]).2, (exchange stream [listRequestType]).1.breaks⟩) :=
  rfl

/-- Clients of alike agents list the same keys, and sign alike after that. -/
theorem Alike.listIdentities (h : Alike stream other) :
    (Client.ofStream other).listIdentities.1 = (Client.ofStream stream).listIdentities.1 ∧
      Client.SignAlike (Client.ofStream stream).listIdentities.2
        (Client.ofStream other).listIdentities.2 := by
  rw [Client.listIdentities, Client.listIdentities, Client.ask_list, Client.ask_list, h.list]
  refine ⟨rfl, fun keyBlob data => ?_⟩
  have hsign := h.sign keyBlob data
  rw [Client.sign, Client.sign, Client.ask, Client.ask]
  cases hbody : (Request.sign keyBlob data).body with
  | error fault => exact .error _
  | ok body =>
    dsimp only
    rw [Client.roundTrip, Client.roundTrip]
    cases (exchange stream [listRequestType]).1.breaks with
    | true => exact .error _
    | false => exact (hsign body hbody).decode

end Streams

/-! ### Streams in memory -/

/-- A body comes from a reply and from nothing else. -/
theorem Exchange.eq_reply {outcome : Exchange} {body : Bytes} (h : outcome.result = .ok body) :
    outcome = .reply body := by
  cases outcome with
  | reply own => exact congrArg _ (Except.ok.inj h)
  | tooLong | failed | badLength => contradiction

/-- A request too long for a frame is refused before the stream is touched. -/
theorem exchange_of_long [ByteStream σ] (stream : σ) {body : Bytes} (h : ¬body.length < 2 ^ 32) :
    exchange stream body = (.tooLong .overflow, stream) := by
  rw [exchange, Wire.field?_of_long h]

/-- A stream that serves bodies gives the first one for the keys, and the second one for the next
request that fits. -/
theorem exchange_serving {list body : Bytes} (hlist : IsReply list) (hbody : IsReply body)
    (rest : List Bytes) :
    (exchange (MemoryStream.serving (list :: body :: rest)) [listRequestType]).1 = .reply list ∧
      ∀ request : Request, request.bytes.length < 2 ^ 32 →
        (exchange (exchange (MemoryStream.serving (list :: body :: rest)) [listRequestType]).2
          request.bytes).1 = .reply body := by
  have hfitsList : Request.list.bytes.length < 2 ^ 32 := by decide
  obtain ⟨hlisted, hserved, -⟩ :=
    Client.ask_of_served (Client.served_serving (list :: body :: rest)) hlist hfitsList
  rw [Client.ask_list] at hlisted hserved
  refine ⟨Exchange.eq_reply hlisted, fun request hfits => Exchange.eq_reply ?_⟩
  obtain ⟨hreply, -, -⟩ := Client.ask_of_served hserved hbody hfits
  rw [Client.ask, Request.body_of_fits hfits] at hreply
  dsimp only at hreply
  rwa [Client.roundTrip, if_neg (by rw [hserved.usable]; decide)] at hreply

/-- Streams that serve the same keys, and replies that are the same but for a signature, lead to
alike agents. -/
theorem alike_serving {list body other : Bytes} {rest otherRest : List Bytes} (hlist : IsReply list)
    (hbody : IsReply body) (hother : IsReply other) (h : SameButSignature body other) :
    Alike (MemoryStream.serving (list :: body :: rest))
      (MemoryStream.serving (list :: other :: otherRest)) := by
  obtain ⟨hkeys, hreply⟩ := exchange_serving hlist hbody rest
  obtain ⟨hotherKeys, hotherReply⟩ := exchange_serving hlist hother otherRest
  refine ⟨hotherKeys.trans hkeys.symm, fun keyBlob data sent hsent => ?_⟩
  obtain rfl : (Request.sign keyBlob data).bytes = sent := by
    obtain ⟨hwhole, -⟩ | ⟨hnone, -⟩ := Request.body_cases (.sign keyBlob data)
    · exact Except.ok.inj (hwhole.symm.trans hsent)
    · rw [hnone] at hsent
      contradiction
  by_cases hfits : (Request.sign keyBlob data).bytes.length < 2 ^ 32
  · rw [hreply _ hfits, hotherReply _ hfits]
    exact .reply h
  · rw [exchange_of_long _ hfits, exchange_of_long _ hfits]
    exact .same _

end Agent

/-! ### Signers -/

namespace AgentSigner

/-- Signers that are **alike**: with one key, for alike agents. -/
structure Alike [ByteStream σ] (signer other : AgentSigner σ) : Prop where
  key : other.key = signer.key
  identity : other.identity = signer.identity
  client : Client.SignAlike signer.client other.client

/-- Authorization values that differ in the signature alone. -/
inductive SameButValue (identity : SignerIdentity) : String → String → Prop
  | intro {blob other : Bytes} (h : other.length = blob.length) :
    SameButValue identity (identity.authorization (Base64.encode blob))
      (identity.authorization (Base64.encode other))

variable [ByteStream σ]

omit [ByteStream σ] in
/-- Alike streams are reached over one socket, or the connection fails alike. -/
theorem alike_dial {R : σ → σ → Prop} {connect otherConnect : String → Except IoFault σ}
    {socket : String} (h : Outcomes R (connect socket) (otherConnect socket)) :
    Logged.Alike
      (Outcomes fun client other : Client σ => ∃ stream otherStream, R stream otherStream ∧
        client = Client.ofStream stream ∧ other = Client.ofStream otherStream)
      (dial connect socket) (dial otherConnect socket) := by
  rw [dial, dial]
  generalize connect socket = found, otherConnect socket = otherFound at h ⊢
  cases h with
  | error cause => exact .pure (.error _)
  | ok h => exact ⟨rfl, .ok ⟨_, _, h, rfl, rfl⟩⟩

/-- The key is chosen among those listed, before anything is signed. -/
theorem alike_choose {client other : Client σ} (h : Client.SignAlike client other)
    (keys : List Agent.Identity) (keyName account : String) (user : Option String) :
    Logged.Alike (Outcomes Alike) (choose client keys keyName account user)
      (choose other keys keyName account user) := by
  rw [choose, choose]
  cases chooseKey? keyName keys with
  | none => exact ⟨rfl, .error _⟩
  | some key => exact ⟨rfl, .ok ⟨rfl, rfl, h⟩⟩

/-- A signer built over either stream is the same but for its connection. -/
theorem alike_ofClient {stream other : σ} (h : Agent.Alike stream other)
    (keyName account : String) (user : Option String) :
    Logged.Alike (fun made changed => Outcomes Alike made.1 changed.1)
      (ofClient (Client.ofStream stream) keyName account user)
      (ofClient (Client.ofStream other) keyName account user) := by
  obtain ⟨hkeys, hsign⟩ := h.listIdentities
  rw [ofClient, ofClient]
  generalize (Client.ofStream stream).listIdentities = listed,
    (Client.ofStream other).listIdentities = otherListed at hkeys hsign ⊢
  obtain ⟨answer, client⟩ := listed
  obtain ⟨otherAnswer, otherClient⟩ := otherListed
  obtain rfl : otherAnswer = answer := hkeys
  refine (Logged.Alike.of_eq (rfl : reported otherAnswer = _)).bind ?_
  rintro _ read rfl
  cases read with
  | error e => exact .pure (.error e)
  | ok keys =>
    refine (alike_choose hsign keys keyName account user).bind fun made changed hmade => ?_
    exact .pure hmade

/-- Signers for alike agents are made alike. -/
theorem alike_make {connect otherConnect : String → Except IoFault σ} {path : Option String}
    (h : ∀ socket, Outcomes Agent.Alike (connect socket) (otherConnect socket))
    (keyName account : String) (user : Option String) :
    Logged.Alike (fun made changed => Outcomes Alike made.1 changed.1)
      (make connect path keyName account user) (make otherConnect path keyName account user) := by
  cases path with
  | none => exact .pure (.error _)
  | some socket =>
    rw [make, make]
    refine (alike_dial (h socket)).bind fun dialled otherDialled hdialled => ?_
    cases hdialled with
    | error e => exact .pure (.error e)
    | ok hclients =>
      obtain ⟨stream, other, hstreams, rfl, rfl⟩ := hclients
      refine (alike_ofClient hstreams keyName account user).bind fun made changed hmade => ?_
      exact .pure hmade

omit [ByteStream σ] in
/-- The signature's bytes appear in the value of the header and nowhere else. -/
theorem alike_authorization (identity : SignerIdentity) {signature other : Agent.Signature}
    (h : signature.Alike other) :
    Logged.Alike (Outcomes (SameButValue identity)) (authorization identity signature)
      (authorization identity other) := by
  rw [authorization, authorization, h.format, h.length]
  split_ifs
  · exact .pure (.error _)
  · exact ⟨rfl, .ok (.intro h.length)⟩

/-- Alike signers sign alike. -/
theorem alike_sign {signer other : AgentSigner σ} (h : signer.Alike other) (date : String) :
    Logged.Alike (fun signed changed => Outcomes (SameButValue signer.identity) signed.1 changed.1)
      (sign date signer) (sign date other) := by
  have hsign := h.client signer.key.keyBlob (Utf8.encode (signingString date))
  rw [sign, sign, h.key, h.identity]
  generalize signer.client.sign signer.key.keyBlob (Utf8.encode (signingString date)) = signed,
    other.client.sign signer.key.keyBlob (Utf8.encode (signingString date)) = changed at hsign ⊢
  obtain ⟨answer, client⟩ := signed
  obtain ⟨otherAnswer, otherClient⟩ := changed
  have hreported : Logged.Alike (Outcomes Agent.Signature.Alike) (reported answer)
      (reported otherAnswer) := by
    cases hsign with
    | error e => exact ⟨rfl, by rw [value_reported]; exact .error e⟩
    | ok hsignature => exact ⟨rfl, .ok hsignature⟩
  refine hreported.bind fun read changedRead hread => ?_
  cases hread with
  | error e => exact .pure (.error e)
  | ok hsignature =>
    refine (alike_authorization signer.identity hsignature).bind fun text changedText htext => ?_
    exact .pure htext

end AgentSigner

end RequestSigning
