import RequestSigning.Proofs.Agent.Calls
import RequestSigning.Proofs.Agent.Signer

/-!
# Requests paired with replies

An agent that answers every request with a frame is served to a client as the frames one after the
other. However the bodies are made up, each call takes exactly one of them and leaves the client
before the next (`Client.ask_of_served`), so a run of calls is the requests decoded one by one with
their bodies (`Client.run_of_served`). A signer's callers share one such client in turns; each of
them gets what the body of its own turn decodes to (`AgentSigner.share_of_served`).

Served means that the bytes to come are exactly the frames of the bodies, and that writing does not
fail. The step lemma says that a call leaves a client that is served the remaining bodies, and the
run lemma is its induction. Bodies of every kind are covered, including those that decode to an
error: such a reply fails its own call and leaves the next one in step.
-/

namespace RequestSigning

open Agent

namespace Agent

/-! ### A stream that serves bodies -/

/-- A stream that serves the frames of bodies one after the other, and takes all that is written.
-/
def MemoryStream.serving (bodies : List Bytes) : MemoryStream :=
  ⟨(bodies.map Wire.field).flatten, [], none, .brokenPipe, none⟩

/-- A client **is served** bodies: it is usable, its stream takes all that is written, and the
frames of the bodies are what is ahead. -/
structure Client.Served (client : Client MemoryStream) (bodies : List Bytes) : Prop where
  usable : client.broken = false
  room : client.stream.room = none
  flushes : client.stream.flushFault = none
  ahead : client.stream.incoming = (bodies.map Wire.field).flatten

theorem Client.served_serving (bodies : List Bytes) :
    (Client.ofStream (.serving bodies)).Served bodies :=
  ⟨rfl, rfl, rfl, rfl⟩

theorem takeExactly_append (bytes rest : Bytes) :
    takeExactly bytes.length (bytes ++ rest) = (.ok bytes, rest) := by
  simp [takeExactly]

private theorem send_of_room {stream : MemoryStream} (hroom : stream.room = none)
    (hflush : stream.flushFault = none) (frame : Bytes) :
    send stream frame = (.ok (), { stream with written := stream.written ++ frame }) := by
  simp only [send, ByteStream.write, MemoryStream.write, hroom, ByteStream.flush,
    MemoryStream.flush, hflush]

/-- A frame within the bounds is received whole. -/
theorem receive_field {stream : MemoryStream} {body rest : Bytes} (hbody : IsReply body)
    (hahead : stream.incoming = Wire.field body ++ rest) :
    receive stream = (.reply body, { stream with incoming := rest }) := by
  have hword : Bytes.toNat (Wire.word body.length) = body.length :=
    Wire.toNat_word (hbody.2.trans_lt (by decide))
  have hbounds : ¬(body.length = 0 ∨ maxReply < body.length) := by
    have hpos := hbody.1
    have hmax := hbody.2
    omega
  have hlength : ByteStream.read stream 4 =
      (.ok (Wire.word body.length), { stream with incoming := body ++ rest }) := by
    have htake := takeExactly_append (Wire.word body.length) (body ++ rest)
    rw [Wire.length_word] at htake
    simp only [ByteStream.read, MemoryStream.read, hahead, Wire.field, List.append_assoc, htake]
  rw [receive, hlength]
  simp only [hword, hbounds, if_false, ByteStream.read, MemoryStream.read, takeExactly_append]

/-! ### Calls -/

section Calls

variable {client : Client MemoryStream} {body : Bytes} {bodies : List Bytes}

/-- **One reply to one request.** A client that is served bodies sends the frame of a request and
receives the frame of the first body, and is served the other bodies afterwards. -/
theorem Client.ask_of_served (h : client.Served (body :: bodies)) (hbody : IsReply body)
    {request : Request} (hfits : request.bytes.length < 2 ^ 32) :
    (client.ask request).1 = .ok body ∧ (client.ask request).2.Served bodies ∧
      Passes client.stream (client.ask request).2.stream (Wire.field request.bytes)
        (Wire.field body) := by
  have hahead := h.ahead
  rw [List.map_cons, List.flatten_cons] at hahead
  have hexchange : exchange client.stream request.bytes = (.reply body,
      { client.stream with
        written := client.stream.written ++ Wire.field request.bytes
        incoming := (bodies.map Wire.field).flatten }) := by
    rw [exchange, Wire.field?_of_fits hfits]
    simp only [send_of_room h.room h.flushes]
    exact receive_field hbody hahead
  have hask : client.ask request = (.ok body,
      ⟨{ client.stream with
        written := client.stream.written ++ Wire.field request.bytes
        incoming := (bodies.map Wire.field).flatten }, false⟩) := by
    rw [ask, Request.body_of_fits hfits]
    simp only [roundTrip, h.usable, hexchange, Bool.false_eq_true, if_false, Exchange.result,
      Exchange.breaks]
  rw [hask]
  exact ⟨rfl, ⟨rfl, h.room, h.flushes, rfl⟩, rfl, hahead⟩

/-- A run of calls is the requests decoded one by one with their bodies. -/
theorem Client.run_of_served (h : client.Served bodies) (hbodies : ∀ body ∈ bodies, IsReply body)
    {calls : List Request} (hfits : ∀ request ∈ calls, request.bytes.length < 2 ^ 32)
    (hcount : calls.length ≤ bodies.length) :
    (client.run calls).1 =
        List.zipWith (fun request body => request.decode (.ok body)) calls bodies ∧
      (client.run calls).2.Served (bodies.drop calls.length) := by
  induction calls generalizing client bodies with
  | nil => exact ⟨rfl, h⟩
  | cons request calls ih =>
    cases bodies with
    | nil => simp at hcount
    | cons body bodies =>
      rw [List.forall_mem_cons] at hbodies hfits
      obtain ⟨hreply, hserved, -⟩ := Client.ask_of_served h hbodies.1 hfits.1
      have hcall : (client.call request).2 = (client.ask request).2 := by rw [call_eq]
      obtain ⟨hanswers, hrest⟩ := ih hserved hbodies.2 hfits.2 (by simpa using hcount)
      rw [run_cons, hcall, hanswers, call_eq, hreply]
      exact ⟨rfl, hrest⟩

/-- In a run, each call moves the frame of its own request and that of the body in its place. -/
theorem Client.passes_of_served (h : client.Served bodies)
    (hbodies : ∀ body ∈ bodies, IsReply body) {calls : List Request}
    (hfits : ∀ request ∈ calls, request.bytes.length < 2 ^ 32)
    (hcount : calls.length ≤ bodies.length) {k : Nat} (hk : k < calls.length) :
    Passes (client.run (calls.take k)).2.stream (client.run (calls.take (k + 1))).2.stream
      (Wire.field calls[k].bytes) (Wire.field bodies[k]) := by
  -- the calls before the one at `k` leave its body in front
  have htake : calls.take (k + 1) = calls.take k ++ [calls[k]] :=
    List.take_succ_eq_append_getElem hk
  have hlength : (calls.take k).length = k := List.length_take_of_le hk.le
  obtain ⟨-, hserved⟩ := Client.run_of_served h hbodies
    (fun request hrequest => hfits request (List.mem_of_mem_take hrequest))
    (hlength.trans_le (hk.le.trans hcount))
  rw [hlength, List.drop_eq_getElem_cons (hk.trans_le hcount)] at hserved
  obtain ⟨-, -, hpasses⟩ := Client.ask_of_served hserved
    (hbodies _ (List.getElem_mem (hk.trans_le hcount))) (hfits _ (List.getElem_mem hk))
  rw [htake, run_append, run_cons, call_eq, run_nil]
  exact hpasses

end Calls

end Agent

/-! ### Callers that share a signer -/

namespace AgentSigner

section Turns

variable {σ ι : Type}

/-- The Authorization value that the body of a reply gives, or why it gives none. -/
def decode (identity : SignerIdentity) (body : Bytes) : Except AuthError String := do
  let signature ← Client.decodeReply decodeSignature (.ok body)
  (authorization identity signature).value

/-- A signature in the accepted format is passed on. -/
theorem decode_eq_ok {body : Bytes} {signature : Agent.Signature}
    (h : decodeSignature body = .ok signature) (hformat : signature.format = acceptedFormat)
    (identity : SignerIdentity) :
    decode identity body = .ok (identity.authorization (Base64.encode signature.blob)) := by
  rw [decode, Client.decodeReply_of_ok h]
  simp only [bind, Except.bind, authorization, hformat, ne_eq, not_true_eq_false, if_false]
  rfl

/-- The **turns** of callers that share a signer, in the order in which they take it: the result
that each caller gets, and the signer after the last turn. -/
def share [ByteStream σ] (signer : AgentSigner σ) :
    List (ι × String) → List (ι × Except AuthError String) × AgentSigner σ
  | [] => ([], signer)
  | (caller, date) :: turns =>
    let (result, signer) := (sign date signer).value
    let (results, signer) := signer.share turns
    ((caller, result) :: results, signer)

/-- The turns of callers run the requests for their dates on the signer's client. -/
theorem client_share [ByteStream σ] (signer : AgentSigner σ) (turns : List (ι × String)) :
    (signer.share turns).2 =
      { signer with
        client := (signer.client.run (turns.map fun turn => signer.request turn.2)).2 } := by
  induction turns generalizing signer with
  | nil => rfl
  | cons turn turns ih =>
    rw [share, value_sign, List.map_cons, Client.run_cons, Client.call_eq]
    exact ih _

end Turns

section Served

variable {ι : Type} {signer : AgentSigner MemoryStream} {bodies : List Bytes}

/-- Each caller gets what the body of its own turn decodes to. -/
theorem share_of_served (h : signer.client.Served bodies)
    (hbodies : ∀ body ∈ bodies, IsReply body) {turns : List (ι × String)}
    (hfits : ∀ turn ∈ turns, (signer.request turn.2).bytes.length < 2 ^ 32)
    (hcount : turns.length ≤ bodies.length) :
    (signer.share turns).1 =
      List.zipWith (fun turn body => (turn.1, decode signer.identity body)) turns bodies := by
  induction turns generalizing signer bodies with
  | nil => rfl
  | cons turn turns ih =>
    cases bodies with
    | nil => simp at hcount
    | cons body bodies =>
      rw [List.forall_mem_cons] at hbodies hfits
      obtain ⟨hreply, hserved, -⟩ := Client.ask_of_served h hbodies.1 hfits.1
      have hrest := @ih { signer with client := (signer.client.ask (signer.request turn.2)).2 }
        bodies hserved hbodies.2 hfits.2 (by simpa using hcount)
      rw [share, value_sign, hreply]
      exact congrArg _ hrest

/-- In the turns of callers, each moves the frame of its own request and that of the body in its
place. -/
theorem passes_share_of_served (h : signer.client.Served bodies)
    (hbodies : ∀ body ∈ bodies, IsReply body) {turns : List (ι × String)}
    (hfits : ∀ turn ∈ turns, (signer.request turn.2).bytes.length < 2 ^ 32)
    (hcount : turns.length ≤ bodies.length) {k : Nat} (hk : k < turns.length) :
    Passes (signer.share (turns.take k)).2.client.stream
      (signer.share (turns.take (k + 1))).2.client.stream
      (Wire.field (signer.request turns[k].2).bytes) (Wire.field bodies[k]) := by
  have hrequests : ∀ request ∈ turns.map fun turn => signer.request turn.2,
      request.bytes.length < 2 ^ 32 := by
    intro request hrequest
    obtain ⟨turn, hturn, rfl⟩ := List.mem_map.mp hrequest
    exact hfits turn hturn
  have hpasses := Client.passes_of_served h hbodies hrequests (by simpa using hcount) (k := k)
    (by simpa using hk)
  rw [client_share, client_share, List.map_take, List.map_take]
  simpa using hpasses

end Served

end AgentSigner

/-! ### Pairing -/

/-- **Requests paired with replies.** Let a fresh stream serve the frames of bodies, each of a
length within the bounds, and let calls be made on its client, and after them callers take turns at
a signer with that client, no more of both than there are bodies. Then each call answers what its
request makes of the body in its place, each caller gets what the body in its turn's place decodes
to, and each of them moves exactly the frame of its own request and the frame of that body. -/
theorem replies_pair_with_requests {ι : Type} {bodies : List Bytes} {calls : List Request}
    {turns : List (ι × String)} (key : Agent.Identity) (identity : SignerIdentity)
    (hbodies : ∀ body ∈ bodies, 0 < body.length ∧ body.length ≤ 262144)
    (hcalls : ∀ request ∈ calls, request.bytes.length < 2 ^ 32)
    (hturns : ∀ turn ∈ turns,
      (Request.sign key.keyBlob (Utf8.encode (signingString turn.2))).bytes.length < 2 ^ 32)
    (hcount : calls.length + turns.length ≤ bodies.length) :
    let client := Client.ofStream (MemoryStream.serving bodies)
    let signer : AgentSigner MemoryStream := ⟨(client.run calls).2, key, identity⟩
    (client.run calls).1 =
      List.zipWith (fun request body => request.decode (.ok body)) calls bodies ∧
    (∀ k (hk : k < calls.length),
      (client.run (calls.take (k + 1))).2.broken = false ∧
      Passes (client.run (calls.take k)).2.stream (client.run (calls.take (k + 1))).2.stream
        (Wire.field calls[k].bytes) (Wire.field bodies[k])) ∧
    (signer.share turns).1 =
      List.zipWith (fun turn body => (turn.1, AgentSigner.decode identity body)) turns
        (bodies.drop calls.length) ∧
    ∀ k (hk : k < turns.length),
      Passes (signer.share (turns.take k)).2.client.stream
        (signer.share (turns.take (k + 1))).2.client.stream
        (Wire.field
          (Request.sign key.keyBlob (Utf8.encode (signingString turns[k].2))).bytes)
        (Wire.field bodies[calls.length + k]) := by
  intro client signer
  -- the calls leave the stream in front of the bodies of the turns
  have hserved : client.Served bodies := Client.served_serving bodies
  obtain ⟨hanswers, hrest⟩ := Client.run_of_served hserved hbodies hcalls (by omega)
  have hbehind : ∀ body ∈ bodies.drop calls.length, IsReply body := fun body hbody =>
    hbodies body (List.mem_of_mem_drop hbody)
  have hcount' : turns.length ≤ (bodies.drop calls.length).length := by
    rw [List.length_drop]
    omega
  have hsigner : signer.client.Served (bodies.drop calls.length) := hrest
  refine ⟨hanswers, ?_, AgentSigner.share_of_served hsigner hbehind hturns hcount', ?_⟩
  · intro k hk
    have htaken : ∀ request ∈ calls.take (k + 1), request.bytes.length < 2 ^ 32 :=
      fun request hrequest => hcalls request (List.mem_of_mem_take hrequest)
    obtain ⟨-, hkept⟩ := Client.run_of_served hserved hbodies htaken
      (by rw [List.length_take]; omega)
    exact ⟨hkept.usable, Client.passes_of_served hserved hbodies hcalls (by omega) hk⟩
  · intro k hk
    have hpasses := AgentSigner.passes_share_of_served hsigner hbehind hturns hcount' hk
    rwa [List.getElem_drop] at hpasses

/-- Replies of every kind: a refusal, one of no known type, a signature, and one cut short. -/
def mixedReplies : List Bytes :=
  [[failureType], [99],
    signReplyType :: Wire.field
      (Wire.field (Utf8.encode AgentSigner.acceptedFormat) ++ Wire.field [1, 2, 3]),
    [signReplyType]]

/-- The account `a` with the key of blob `[7]`. -/
def mixedIdentity : SignerIdentity :=
  ⟨KeyId.make "a" none (Fingerprint.ofBlob [7]), .rsaSha1⟩

theorem mixedReplies_pair_with_requests :
    (∀ body ∈ mixedReplies, 0 < body.length ∧ body.length ≤ 262144) ∧
    (∀ request ∈ [Request.list, .sign [1] [2]], request.bytes.length < 2 ^ 32) ∧
    (∀ turn ∈ [("x", "d"), ("y", "e")],
      (Request.sign [7] (Utf8.encode (signingString turn.2))).bytes.length < 2 ^ 32) ∧
    [Request.list, .sign [1] [2]].length + [("x", "d"), ("y", "e")].length ≤
      mixedReplies.length ∧
    ((Client.ofStream (MemoryStream.serving mixedReplies)).run
      [.list, .sign [1] [2]]).1.map Answer.error? =
        [some (.agentProtocol (.refused .listKeys)),
          some (.agentProtocol (.unexpectedType 99 .sign))] ∧
    (AgentSigner.share
      ⟨((Client.ofStream (MemoryStream.serving mixedReplies)).run [.list, .sign [1] [2]]).2,
        ⟨[7], ""⟩, mixedIdentity⟩ [("x", "d"), ("y", "e")]).1 =
        [("x", .ok (mixedIdentity.authorization "AQID")),
          ("y", .error (.agentProtocol (.malformedReply .length)))] := by
  have hbodies : ∀ body ∈ mixedReplies, 0 < body.length ∧ body.length ≤ 262144 := by decide
  have hcalls : ∀ request ∈ [Request.list, .sign [1] [2]], request.bytes.length < 2 ^ 32 := by
    decide
  have hturns : ∀ turn ∈ [("x", "d"), ("y", "e")],
      (Request.sign [7] (Utf8.encode (signingString turn.2))).bytes.length < 2 ^ 32 := by decide
  have hcount : [Request.list, .sign [1] [2]].length + [("x", "d"), ("y", "e")].length ≤
      mixedReplies.length := by decide
  obtain ⟨hanswers, -, hresults, -⟩ :=
    replies_pair_with_requests ⟨[7], ""⟩ mixedIdentity hbodies hcalls hturns hcount
  refine ⟨hbodies, hcalls, hturns, hcount, ?_, ?_⟩
  · rw [hanswers]
    rfl
  · have hsignature : decodeSignature (signReplyType :: Wire.field
        (Wire.field (Utf8.encode AgentSigner.acceptedFormat) ++ Wire.field [1, 2, 3])) =
          .ok ⟨AgentSigner.acceptedFormat, [1, 2, 3]⟩ := by decide +kernel
    have htext : Base64.encode [1, 2, 3] = "AQID" := by decide +kernel
    have hfirst := AgentSigner.decode_eq_ok hsignature rfl mixedIdentity
    rw [htext] at hfirst
    rw [hresults, mixedReplies]
    simp only [List.length_cons, List.length_nil, List.drop_succ_cons, List.drop_zero,
      List.zipWith_cons_cons, List.zipWith_nil_left, hfirst]
    rfl

end RequestSigning
