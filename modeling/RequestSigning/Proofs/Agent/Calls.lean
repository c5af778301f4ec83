import RequestSigning.Proofs.Agent.Traffic

/-!
# Calls of an agent's client

The two calls of a client, a list of keys and a signature, differ only in the request they send
and in how they decode the reply (`Client.call_eq`), so a run of calls is a list of requests
(`Client.run`). A request that fits a frame is sent as that frame (`Request.frame?`); one that
does not moves no byte and leaves the client usable. A client that is broken answers every request
at once and stays as it is (`Client.run_of_broken`).

A run is described once, by what each call does to a usable client and to a broken one
(`Client.call_of_unbroken`, `Client.call_of_broken`). The theorems on runs are inductions over the
list of requests that use these two and never open the exchange with the stream.
-/

namespace RequestSigning.Agent

/-! ### Requests as bytes -/

/-- The body of a request whose fields are of any length. -/
def Request.bytes : Request → Bytes
  | .list => [listRequestType]
  | .sign keyBlob data =>
    signRequestType :: (Wire.field keyBlob ++ Wire.field data ++ Wire.word 0)

/-- The **frame** of a request, if its body fits one. -/
def Request.frame? (request : Request) : Option Bytes :=
  if request.bytes.length < 2 ^ 32 then some (Wire.field request.bytes) else none

/-- Why a client that is broken refuses a request: a field that cannot be written is noticed
before the connection is. -/
def Request.refusal : Request → AuthError
  | .list => .agentConnectionLost
  | .sign keyBlob data =>
    if keyBlob.length < 2 ^ 32 ∧ data.length < 2 ^ 32 then .agentConnectionLost
    else .agentProtocol (.requestTooLong .overflow)

namespace Request

/-- The body of a request is written out in full, or one of its fields is too long. -/
theorem body_cases (request : Request) :
    (request.body = .ok request.bytes ∧ request.refusal = .agentConnectionLost) ∨
    (request.body = .error .overflow ∧
      request.refusal = .agentProtocol (.requestTooLong .overflow) ∧
      2 ^ 32 ≤ request.bytes.length) := by
  cases request with
  | list => exact .inl ⟨rfl, rfl⟩
  | sign keyBlob data =>
    have hlength : (Request.sign keyBlob data).bytes.length =
        13 + keyBlob.length + data.length := by
      simp only [bytes, List.length_cons, List.length_append, Wire.length_field, Wire.length_word]
      omega
    by_cases hkey : keyBlob.length < 2 ^ 32
    · by_cases hdata : data.length < 2 ^ 32
      · refine .inl ⟨?_, if_pos ⟨hkey, hdata⟩⟩
        rw [body, Wire.field?_of_fits hkey, Wire.field?_of_fits hdata]
        rfl
      · refine .inr ⟨?_, if_neg fun h => hdata h.2, by omega⟩
        rw [body, Wire.field?_of_fits hkey, Wire.field?_of_long hdata]
        rfl
    · refine .inr ⟨?_, if_neg fun h => hkey h.1, by omega⟩
      rw [body, Wire.field?_of_long hkey]
      rfl

theorem body_of_fits {request : Request} (h : request.bytes.length < 2 ^ 32) :
    request.body = .ok request.bytes := by
  obtain ⟨hbody, -⟩ | ⟨-, -, hlong⟩ := request.body_cases
  · exact hbody
  · omega

theorem frame?_of_fits {request : Request} (h : request.bytes.length < 2 ^ 32) :
    request.frame? = some (Wire.field request.bytes) :=
  if_pos h

theorem frame?_of_long {request : Request} (h : 2 ^ 32 ≤ request.bytes.length) :
    request.frame? = none :=
  if_neg (by omega)

end Request

/-! ### Answers -/

/-- The **answer** to a call. -/
inductive Answer
  | keys (result : Except AuthError (List Identity))
  | signature (result : Except AuthError Signature)

/-- Why a call failed, if it did. -/
def Answer.error? : Answer → Option AuthError
  | .keys (.error e) | .signature (.error e) => some e
  | .keys (.ok _) | .signature (.ok _) => none

/-- The answer to a request, given the body of the reply or why there is none. -/
def Request.decode (request : Request) (reply : Except AuthError Bytes) : Answer :=
  match request with
  | .list => .keys (Client.decodeReply decodeIdentities reply)
  | .sign _ _ => .signature (Client.decodeReply decodeSignature reply)

@[simp] theorem Request.error?_decode_error (request : Request) (e : AuthError) :
    (request.decode (.error e)).error? = some e := by
  cases request <;> rfl

/-- The answer to a reply is a result or a fault of the protocol. -/
theorem Request.error?_decode_ok (request : Request) (body : Bytes) :
    (request.decode (.ok body)).error? = none ∨
      ∃ fault, (request.decode (.ok body)).error? = some (.agentProtocol fault) := by
  cases request with
  | list =>
    rcases h : decodeIdentities body with fault | keys
    · refine .inr ⟨fault, ?_⟩
      rw [decode, Client.decodeReply_of_error h, Answer.error?]
    · refine .inl ?_
      rw [decode, Client.decodeReply_of_ok h, Answer.error?]
  | sign keyBlob data =>
    rcases h : decodeSignature body with fault | signature
    · refine .inr ⟨fault, ?_⟩
      rw [decode, Client.decodeReply_of_error h, Answer.error?]
    · refine .inl ?_
      rw [decode, Client.decodeReply_of_ok h, Answer.error?]

/-! ### Calls -/

section Streams

variable {σ : Type} [ByteStream σ]

/-- How the exchange of a request over a stream ends, if the fields of the request can be
written. -/
def Request.outcome? (request : Request) (stream : σ) : Option Exchange :=
  match request.body with
  | .ok body => some (exchange stream body).1
  | .error _ => none

namespace Client

/-- One **call** of a client, and the client after it. -/
def call (client : Client σ) : Request → Answer × Client σ
  | .list =>
    let (result, client) := client.listIdentities
    (.keys result, client)
  | .sign keyBlob data =>
    let (result, client) := client.sign keyBlob data
    (.signature result, client)

/-- A **run** of calls, one after the other: all answers, and the client after the last one. -/
def run (client : Client σ) : List Request → List Answer × Client σ
  | [] => ([], client)
  | request :: rest =>
    let (answer, client) := client.call request
    let (answers, client) := client.run rest
    (answer :: answers, client)

/-- A call asks its request and decodes the reply. -/
theorem call_eq (client : Client σ) (request : Request) :
    client.call request =
      (request.decode (client.ask request).1, (client.ask request).2) := by
  cases request <;> rfl

@[simp] theorem run_nil (client : Client σ) : client.run [] = ([], client) := rfl

theorem run_cons (client : Client σ) (request : Request) (rest : List Request) :
    client.run (request :: rest) =
      ((client.call request).1 :: ((client.call request).2.run rest).1,
        ((client.call request).2.run rest).2) := rfl

theorem run_append (client : Client σ) (before after : List Request) :
    client.run (before ++ after) =
      ((client.run before).1 ++ ((client.run before).2.run after).1,
        ((client.run before).2.run after).2) := by
  induction before generalizing client with
  | nil => rfl
  | cons request before ih => simp only [List.cons_append, run_cons, ih]

theorem length_run (client : Client σ) (calls : List Request) :
    (client.run calls).1.length = calls.length := by
  induction calls generalizing client with
  | nil => rfl
  | cons request calls ih => simp only [run_cons, List.length_cons, ih]

/-! ### Broken clients -/

/-- A broken client refuses a request and stays as it is. -/
theorem call_of_broken {client : Client σ} (h : client.broken = true) (request : Request) :
    client.call request = (request.decode (.error request.refusal), client) := by
  obtain ⟨hbody, hrefusal⟩ | ⟨hbody, hrefusal, -⟩ := request.body_cases
  · rw [call_eq, ask, hbody, hrefusal]
    simp only [roundTrip, h, if_true]
  · rw [call_eq, ask, hbody, hrefusal]

/-- A broken client refuses every request of a run, and stays as it is. -/
theorem run_of_broken {client : Client σ} (h : client.broken = true) (calls : List Request) :
    client.run calls = (calls.map fun request => request.decode (.error request.refusal),
      client) := by
  induction calls with
  | nil => rfl
  | cons request calls ih => rw [run_cons, call_of_broken h, ih, List.map_cons]

/-! ### Clients that can be used -/

/-- **What a call can do.** A client that is not broken answers a request that does not fit a
frame without touching the stream; any other request it exchanges, and it is broken afterwards
exactly when the exchange breaks. -/
theorem call_of_unbroken [VisibleTraffic σ] {client : Client σ} (h : client.broken = false)
    (request : Request) :
    (request.frame? = none ∧
      (∀ outcome ∈ request.outcome? client.stream, outcome.breaks = false) ∧
      client.call request =
        (request.decode (.error (.agentProtocol (.requestTooLong .overflow))), client)) ∨
    (∃ outcome t sent received, request.frame? = some (Wire.field request.bytes) ∧
      request.outcome? client.stream = some outcome ∧
      ExchangeTraffic request.bytes outcome sent received ∧
      Passes client.stream t sent received ∧
      client.call request = (request.decode outcome.result, ⟨t, outcome.breaks⟩)) := by
  obtain ⟨hbody, -⟩ | ⟨hbody, -, hlong⟩ := request.body_cases
  · rcases hexchange : exchange client.stream request.bytes with ⟨outcome, t⟩
    have houtcome : request.outcome? client.stream = some outcome := by
      simp only [Request.outcome?, hbody, hexchange]
    have hcall : client.call request = (request.decode outcome.result, ⟨t, outcome.breaks⟩) := by
      rw [call_eq, ask, hbody]
      simp only [roundTrip, h, hexchange, Bool.false_eq_true, if_false]
    by_cases hfits : request.bytes.length < 2 ^ 32
    · obtain ⟨sent, received, htraffic, hpass⟩ := exchange_traffic hexchange
      exact .inr ⟨outcome, t, sent, received, Request.frame?_of_fits hfits, houtcome, htraffic,
        hpass, hcall⟩
    · obtain ⟨rfl, rfl⟩ : outcome = .tooLong .overflow ∧ t = client.stream := by
        rw [exchange, Wire.field?_of_long hfits] at hexchange
        exact (Prod.mk.inj hexchange).imp Eq.symm Eq.symm
      refine .inl ⟨Request.frame?_of_long (by omega), ?_, ?_⟩
      · intro outcome hsome
        obtain rfl := Option.some.inj (houtcome.symm.trans hsome)
        rfl
      · -- not breaking, the exchange leaves the client as it was
        rw [hcall, show (Exchange.tooLong .overflow).breaks = client.broken from h.symm]
        rfl
  · refine .inl ⟨Request.frame?_of_long hlong, ?_, ?_⟩
    · intro outcome hsome
      simp [Request.outcome?, hbody] at hsome
    · rw [call_eq, ask, hbody]

end Client

end Streams

end RequestSigning.Agent
