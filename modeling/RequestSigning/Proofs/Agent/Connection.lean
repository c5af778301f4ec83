import RequestSigning.Proofs.Agent.Calls

/-!
# Connections that break

A run of calls over one connection either survives, and then every frame that was begun on either
side was finished, or it has a first call that breaks the connection. `breakdown_of_run` says what
is then known of the whole run: that call reports why the connection broke, the later calls are
refused without a byte sent or received, and the traffic is whole frames with a part of one more
behind them.

That a run survives is said by what happens on the stream alone (`Client.Survives`), without the
client's own mark of being broken; that the two agree is the invariant behind the results.
-/

namespace RequestSigning.Agent

section Streams

variable {σ : Type} [ByteStream σ]

/-- Calls **survive** on a client: none of their exchanges finds the stream failing, or a reply
with a length out of bounds. -/
def Client.Survives (client : Client σ) : List Request → Prop
  | [] => True
  | request :: rest =>
    (∀ outcome ∈ request.outcome? client.stream, outcome.breaks = false) ∧
      (client.call request).2.Survives rest

/-- A run of calls survives, or it has a first call that breaks the connection. -/
theorem Client.survives_or_breaks (client : Client σ) (calls : List Request) :
    client.Survives calls ∨
      ∃ before call after outcome, calls = before ++ call :: after ∧ client.Survives before ∧
        call.outcome? (client.run before).2.stream = some outcome ∧ outcome.breaks = true := by
  induction calls generalizing client with
  | nil => exact .inl trivial
  | cons request rest ih =>
    by_cases hfirst : ∀ outcome ∈ request.outcome? client.stream, outcome.breaks = false
    · obtain hrest | ⟨before, call, after, outcome, rfl, hbefore, houtcome, hbreaks⟩ :=
        ih (client.call request).2
      · exact .inl ⟨hfirst, hrest⟩
      · exact .inr ⟨request :: before, call, after, outcome, rfl, ⟨hfirst, hbefore⟩, houtcome,
          hbreaks⟩
    · push Not at hfirst
      obtain ⟨outcome, houtcome, hbreaks⟩ := hfirst
      exact .inr ⟨[], request, rest, outcome, rfl, trivial, houtcome, by simpa using hbreaks⟩

variable [VisibleTraffic σ]

/-! ### Calls that survive -/

/-- A call that does not break the connection leaves the client usable, and moves whole frames:
its own and that of one reply, or none at all. -/
theorem call_of_survives {client : Client σ} (hunbroken : client.broken = false)
    {request : Request}
    (hsurvives : ∀ outcome ∈ request.outcome? client.stream, outcome.breaks = false) :
    (client.call request).2.broken = false ∧
    (client.call request).1.error? ≠ some .agentConnectionLost ∧
    ∃ replies : List Bytes, replies.length = request.frame?.toList.length ∧
      (∀ body ∈ replies, IsReply body) ∧
      Passes client.stream (client.call request).2.stream request.frame?.toList.flatten
        (replies.map Wire.field).flatten := by
  obtain ⟨hframe, -, hcall⟩ |
    ⟨outcome, t, sent, received, hframe, houtcome, htraffic, hpass, hcall⟩ :=
      Client.call_of_unbroken hunbroken request
  · -- the request does not fit a frame
    rw [hcall, hframe]
    refine ⟨hunbroken, by simp, [], rfl, by simp, Passes.refl _⟩
  · have hkept := hsurvives outcome houtcome
    rw [hcall, hframe]
    cases htraffic with
    | tooLong hlong =>
      rw [Request.frame?_of_long hlong] at hframe
      contradiction
    | failed => simp [Exchange.breaks] at hkept
    | badLength => simp [Exchange.breaks] at hkept
    | @reply body _ hpos hmax =>
      refine ⟨rfl, ?_, [body], rfl, ?_, ?_⟩
      · obtain hnone | ⟨fault, hfault⟩ := request.error?_decode_ok body
        · rw [Exchange.result, hnone]
          simp
        · rw [Exchange.result, hfault]
          simp
      · simpa using ⟨hpos, hmax⟩
      · simpa using hpass

/-- Calls that survive leave the client usable, and move whole frames: those of the requests that
fit one, and a reply to each. -/
theorem run_of_survives {client : Client σ} (hunbroken : client.broken = false)
    {calls : List Request} (hsurvives : client.Survives calls) :
    (client.run calls).2.broken = false ∧
    (∀ answer ∈ (client.run calls).1, answer.error? ≠ some .agentConnectionLost) ∧
    ∃ replies : List Bytes, replies.length = (calls.filterMap Request.frame?).length ∧
      (∀ body ∈ replies, IsReply body) ∧
      Passes client.stream (client.run calls).2.stream
        (calls.filterMap Request.frame?).flatten (replies.map Wire.field).flatten := by
  induction calls generalizing client with
  | nil => exact ⟨hunbroken, by simp, [], rfl, by simp, Passes.refl _⟩
  | cons request rest ih =>
    obtain ⟨hkept, hanswer, first, hcount, hfirst, hpass⟩ :=
      call_of_survives hunbroken hsurvives.1
    obtain ⟨hunbroken', hanswers, replies, hcounts, hreplies, hpasses⟩ := ih hkept hsurvives.2
    have hframes : (request :: rest).filterMap Request.frame? =
        request.frame?.toList ++ rest.filterMap Request.frame? := by
      cases h : request.frame? <;> simp [h]
    rw [Client.run_cons, hframes]
    refine ⟨hunbroken', ?_, first ++ replies, ?_, ?_, ?_⟩
    · simpa using ⟨hanswer, hanswers⟩
    · rw [List.length_append, List.length_append, hcount, hcounts]
    · intro body hbody
      exact (List.mem_append.mp hbody).elim (hfirst body) (hreplies body)
    · rw [List.flatten_append, List.map_append, List.flatten_append]
      exact hpass.trans hpasses

/-! ### The call that breaks -/

/-- A call that breaks the connection says why, leaves the client broken, and moves a first part of
its frame and part of a reply. -/
theorem call_of_breaks {client : Client σ} (hunbroken : client.broken = false)
    {request : Request} {outcome : Exchange}
    (houtcome : request.outcome? client.stream = some outcome)
    (hbreaks : outcome.breaks = true) :
    (client.call request).2.broken = true ∧
    ((∃ cause, outcome = .failed cause ∧
        (client.call request).1.error? = some (.agentIo cause)) ∨
      (∃ n, outcome = .badLength n ∧ (n = 0 ∨ maxReply < n) ∧
        (client.call request).1.error? = some (.agentProtocol (.replyLength n)))) ∧
    ∃ frame sent received, request.frame? = some frame ∧ sent <+: frame ∧
      PartOfReply received ∧ (received ≠ [] → sent = frame) ∧
      (∀ n, outcome = .badLength n → received = Wire.word n) ∧
      Passes client.stream (client.call request).2.stream sent received := by
  obtain ⟨-, hkept, -⟩ | ⟨outcome', t, sent, received, hframe, houtcome', htraffic, hpass, hcall⟩ :=
    Client.call_of_unbroken hunbroken request
  · rw [hkept outcome houtcome] at hbreaks
    contradiction
  · obtain rfl := Option.some.inj (houtcome'.symm.trans houtcome)
    rw [hcall]
    cases htraffic with
    | tooLong => simp [Exchange.breaks] at hbreaks
    | reply => simp [Exchange.breaks] at hbreaks
    | @failed cause _ _ _ hsent hreceived hwhole =>
      have hreported := request.error?_decode_error (.agentIo cause)
      exact ⟨hbreaks, .inl ⟨cause, rfl, hreported⟩, _, sent, received, hframe, hsent, hreceived,
        hwhole, fun n h => Exchange.noConfusion h, hpass⟩
    | @badLength n _ hn =>
      have hreported := request.error?_decode_error (.agentProtocol (.replyLength n))
      refine ⟨hbreaks, .inr ⟨n, rfl, hn, hreported⟩, _, _, _, hframe, List.prefix_rfl,
        .inl (Wire.length_word n).le, fun _ => rfl, ?_, hpass⟩
      intro m h
      rw [Exchange.badLength.inj h]

/-- **Connections that break.** Let the calls `before` survive on a fresh connection, and the next
call break it. Then no earlier call found the connection lost, that call reports the failure of the
stream or the length out of bounds, and each later call is refused and leaves the connection
exactly as it is. What was sent is the frames of the earlier requests that fit one, and behind them
a first part of the frame of that call; what was received is a reply to each of those frames, and
behind them part of one more, its length alone if that is out of bounds. -/
theorem breakdown_of_run {stream : σ} {before : List Request} {call : Request}
    {outcome : Exchange} (hbefore : (Client.ofStream stream).Survives before)
    (houtcome : call.outcome? ((Client.ofStream stream).run before).2.stream = some outcome)
    (hbreaks : outcome.breaks = true) (after : List Request) :
    ∃ earlier answer later final,
      (Client.ofStream stream).run (before ++ call :: after) =
        (earlier ++ answer :: later, final) ∧
      earlier.length = before.length ∧
      ((Client.ofStream stream).run (before ++ [call])).2 = final ∧
      (∀ a ∈ earlier, a.error? ≠ some .agentConnectionLost) ∧
      ((∃ cause, outcome = .failed cause ∧ answer.error? = some (.agentIo cause)) ∨
        (∃ n, outcome = .badLength n ∧ (n = 0 ∨ 262144 < n) ∧
          answer.error? = some (.agentProtocol (.replyLength n)))) ∧
      later.map Answer.error? = after.map (fun request => some request.refusal) ∧
      ∃ (frame : Bytes) (replies : List Bytes) (sent received : Bytes),
        call.frame? = some frame ∧
        replies.length = (before.filterMap Request.frame?).length ∧
        (∀ body ∈ replies, 0 < body.length ∧ body.length ≤ 262144) ∧
        sent <+: frame ∧ PartOfReply received ∧ (received ≠ [] → sent = frame) ∧
        (∀ n, outcome = .badLength n → received = Wire.word n) ∧
        Passes stream final.stream ((before.filterMap Request.frame?).flatten ++ sent)
          ((replies.map Wire.field).flatten ++ received) := by
  -- the calls that survive, the call that breaks, and the calls that are refused
  obtain ⟨hunbroken, hanswers, replies, hcount, hreplies, hpasses⟩ :=
    run_of_survives rfl hbefore
  set middle := ((Client.ofStream stream).run before).2 with hmiddle
  obtain ⟨hbroken, hanswer, frame, sent, received, hframe, hsent, hpart, hwhole, hword, hpass⟩ :=
    call_of_breaks hunbroken houtcome hbreaks
  have hlater := Client.run_of_broken hbroken after
  refine ⟨((Client.ofStream stream).run before).1, (middle.call call).1,
    after.map fun request => request.decode (.error request.refusal), (middle.call call).2,
    ?_, Client.length_run _ _, ?_, hanswers, hanswer, ?_, frame, replies, sent, received, hframe,
    hcount, hreplies, hsent, hpart, hwhole, hword, hpasses.trans hpass⟩
  · rw [Client.run_append, ← hmiddle, Client.run_cons, hlater]
  · rw [Client.run_append, ← hmiddle, Client.run_cons, Client.run_nil]
  · rw [List.map_map]
    exact List.map_congr_left fun request _ => request.error?_decode_error _

end Streams

/-- An agent that lists no keys, and closes within the reply to the next request. -/
def cutReply : MemoryStream :=
  ⟨Wire.field [listReplyType, 0, 0, 0, 0] ++ [0, 0, 0, 9, signReplyType], [], none, .brokenPipe,
    none⟩

theorem breakdown_of_cutReply :
    (Client.ofStream cutReply).Survives [.list] ∧
    (Request.sign [1] [2, 3]).outcome? ((Client.ofStream cutReply).run [.list]).2.stream =
      some (.failed .endOfStream) ∧
    ∃ earlier answer later final,
      (Client.ofStream cutReply).run [.list, .sign [1] [2, 3], .list] =
        (earlier ++ answer :: later, final) ∧
      answer.error? = some (.agentIo .endOfStream) ∧
      later.map Answer.error? = [some .agentConnectionLost] := by
  have hbefore : (Client.ofStream cutReply).Survives [.list] := ⟨by decide, trivial⟩
  have houtcome : (Request.sign [1] [2, 3]).outcome?
      ((Client.ofStream cutReply).run [.list]).2.stream = some (.failed .endOfStream) := by decide
  obtain ⟨earlier, answer, later, final, hrun, -, -, -, hanswer, hlater, -⟩ :=
    breakdown_of_run hbefore houtcome rfl [.list]
  refine ⟨hbefore, houtcome, earlier, answer, later, final, hrun, ?_, hlater⟩
  obtain ⟨cause, hcause, herror⟩ | ⟨n, hn, -⟩ := hanswer
  · rw [herror, Exchange.failed.inj hcause]
  · contradiction

end RequestSigning.Agent
