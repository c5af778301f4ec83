import RequestSigning.Proofs.Agent.Requests

/-!
# Requests for signatures

A request for a signature that fits a frame is sent as this one frame, the whole of it wherever the
stream takes it (`Client.passes_of_ask`). An agent reads the frame as the key and the data and
nothing else, so no two requests share a frame, and frames one after the other read back as the
requests in their order (`ReadRequest.readAll?_frames`). A request that is too long is refused
before anything is sent, and the client is the same as before.

Frames carry their own lengths, so that a sequence of them can be cut in one way only. The data to
be signed may be empty, and may itself look like a frame; neither changes where the next request
starts. Whether the agent answers plays no part in this.
-/

namespace RequestSigning.Agent

open Wire

/-! ### What is sent -/

section Streams

variable {σ : Type} [ByteStream σ] [VisibleTraffic σ]

/-- Bytes that the stream takes are sent, whether or not it is flushed. -/
theorem passes_of_send_of_write {s u t : σ} {bytes : Bytes} {result : Except IoFault Unit}
    (hwrite : ByteStream.write s bytes = (.ok (), u)) (h : send s bytes = (result, t)) :
    Passes s t bytes [] := by
  obtain ⟨hwritten, hunread⟩ := VisibleTraffic.write_ok hwrite
  simp only [send, hwrite] at h
  obtain ⟨hkept, hahead⟩ := VisibleTraffic.flush h
  exact ⟨by rw [hkept, hwritten], by rw [List.nil_append, hahead, hunread]⟩

/-- An exchange sends the whole frame of the request where the stream takes it. -/
theorem passes_of_exchange_of_write {s u t : σ} {body : Bytes} {outcome : Exchange}
    (hfits : body.length < 2 ^ 32) (hwrite : ByteStream.write s (field body) = (.ok (), u))
    (h : exchange s body = (outcome, t)) : ∃ received, Passes s t (field body) received := by
  rw [exchange, field?_of_fits hfits] at h
  dsimp only at h
  rcases hsend : send s (field body) with ⟨cause | ⟨⟩, v⟩
  · have hsent := passes_of_send_of_write hwrite hsend
    rw [hsend] at h
    obtain ⟨-, rfl⟩ := Prod.mk.inj h
    exact ⟨[], hsent⟩
  · have hsent := passes_of_send_of_write hwrite hsend
    rw [hsend] at h
    obtain ⟨-, received, -, -, hpass⟩ | ⟨n, -, -, -, hpass⟩ | ⟨reply, -, -, -, hpass⟩ :=
      passes_of_receive h
    · exact ⟨received, hsent.answered hpass⟩
    · exact ⟨word n, hsent.answered hpass⟩
    · exact ⟨field reply, hsent.answered hpass⟩

/-- **One frame.** A usable client sends a first part of the frame of a request that fits one, and
the whole frame where the stream takes it. -/
theorem Client.passes_of_ask {client : Client σ} (hunbroken : client.broken = false)
    {request : Request} (hfits : request.bytes.length < 2 ^ 32) :
    ∃ sent received, Passes client.stream (client.ask request).2.stream sent received ∧
      sent <+: field request.bytes ∧
      ((∃ stream, ByteStream.write client.stream (field request.bytes) = (.ok (), stream)) →
        sent = field request.bytes) := by
  have hstream : (client.ask request).2.stream = (exchange client.stream request.bytes).2 := by
    rw [ask, Request.body_of_fits hfits]
    simp only [roundTrip, hunbroken, Bool.false_eq_true, if_false]
  rw [hstream]
  by_cases htaken :
      ∃ stream, ByteStream.write client.stream (field request.bytes) = (.ok (), stream)
  · obtain ⟨u, hwrite⟩ := htaken
    obtain ⟨received, hpass⟩ := passes_of_exchange_of_write hfits hwrite rfl
    exact ⟨_, received, hpass, List.prefix_rfl, fun _ => rfl⟩
  · rcases hexchange : exchange client.stream request.bytes with ⟨outcome, t⟩
    obtain ⟨sent, received, htraffic, hpass⟩ := exchange_traffic hexchange
    refine ⟨sent, received, hpass, ?_, fun h => absurd h htaken⟩
    cases htraffic with
    | tooLong => exact List.nil_prefix
    | failed _ hsent => exact hsent
    | badLength => exact List.prefix_rfl
    | reply => exact List.prefix_rfl

end Streams

/-! ### What is read -/

/-- The requests in frames one after the other. Nothing may stand behind the last one. -/
def ReadRequest.readAll? (bytes : Bytes) : Option (List ReadRequest) :=
  if (cutFields bytes).2 = [] then (cutFields bytes).1.mapM read? else none

theorem ReadRequest.mapM_read?_bytes {requests : List Request}
    (hfits : ∀ request ∈ requests, request.bytes.length < 2 ^ 32) :
    (requests.map Request.bytes).mapM read? = some (requests.map Request.seen) := by
  induction requests with
  | nil => rfl
  | cons request requests ih =>
    rw [List.forall_mem_cons] at hfits
    rw [List.map_cons, List.mapM_cons, read?_bytes hfits.1, ih hfits.2]
    rfl

theorem cutFields_frames {requests : List Request}
    (hfits : ∀ request ∈ requests, request.bytes.length < 2 ^ 32) :
    cutFields (requests.map fun request => field request.bytes).flatten =
      (requests.map Request.bytes, []) := by
  have hnothing : cutField? [] = none := rfl
  have hframes := cutFields_append (List.forall_mem_map.mpr hfits) hnothing
  rwa [List.append_nil, List.map_map] at hframes

/-- **Frames read back.** Frames of requests one after the other are read as the requests. -/
theorem ReadRequest.readAll?_frames {requests : List Request}
    (hfits : ∀ request ∈ requests, request.bytes.length < 2 ^ 32) :
    readAll? (requests.map fun request => field request.bytes).flatten =
      some (requests.map Request.seen) := by
  rw [readAll?, cutFields_frames hfits, if_pos rfl]
  exact mapM_read?_bytes hfits

/-- No two requests are seen as the same. -/
theorem Request.seen_injective : Function.Injective Request.seen := by
  intro request other h
  cases request <;> cases other <;> simp_all [seen]

/-- No two requests that fit a frame have the same frame. -/
theorem Request.eq_of_field_bytes_eq {request other : Request}
    (hfits : request.bytes.length < 2 ^ 32) (hother : other.bytes.length < 2 ^ 32)
    (h : field request.bytes = field other.bytes) :
    request = other := by
  have hread := ReadRequest.read?_bytes hfits
  rw [field_injective h, ReadRequest.read?_bytes hother] at hread
  exact (seen_injective (Option.some.inj hread)).symm

/-! ### Requests that are too long -/

theorem Request.length_bytes_sign (keyBlob data : Bytes) :
    (Request.sign keyBlob data).bytes.length = 13 + keyBlob.length + data.length := by
  simp only [bytes, List.length_cons, List.length_append, length_field, length_word]
  omega

/-- A request that does not fit a frame is refused, and the client is as it was. -/
theorem Client.call_of_long {σ : Type} [ByteStream σ] [VisibleTraffic σ] {client : Client σ}
    (hunbroken : client.broken = false) {request : Request}
    (hlong : 2 ^ 32 ≤ request.bytes.length) :
    client.call request =
      (request.decode (.error (.agentProtocol (.requestTooLong .overflow))), client) := by
  obtain ⟨-, -, hcall⟩ | ⟨_, _, _, _, hframe, -⟩ := call_of_unbroken hunbroken request
  · exact hcall
  · rw [Request.frame?_of_long hlong] at hframe
    contradiction

/-- **Sign requests.** Let a client be usable. A request to sign whose body has less than `2 ^ 32`
bytes is sent as one frame, the number of the bytes behind it first: the type, the key's blob and the
data as fields, and flags that are zero. The stream gets nothing else, and it gets the whole frame if
it takes it. An agent reads the frame as one request with this key, these data and no flags, and
nothing behind it, so no other key and data have this frame. Frames of requests of both kinds, one
after the other, read back as the requests in their order, and what is sent by calls that survive is
such frames. A request that is longer is refused with the client as it was, so the calls behind it
are answered as if it had not been made. -/
theorem sign_requests_lossless {σ : Type} [ByteStream σ] [VisibleTraffic σ] {client : Client σ}
    (hunbroken : client.broken = false) (keyBlob data : Bytes) :
    (13 + keyBlob.length + data.length < 2 ^ 32 →
      ∃ body frame : Bytes,
        body = 13 :: (field keyBlob ++ field data ++ [0, 0, 0, 0]) ∧
        frame = word body.length ++ body ∧ body.length < 2 ^ 32 ∧
        (∃ sent received, Passes client.stream (client.sign keyBlob data).2.stream sent received ∧
          sent <+: frame ∧
          ((∃ stream, ByteStream.write client.stream frame = (.ok (), stream)) → sent = frame)) ∧
        cutFields frame = ([body], []) ∧
        ReadRequest.read? body = some (.sign keyBlob data 0) ∧
        ∀ otherKey otherData, 13 + otherKey.length + otherData.length < 2 ^ 32 →
          frame = field (13 :: (field otherKey ++ field otherData ++ [0, 0, 0, 0])) →
          otherKey = keyBlob ∧ otherData = data) ∧
    (∀ requests : List Request, (∀ request ∈ requests, request.bytes.length < 2 ^ 32) →
      ReadRequest.readAll? (requests.map fun request => field request.bytes).flatten =
        some (requests.map Request.seen)) ∧
    (∀ requests, client.Survives requests →
      ∃ sent received, Passes client.stream (client.run requests).2.stream sent received ∧
        ReadRequest.readAll? sent = some ((requests.filter Request.fits).map Request.seen)) ∧
    (2 ^ 32 ≤ 13 + keyBlob.length + data.length →
      ∃ e : AuthError, e = .agentProtocol (.requestTooLong .overflow) ∧
        e.message =
          "SSH agent protocol error: cannot encode agent request: internal overflow error" ∧
        client.sign keyBlob data = (.error e, client) ∧
        ∀ requests, client.run (.sign keyBlob data :: requests) =
          (.signature (.error e) :: (client.run requests).1, (client.run requests).2)) := by
  have hlength := Request.length_bytes_sign
  refine ⟨fun hfits => ?_, fun requests => ReadRequest.readAll?_frames,
    fun requests hsurvives => ?_, fun hlong => ?_⟩
  · rw [← hlength] at hfits
    refine ⟨(Request.sign keyBlob data).bytes, _, rfl, rfl, hfits,
      Client.passes_of_ask hunbroken hfits, ?_, ReadRequest.read?_bytes hfits, ?_⟩
    · have hcut := cutFields_frames (List.forall_mem_singleton.mpr hfits)
      rwa [List.map_singleton, List.map_singleton, List.flatten_singleton] at hcut
    · intro otherKey otherData hother hsame
      rw [← hlength] at hother
      obtain ⟨rfl, rfl⟩ := Request.sign.inj (Request.eq_of_field_bytes_eq hfits hother hsame)
      exact ⟨rfl, rfl⟩
  · obtain ⟨-, -, replies, -, -, hpass⟩ := run_of_survives hunbroken hsurvives
    rw [Request.filterMap_frame?] at hpass
    refine ⟨_, _, hpass, ReadRequest.readAll?_frames fun request hrequest => ?_⟩
    exact of_decide_eq_true (List.mem_filter.mp hrequest).2
  · rw [← hlength] at hlong
    have hcall := Client.call_of_long hunbroken hlong
    refine ⟨_, rfl, rfl, ?_, fun requests => ?_⟩
    · obtain ⟨hanswer, hclient⟩ := Prod.mk.inj hcall
      exact Prod.ext (Answer.signature.inj hanswer) hclient
    · rw [Client.run_cons, hcall]
      rfl

/-- An agent that takes all that is sent, and answers nothing. -/
def silentAgent : MemoryStream :=
  ⟨[], [], none, .brokenPipe, none⟩

theorem sign_requests_lossless_unanswered :
    (∃ received, Passes silentAgent ((Client.ofStream silentAgent).sign [7] [1, 2]).2.stream
      [0, 0, 0, 16, 13, 0, 0, 0, 1, 7, 0, 0, 0, 2, 1, 2, 0, 0, 0, 0] received) ∧
    ((Client.ofStream silentAgent).sign (List.replicate (2 ^ 32) 7) []).1 =
      .error (.agentProtocol (.requestTooLong .overflow)) := by
  have hunbroken : (Client.ofStream silentAgent).broken = false := rfl
  obtain ⟨hshort, -⟩ := sign_requests_lossless hunbroken [7] [1, 2]
  obtain ⟨-, -, -, hlong⟩ := sign_requests_lossless hunbroken (List.replicate (2 ^ 32) 7) []
  constructor
  · obtain ⟨body, frame, rfl, rfl, -, ⟨sent, received, hpass, -, hwhole⟩, -⟩ := hshort (by decide)
    rw [hwhole ⟨_, rfl⟩] at hpass
    exact ⟨received, hpass⟩
  · obtain ⟨e, rfl, -, hrefused, -⟩ := hlong (by rw [List.length_replicate]; omega)
    rw [hrefused]

end RequestSigning.Agent
