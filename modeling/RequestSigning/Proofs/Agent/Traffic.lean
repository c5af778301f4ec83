import RequestSigning.Agent.Client
import RequestSigning.Proofs.WireFields

/-!
# What an exchange sends and receives

`VisibleTraffic` is what every stream of bytes keeps to, told by the bytes written so far and the
bytes still to be read: a write that fails has written some first part of its bytes, a read that
fails has used up no more than it was asked for, and flushing moves no byte. Nothing is said about
when an operation fails, so each write, flush and read may fail or not.

`exchange_traffic` says what one exchange with an agent can do on such a stream: which bytes it
sends and receives on each of its ways to end.
-/

namespace RequestSigning.Agent

/-- A stream with **visible traffic**: its state shows the bytes written so far and the bytes still
to be read. -/
class VisibleTraffic (σ : Type) [ByteStream σ] where
  /-- The bytes written so far. -/
  written : σ → Bytes
  /-- The bytes still to be read. -/
  unread : σ → Bytes
  write_ok {s t : σ} {bytes : Bytes} (h : ByteStream.write s bytes = (.ok (), t)) :
    written t = written s ++ bytes ∧ unread t = unread s
  write_error {s t : σ} {bytes : Bytes} {cause : IoFault}
      (h : ByteStream.write s bytes = (.error cause, t)) :
    (∃ sent, sent <+: bytes ∧ written t = written s ++ sent) ∧ unread t = unread s
  flush {s t : σ} {result : Except IoFault Unit} (h : ByteStream.flush s = (result, t)) :
    written t = written s ∧ unread t = unread s
  read_ok {s t : σ} {n : Nat} {bytes : Bytes} (h : ByteStream.read s n = (.ok bytes, t)) :
    bytes.length = n ∧ unread s = bytes ++ unread t ∧ written t = written s
  read_error {s t : σ} {n : Nat} {cause : IoFault}
      (h : ByteStream.read s n = (.error cause, t)) :
    (∃ received, received.length ≤ n ∧ unread s = received ++ unread t) ∧ written t = written s

/-- A stream in memory shows what was written, and what is left of its incoming bytes. -/
instance : VisibleTraffic MemoryStream where
  written stream := stream.written
  unread stream := stream.incoming
  write_ok {s t bytes} h := by
    simp only [ByteStream.write, MemoryStream.write] at h
    split at h
    · obtain rfl := (Prod.mk.inj h).2
      exact ⟨rfl, rfl⟩
    · split_ifs at h
      · obtain rfl := (Prod.mk.inj h).2
        exact ⟨rfl, rfl⟩
      · simp at h
  write_error {s t bytes cause} h := by
    simp only [ByteStream.write, MemoryStream.write] at h
    split at h
    · simp at h
    · split_ifs at h
      · simp at h
      · obtain rfl := (Prod.mk.inj h).2
        exact ⟨⟨_, List.take_prefix _ _, rfl⟩, rfl⟩
  flush {s t result} h := by
    simp only [ByteStream.flush, MemoryStream.flush] at h
    split at h <;> obtain rfl := (Prod.mk.inj h).2 <;> exact ⟨rfl, rfl⟩
  read_ok {s t n bytes} h := by
    simp only [ByteStream.read, MemoryStream.read, takeExactly] at h
    split_ifs at h with hlength
    · obtain ⟨hbytes, rfl⟩ := Prod.mk.inj h
      obtain rfl := Except.ok.inj hbytes
      exact ⟨hlength, (List.take_append_drop n s.incoming).symm, rfl⟩
    · simp at h
  read_error {s t n cause} h := by
    simp only [ByteStream.read, MemoryStream.read, takeExactly] at h
    split_ifs at h with hlength
    · simp at h
    · obtain rfl := (Prod.mk.inj h).2
      refine ⟨⟨s.incoming, ?_, (List.append_nil _).symm⟩, rfl⟩
      rw [List.length_take] at hlength
      omega

section Streams

variable {σ : Type} [ByteStream σ] [VisibleTraffic σ]

open VisibleTraffic

/-- Between two states of a stream some bytes were sent and some were received. -/
structure Passes (s t : σ) (sent received : Bytes) : Prop where
  written : written t = written s ++ sent
  unread : unread s = received ++ unread t

theorem Passes.refl (s : σ) : Passes s s [] [] :=
  ⟨(List.append_nil _).symm, rfl⟩

theorem Passes.trans {s t u : σ} {sent received sent' received' : Bytes}
    (h : Passes s t sent received) (h' : Passes t u sent' received') :
    Passes s u (sent ++ sent') (received ++ received') :=
  ⟨by rw [h'.written, h.written, List.append_assoc],
    by rw [h.unread, h'.unread, List.append_assoc]⟩

/-- What is sent first and what is received afterwards pass together. -/
theorem Passes.answered {s t u : σ} {sent received : Bytes} (hsent : Passes s t sent [])
    (hreceived : Passes t u [] received) : Passes s u sent received := by
  have hboth := hsent.trans hreceived
  rwa [List.append_nil, List.nil_append] at hboth

/-! ### Sending -/

theorem passes_of_send_ok {s t : σ} {bytes : Bytes} (h : send s bytes = (.ok (), t)) :
    Passes s t bytes [] := by
  rw [send] at h
  rcases hwrite : ByteStream.write s bytes with ⟨cause | ⟨⟩, u⟩
  · simp [hwrite] at h
  · simp only [hwrite] at h
    have hw := write_ok hwrite
    have hf := flush h
    exact ⟨by rw [hf.1, hw.1], by rw [List.nil_append, hf.2, hw.2]⟩

theorem passes_of_send_error {s t : σ} {bytes : Bytes} {cause : IoFault}
    (h : send s bytes = (.error cause, t)) : ∃ sent, sent <+: bytes ∧ Passes s t sent [] := by
  rw [send] at h
  rcases hwrite : ByteStream.write s bytes with ⟨fault | ⟨⟩, u⟩
  · simp only [hwrite, Prod.mk.injEq] at h
    obtain ⟨-, rfl⟩ := h
    obtain ⟨⟨sent, hsent, hwritten⟩, hunread⟩ := write_error hwrite
    exact ⟨sent, hsent, hwritten, by rw [List.nil_append, hunread]⟩
  · -- all was written, and the flush failed
    simp only [hwrite] at h
    have hw := write_ok hwrite
    have hf := flush h
    exact ⟨bytes, List.prefix_rfl, by rw [hf.1, hw.1], by rw [List.nil_append, hf.2, hw.2]⟩

/-! ### Receiving -/

/-- A body of a length within the bounds is **accepted as a reply**. -/
def IsReply (body : Bytes) : Prop :=
  0 < body.length ∧ body.length ≤ maxReply

/-- What was received is **part of a reply**: no more than a length, or a length within the bounds
and no more than the body of that length. -/
def PartOfReply (received : Bytes) : Prop :=
  received.length ≤ 4 ∨
    ∃ n body, 0 < n ∧ n ≤ maxReply ∧ body.length ≤ n ∧ received = Wire.word n ++ body

/-- The ways to end a receive, each with the bytes received. -/
theorem passes_of_receive {s t : σ} {outcome : Exchange} (h : receive s = (outcome, t)) :
    (∃ cause received, outcome = .failed cause ∧ PartOfReply received ∧ Passes s t [] received) ∨
    (∃ n, outcome = .badLength n ∧ (n = 0 ∨ maxReply < n) ∧ n < 2 ^ 32 ∧
      Passes s t [] (Wire.word n)) ∨
    (∃ body, outcome = .reply body ∧ 0 < body.length ∧ body.length ≤ maxReply ∧
      Passes s t [] (Wire.field body)) := by
  rw [receive] at h
  -- the length first
  rcases hlength : ByteStream.read s 4 with ⟨cause | length, u⟩
  · simp only [hlength, Prod.mk.injEq] at h
    obtain ⟨rfl, rfl⟩ := h
    obtain ⟨⟨received, hreceived, hunread⟩, hwritten⟩ := read_error hlength
    exact .inl ⟨cause, received, rfl, .inl hreceived, by rw [hwritten, List.append_nil], hunread⟩
  · simp only [hlength] at h
    obtain ⟨hfour, hunread, hwritten⟩ := read_ok hlength
    have hword : Wire.word (Bytes.toNat length) = length := Wire.word_toNat hfour
    have hpass : Passes s u [] (Wire.word (Bytes.toNat length)) :=
      ⟨by rw [hwritten, List.append_nil], by rw [hword, hunread]⟩
    split_ifs at h with hbounds
    · obtain ⟨rfl, rfl⟩ := Prod.mk.inj h
      have hlt : Bytes.toNat length < 256 ^ 4 := hfour ▸ Bytes.toNat_lt length
      exact .inr (.inl ⟨_, rfl, hbounds, hlt, hpass⟩)
    · -- the length is within the bounds, and the body follows
      rcases hbody : ByteStream.read u (Bytes.toNat length) with ⟨cause | body, v⟩
      · simp only [hbody, Prod.mk.injEq] at h
        obtain ⟨rfl, rfl⟩ := h
        obtain ⟨⟨part, hpart, hunread'⟩, hwritten'⟩ := read_error hbody
        have hreceived : PartOfReply (Wire.word (Bytes.toNat length) ++ part) :=
          .inr ⟨_, part, by omega, by omega, hpart, rfl⟩
        have hrest : Passes u v [] part := ⟨by rw [hwritten', List.append_nil], hunread'⟩
        exact .inl ⟨cause, _, rfl, hreceived, hpass.trans hrest⟩
      · simp only [hbody, Prod.mk.injEq] at h
        obtain ⟨rfl, rfl⟩ := h
        obtain ⟨hwhole, hunread', hwritten'⟩ := read_ok hbody
        have hrest : Passes u v [] body := ⟨by rw [hwritten', List.append_nil], hunread'⟩
        refine .inr (.inr ⟨body, rfl, by omega, by omega, ?_⟩)
        rw [Wire.field, hwhole]
        exact hpass.trans hrest

/-! ### Exchanges -/

/-- The **traffic of an exchange** of a request's body: what is sent and what is received, by how
the exchange ends. -/
inductive ExchangeTraffic (body : Bytes) : Exchange → Bytes → Bytes → Prop
  /-- A body too long for a frame moves no byte. -/
  | tooLong (h : 2 ^ 32 ≤ body.length) : ExchangeTraffic body (.tooLong .overflow) [] []
  /-- A stream that fails has sent a first part of the frame, the whole of it before anything is
  received. -/
  | failed {cause : IoFault} {sent received : Bytes} (hfits : body.length < 2 ^ 32)
      (hsent : sent <+: Wire.field body) (hreceived : PartOfReply received)
      (hwhole : received ≠ [] → sent = Wire.field body) :
      ExchangeTraffic body (.failed cause) sent received
  /-- Of a reply with a length out of bounds only the length is received. -/
  | badLength {n : Nat} (hfits : body.length < 2 ^ 32) (hn : n = 0 ∨ maxReply < n)
      (hword : n < 2 ^ 32) :
      ExchangeTraffic body (.badLength n) (Wire.field body) (Wire.word n)
  /-- A reply is received as one frame. -/
  | reply {answer : Bytes} (hfits : body.length < 2 ^ 32) (hpos : 0 < answer.length)
      (hmax : answer.length ≤ maxReply) :
      ExchangeTraffic body (.reply answer) (Wire.field body) (Wire.field answer)

/-- **Traffic of an exchange.** Between the states before and after an exchange exactly the bytes
of its traffic were sent and received. -/
theorem exchange_traffic {s t : σ} {body : Bytes} {outcome : Exchange}
    (h : exchange s body = (outcome, t)) :
    ∃ sent received, ExchangeTraffic body outcome sent received ∧ Passes s t sent received := by
  rw [exchange] at h
  by_cases hfits : body.length < 2 ^ 32
  · simp only [Wire.field?_of_fits hfits] at h
    rcases hsend : send s (Wire.field body) with ⟨cause | ⟨⟩, u⟩
    · simp only [hsend, Prod.mk.injEq] at h
      obtain ⟨rfl, rfl⟩ := h
      obtain ⟨sent, hsent, hpass⟩ := passes_of_send_error hsend
      exact ⟨sent, [], .failed hfits hsent (.inl (Nat.zero_le 4)) (absurd rfl), hpass⟩
    · simp only [hsend] at h
      have hpass := passes_of_send_ok hsend
      obtain ⟨cause, received, rfl, hpart, hreceive⟩ | ⟨n, rfl, hn, hword, hreceive⟩ |
        ⟨answer, rfl, hpos, hmax, hreceive⟩ := passes_of_receive h
      · exact ⟨_, received, .failed hfits List.prefix_rfl hpart fun _ => rfl,
          hpass.answered hreceive⟩
      · exact ⟨_, _, .badLength hfits hn hword, hpass.answered hreceive⟩
      · exact ⟨_, _, .reply hfits hpos hmax, hpass.answered hreceive⟩
  · simp only [Wire.field?_of_long hfits, Prod.mk.injEq] at h
    obtain ⟨rfl, rfl⟩ := h
    exact ⟨[], [], .tooLong (by omega), Passes.refl s⟩

end Streams

end RequestSigning.Agent
