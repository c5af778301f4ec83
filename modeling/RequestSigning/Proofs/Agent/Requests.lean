import RequestSigning.Proofs.Agent.Connection

/-!
# What an agent reads

The agent at the other end of a stream takes the bytes sent to it apart into frames
(`Wire.cutFields`), and reads the body of each as a request and its flags
(`Agent.ReadRequest.read?`). A run of calls sends whole frames with at most a part of one more
behind them, so what the agent reads is the requests of the run in their order, none left out that
fits a frame, up to where the connection broke (`Client.asks_of_run`).

What the agent reads is computed from the bytes alone, by readers that know nothing of the client
(`cutField?` for the frames). So the statement is about the traffic, and a client that sent
something else under the same name would not satisfy it. `Asks` keeps the order and names the one
request that may have been cut off.
-/

namespace RequestSigning

/-! ### Frames -/

namespace Wire

theorem cutField?_eq_some {bytes content rest : Bytes} (h : cutField? bytes = some (content, rest)) :
    bytes = field content ++ rest ∧ content.length < 2 ^ 32 := by
  rw [cutField?] at h
  split_ifs at h with hshort
  obtain ⟨rfl, rfl⟩ := Prod.mk.inj (Option.some.inj h)
  push Not at hshort
  have hfour : (bytes.take 4).length = 4 := List.length_take_of_le hshort.1
  have hlength : ((bytes.drop 4).take (Bytes.toNat (bytes.take 4))).length =
      Bytes.toNat (bytes.take 4) := List.length_take_of_le hshort.2
  constructor
  · rw [field, hlength, word_toNat hfour, List.append_assoc, List.take_append_drop,
      List.take_append_drop]
  · rw [hlength]
    exact (Bytes.toNat_lt _).trans_eq (by rw [hfour]; rfl)

/-- A field that is not there to its end is not cut off. -/
theorem cutField?_of_part {content part : Bytes} (hfits : content.length < 2 ^ 32)
    (hpart : part <+: field content) (hne : part ≠ field content) : cutField? part = none := by
  cases hcut : cutField? part with
  | none => rfl
  | some found =>
    obtain ⟨own, rest⟩ := found
    obtain ⟨rfl, -⟩ := cutField?_eq_some hcut
    obtain ⟨missing, hwhole⟩ := hpart
    -- the part begins with a field of its own, which then is the whole
    have hsame : cutField? (field content ++ []) = some (own, rest ++ missing) := by
      rw [List.append_nil, ← hwhole, List.append_assoc]
      exact cutField?_field (cutField?_eq_some hcut).2 _
    rw [cutField?_field hfits] at hsame
    obtain ⟨rfl, hnil⟩ := Prod.mk.inj (Option.some.inj hsame)
    obtain ⟨rfl, -⟩ := List.append_eq_nil_iff.mp hnil.symm
    exact absurd (List.append_nil _) hne

/-- The contents of the **fields at the front** that are there to their end, and the bytes behind
them. -/
def cutFields (bytes : Bytes) : List Bytes × Bytes :=
  match _h : cutField? bytes with
  | none => ([], bytes)
  | some (content, rest) => (content :: (cutFields rest).1, (cutFields rest).2)
termination_by bytes.length
decreasing_by
  all_goals
    rw [(cutField?_eq_some _h).1, List.length_append, length_field]
    omega

theorem cutFields_of_none {bytes : Bytes} (h : cutField? bytes = none) :
    cutFields bytes = ([], bytes) := by
  rw [cutFields]
  split
  · rfl
  · next hsome =>
    rw [h] at hsome
    contradiction

theorem cutFields_of_some {bytes content rest : Bytes} (h : cutField? bytes = some (content, rest)) :
    cutFields bytes = (content :: (cutFields rest).1, (cutFields rest).2) := by
  rw [cutFields]
  split
  · next hnone =>
    rw [h] at hnone
    contradiction
  · next hsome =>
    obtain ⟨rfl, rfl⟩ := Prod.mk.inj (Option.some.inj (h.symm.trans hsome))
    rfl

/-- **Frames.** Fields one after the other are taken apart into their contents, up to one that is
not there to its end. -/
theorem cutFields_append {contents : List Bytes} {part : Bytes}
    (hfits : ∀ content ∈ contents, content.length < 2 ^ 32) (hpart : cutField? part = none) :
    cutFields ((contents.map field).flatten ++ part) = (contents, part) := by
  induction contents with
  | nil => exact cutFields_of_none hpart
  | cons content contents ih =>
    rw [List.forall_mem_cons] at hfits
    rw [List.map_cons, List.flatten_cons, List.append_assoc,
      cutFields_of_some (cutField?_field hfits.1 _), ih hfits.2]

end Wire

/-! ### Requests -/

namespace Agent

open Wire

/-- A request **as an agent reads it**. -/
inductive ReadRequest
  | list
  | sign (keyBlob data : Bytes) (flags : Nat)
  deriving DecidableEq

/-- The request in a body: its type, and for a signature two fields and the flags. Nothing may stand
behind these. -/
def ReadRequest.read? : Bytes → Option ReadRequest
  | [] => none
  | type :: fields =>
    if type = listRequestType then if fields = [] then some .list else none
    else if type = signRequestType then do
      let (keyBlob, rest) ← cutField? fields
      let (data, flags) ← cutField? rest
      if flags.length = 4 then some (.sign keyBlob data (Bytes.toNat flags)) else none
    else none

/-- What an agent should read of a request: no flags are set. -/
def Request.seen : Request → ReadRequest
  | .list => .list
  | .sign keyBlob data => .sign keyBlob data 0

/-- The body of a request that fits a frame is read as the request. -/
theorem ReadRequest.read?_bytes {request : Request} (h : request.bytes.length < 2 ^ 32) :
    read? request.bytes = some request.seen := by
  cases request with
  | list => rfl
  | sign keyBlob data =>
    simp only [Request.bytes, List.length_cons, List.length_append, length_field, length_word] at h
    have hkey : cutField? (field keyBlob ++ (field data ++ word 0)) = some (keyBlob, _) :=
      cutField?_field (by omega) _
    have hdata : cutField? (field data ++ word 0) = some (data, _) := cutField?_field (by omega) _
    have hflags : Bytes.toNat (word 0) = 0 := toNat_word (by decide)
    rw [Request.bytes, read?, if_neg (by decide), if_pos rfl, List.append_assoc, hkey]
    simp only [Option.bind_eq_bind, Option.bind_some, hdata, length_word, if_true, hflags,
      Request.seen]

/-- Whether a request **fits** a frame. -/
def Request.fits (request : Request) : Bool :=
  request.bytes.length < 2 ^ 32

theorem Request.filterMap_frame? (calls : List Request) :
    calls.filterMap Request.frame? =
      (calls.filter Request.fits).map fun request => field request.bytes := by
  induction calls with
  | nil => rfl
  | cons request calls ih =>
    by_cases hfits : request.bytes.length < 2 ^ 32
    · have hkept : request.fits = true := decide_eq_true hfits
      rw [List.filterMap_cons, Request.frame?_of_fits hfits, List.filter_cons_of_pos hkept,
        List.map_cons, ih]
    · have hdropped : ¬request.fits = true := by simpa [Request.fits] using hfits
      rw [List.filterMap_cons, Request.frame?_of_long (by omega),
        List.filter_cons_of_neg hdropped, ih]

/-- What was sent **asks** some of the requests that were to be sent, none of them left out before
another: their frames, and perhaps a part of the frame of the request behind them. -/
structure Asks (calls : List Request) (sent : Bytes) (asked : List Request) : Prop where
  inOrder : asked <+: calls.filter Request.fits
  read : (cutFields sent).1.map ReadRequest.read? = asked.map fun request => some request.seen
  behind : (cutFields sent).2 = [] ∨
    ∃ next, asked ++ [next] <+: calls.filter Request.fits ∧
      (cutFields sent).2 <+: field next.bytes

/-- Frames one after the other, and a part of the next one, ask for what the frames are of. -/
theorem asks_of_frames {calls asked : List Request} {sent part : Bytes}
    (hstart : asked <+: calls.filter Request.fits)
    (hsent : sent = (asked.map fun request => field request.bytes).flatten ++ part)
    (hpart : cutField? part = none)
    (hbehind : part = [] ∨
      ∃ next, asked ++ [next] <+: calls.filter Request.fits ∧ part <+: field next.bytes) :
    Asks calls sent asked := by
  have hfits : ∀ request ∈ asked, request.bytes.length < 2 ^ 32 := fun request hrequest =>
    of_decide_eq_true (List.mem_filter.mp (hstart.subset hrequest)).2
  have hcut : cutFields sent = (asked.map Request.bytes, part) := by
    rw [hsent, show (fun request => field request.bytes) = field ∘ Request.bytes from rfl,
      ← List.map_map]
    refine cutFields_append (fun content hcontent => ?_) hpart
    obtain ⟨request, hrequest, rfl⟩ := List.mem_map.mp hcontent
    exact hfits request hrequest
  refine ⟨hstart, ?_, ?_⟩
  · rw [hcut, List.map_map]
    exact List.map_congr_left fun request hrequest => ReadRequest.read?_bytes (hfits request hrequest)
  · rw [hcut]
    exact hbehind

/-- **What an agent reads.** What a run of calls on a usable client sends asks for the requests of the
run, in order, up to where the connection broke. -/
theorem Client.asks_of_run {σ : Type} [ByteStream σ] [VisibleTraffic σ] {client : Client σ}
    (hunbroken : client.broken = false) (calls : List Request) :
    ∃ sent received asked, Passes client.stream (client.run calls).2.stream sent received ∧
      Asks calls sent asked := by
  obtain hsurvives | ⟨before, call, after, outcome, rfl, hbefore, houtcome, hbreaks⟩ :=
    client.survives_or_breaks calls
  · -- all that fits a frame was sent
    obtain ⟨-, -, replies, -, -, hpass⟩ := run_of_survives hunbroken hsurvives
    rw [Request.filterMap_frame?] at hpass
    exact ⟨_, _, _, hpass, asks_of_frames List.prefix_rfl (List.append_nil _).symm rfl (.inl rfl)⟩
  · obtain ⟨hkept, -, replies, -, -, hpasses⟩ := run_of_survives hunbroken hbefore
    obtain ⟨hbroken, -, frame, sent, received, hframe, hsent, -, -, -, hpass⟩ :=
      call_of_breaks hkept houtcome hbreaks
    have hcall : call.bytes.length < 2 ^ 32 := by
      by_contra hlong
      rw [Request.frame?_of_long (by omega)] at hframe
      contradiction
    obtain rfl := Option.some.inj ((Request.frame?_of_fits hcall).symm.trans hframe)
    have hboth : Passes client.stream (client.run (before ++ call :: after)).2.stream
        (((before.filter Request.fits).map fun request => field request.bytes).flatten ++ sent)
        ((replies.map field).flatten ++ received) := by
      rw [Client.run_append, Client.run_cons, Client.run_of_broken hbroken,
        ← Request.filterMap_frame?]
      exact hpasses.trans hpass
    have hnext : before.filter Request.fits ++ [call] <+:
        (before ++ call :: after).filter Request.fits := by
      have hkeptCall : call.fits = true := decide_eq_true hcall
      rw [List.filter_append, List.filter_cons_of_pos hkeptCall]
      exact ⟨after.filter Request.fits, by simp⟩
    by_cases hwhole : sent = field call.bytes
    · have hframes : ((before.filter Request.fits).map fun request => field request.bytes).flatten ++
          sent = ((before.filter Request.fits ++ [call]).map fun request =>
            field request.bytes).flatten ++ [] := by simp [hwhole]
      exact ⟨_, _, _, hboth, asks_of_frames hnext hframes rfl (.inl rfl)⟩
    · exact ⟨_, _, _, hboth, asks_of_frames ((List.prefix_append _ _).trans hnext) rfl
        (cutField?_of_part hcall hsent hwhole) (.inr ⟨call, hnext, hsent⟩)⟩

end Agent

end RequestSigning
