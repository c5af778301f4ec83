import RequestSigning.Proofs.Agent.Pairing
import RequestSigning.Proofs.Agent.Requests
import RequestSigning.Proofs.SignerFailures

/-!
# The key that an agent is asked to sign with

Out of the keys that an agent lists, a signer is made for the first one that the caller's text names,
and for none exactly if the text names none (`AgentSigner.make_eq_ok_iff`,
`AgentSigner.make_eq_error_iff_of_listed`). Making it sends one request, for the list. Whatever is
signed afterwards, all that the agent reads is requests to sign with that one key, as
`first_named_key_signs` says.

A list may hold one key twice, or two keys of which the text names both; the order of the list
decides, as it does for one blob with two comments (`twinKeys`). The statement about the requests
goes over every later run of signing, in turns by several callers, and over every way in which the
stream may break.
-/

namespace RequestSigning

open Agent

namespace AgentSigner

variable {σ : Type}

/-! ### The first key named -/

/-- The key that is chosen is the first one that the text names. -/
theorem chooseKey?_eq_some_iff {keyName : String} {keys : List Agent.Identity}
    {key : Agent.Identity} :
    chooseKey? keyName keys = some key ↔
      key.fingerprint.isNamedBy keyName = true ∧
        ∃ before after, keys = before ++ key :: after ∧
          ∀ earlier ∈ before, earlier.fingerprint.isNamedBy keyName = false := by
  rw [chooseKey?, List.find?_eq_some_iff_append]
  simp only [Bool.not_eq_true']

theorem value_choose (client : Client σ) (keys : List Agent.Identity) (keyName account : String)
    (user : Option String) :
    (choose client keys keyName account user).value =
      match chooseKey? keyName keys with
      | none => .error (.keyNotFoundInAgent keyName)
      | some key => .ok ⟨client, key, ⟨KeyId.make account user key.fingerprint, .rsaSha1⟩⟩ := by
  rw [choose, Logged.value_bind]
  cases chooseKey? keyName keys <;> rfl

section Streams

variable [ByteStream σ] {connect : String → Except IoFault σ} {socket : String} {stream : σ}
  {keys : List Agent.Identity}

/-- Where the agent lists its keys, one of them is chosen, and the client that listed them is kept. -/
theorem value_make_of_listed (hconnect : connect socket = .ok stream)
    (hkeys : (Client.ofStream stream).listIdentities.1 = .ok keys) (keyName account : String)
    (user : Option String) :
    (make connect (some socket) keyName account user).value =
      ((choose (Client.ofStream stream).listIdentities.2 keys keyName account user).value,
        some (Client.ofStream stream).listIdentities.2) := by
  simp [make, dial, hconnect, ofClient, hkeys]

theorem make_eq_ok_iff (hconnect : connect socket = .ok stream)
    (hkeys : (Client.ofStream stream).listIdentities.1 = .ok keys) {keyName account : String}
    {user : Option String} {signer : AgentSigner σ} :
    (make connect (some socket) keyName account user).value.1 = .ok signer ↔
      ∃ before key after, keys = before ++ key :: after ∧
        (∀ earlier ∈ before, earlier.fingerprint.isNamedBy keyName = false) ∧
        key.fingerprint.isNamedBy keyName = true ∧
        signer = ⟨(Client.ofStream stream).listIdentities.2, key,
          ⟨KeyId.make account user key.fingerprint, .rsaSha1⟩⟩ := by
  rw [value_make_of_listed hconnect hkeys, value_choose]
  constructor
  · intro h
    cases hkey : chooseKey? keyName keys with
    | none => simp [hkey] at h
    | some key =>
      obtain ⟨hnamed, before, after, hsplit, hbefore⟩ := chooseKey?_eq_some_iff.mp hkey
      rw [hkey] at h
      exact ⟨before, key, after, hsplit, hbefore, hnamed, (Except.ok.inj h).symm⟩
  · rintro ⟨before, key, after, hsplit, hbefore, hnamed, rfl⟩
    rw [chooseKey?_eq_some_iff.mpr ⟨hnamed, before, after, hsplit, hbefore⟩]

theorem make_eq_error_iff_of_listed (hconnect : connect socket = .ok stream)
    (hkeys : (Client.ofStream stream).listIdentities.1 = .ok keys) {keyName account : String}
    {user : Option String} {e : AuthError} :
    (make connect (some socket) keyName account user).value.1 = .error e ↔
      e = .keyNotFoundInAgent keyName ∧
        ∀ key ∈ keys, key.fingerprint.isNamedBy keyName = false := by
  rw [value_make_of_listed hconnect hkeys, choose_eq_error_iff, and_comm]
  exact and_congr_left' eq_comm

/-- Where the agent lists its keys, the request for them is all that was sent, and the client can be
used. -/
theorem passes_of_listed [VisibleTraffic σ]
    (hkeys : (Client.ofStream stream).listIdentities.1 = .ok keys) :
    (Client.ofStream stream).listIdentities.2.broken = false ∧
      ∃ received, Passes stream (Client.ofStream stream).listIdentities.2.stream
        (Wire.field [listRequestType]) received := by
  have hcall : (Client.ofStream stream).call .list =
      (.keys (.ok keys), (Client.ofStream stream).listIdentities.2) := by
    rw [← hkeys]
    rfl
  have hunbroken : (Client.ofStream stream).broken = false := rfl
  obtain ⟨hnone, -⟩ | ⟨outcome, t, sent, received, -, -, htraffic, hpass, hown⟩ :=
    Client.call_of_unbroken hunbroken .list
  · rw [Request.frame?_of_fits (by decide)] at hnone
    contradiction
  · obtain ⟨hanswer, hclient⟩ := Prod.mk.inj (hcall.symm.trans hown)
    rw [hclient]
    -- keys come from a reply, and before a reply the whole frame is sent
    cases htraffic with
    | reply => exact ⟨rfl, _, hpass⟩
    | tooLong | failed | badLength => simp [Request.decode, Exchange.result] at hanswer

end Streams

/-! ### Requests for signatures -/

section Requests

variable [ByteStream σ] [VisibleTraffic σ] {ι : Type} {signer : AgentSigner σ}

/-- Whatever a signer with a usable client signs for, its agent reads requests to sign with the one
key, for the dates in their order. -/
theorem asks_of_share (hunbroken : signer.client.broken = false) (turns : List (ι × String)) :
    ∃ sent received asked,
      Passes signer.client.stream (signer.share turns).2.client.stream sent received ∧
      Asks (turns.map fun turn => signer.request turn.2) sent asked := by
  rw [client_share]
  exact Client.asks_of_run hunbroken _

omit [ByteStream σ] [VisibleTraffic σ] in
/-- Each request that the agent reads is one to sign with the key for one of the dates. -/
theorem read_of_asks {turns : List (ι × String)} {sent : Bytes} {asked : List Request}
    (h : Asks (turns.map fun turn => signer.request turn.2) sent asked) :
    ∀ body ∈ (Wire.cutFields sent).1, ∃ turn ∈ turns, ReadRequest.read? body =
      some (.sign signer.key.keyBlob (Utf8.encode ("date: " ++ turn.2)) 0) := by
  intro body hbody
  have hread : ReadRequest.read? body ∈ asked.map fun request => some request.seen :=
    h.read ▸ List.mem_map_of_mem hbody
  obtain ⟨request, hrequest, hseen⟩ := List.mem_map.mp hread
  obtain ⟨hcall, -⟩ := List.mem_filter.mp (h.inOrder.subset hrequest)
  obtain ⟨turn, hturn, rfl⟩ := List.mem_map.mp hcall
  exact ⟨turn, hturn, hseen.symm⟩

end Requests

end AgentSigner

/-- **The first key that is named signs.** Let an agent list its keys. A signer is made for the first
one whose fingerprint the caller's text names, and there is none, with an error that holds the text
itself, exactly if the text names no key. Up to then the request for the list is all that was sent.
Whatever the signer is asked to sign for from then on, the agent reads nothing but requests to sign
with that key, without flags: one for each date whose request fits a frame, in their order, as far
as the connection holds. -/
theorem first_named_key_signs {σ : Type} [ByteStream σ] [VisibleTraffic σ]
    {connect : String → Except IoFault σ} {socket : String} {stream : σ}
    {keys : List Agent.Identity} (hconnect : connect socket = .ok stream)
    (hkeys : (Client.ofStream stream).listIdentities.1 = .ok keys) (keyName account : String)
    (user : Option String) :
    let made := (AgentSigner.make connect (some socket) keyName account user).value
    (∀ signer, made.1 = .ok signer ↔
      ∃ before key after, keys = before ++ key :: after ∧
        (∀ earlier ∈ before, earlier.fingerprint.isNamedBy keyName = false) ∧
        key.fingerprint.isNamedBy keyName = true ∧
        signer = ⟨(Client.ofStream stream).listIdentities.2, key,
          ⟨KeyId.make account user key.fingerprint, .rsaSha1⟩⟩) ∧
    (∀ e, made.1 = .error e ↔
      e = .keyNotFoundInAgent keyName ∧
        ∀ key ∈ keys, key.fingerprint.isNamedBy keyName = false) ∧
    (∃ client received, made.2 = some client ∧
      Passes stream client.stream [0, 0, 0, 1, 11] received) ∧
    ∀ signer, made.1 = .ok signer → made.2 = some signer.client ∧
      ∀ (ι : Type) (turns : List (ι × String)), ∃ sent received asked,
        Passes signer.client.stream (signer.share turns).2.client.stream sent received ∧
        Asks (turns.map fun turn =>
          .sign signer.key.keyBlob (Utf8.encode ("date: " ++ turn.2))) sent asked ∧
        ∀ body ∈ (Wire.cutFields sent).1, ∃ turn ∈ turns, ReadRequest.read? body =
          some (.sign signer.key.keyBlob (Utf8.encode ("date: " ++ turn.2)) 0) := by
  intro made
  have hmade := AgentSigner.value_make_of_listed hconnect hkeys keyName account user
  obtain ⟨hunbroken, received, hpass⟩ := AgentSigner.passes_of_listed hkeys
  refine ⟨fun signer => AgentSigner.make_eq_ok_iff hconnect hkeys,
    fun e => AgentSigner.make_eq_error_iff_of_listed hconnect hkeys,
    ⟨_, received, congrArg Prod.snd hmade, hpass⟩, fun signer hsigner => ?_⟩
  obtain ⟨_, _, _, -, -, -, hown⟩ := (AgentSigner.make_eq_ok_iff hconnect hkeys).mp hsigner
  have hclient : (Client.ofStream stream).listIdentities.2 = signer.client := by rw [hown]
  rw [hclient] at hmade hunbroken
  refine ⟨congrArg Prod.snd hmade, fun ι turns => ?_⟩
  obtain ⟨sent, received, asked, hpass, hasks⟩ := AgentSigner.asks_of_share hunbroken turns
  exact ⟨sent, received, asked, hpass, hasks, AgentSigner.read_of_asks hasks⟩

/-- An agent with two keys under one blob and one under another, which then goes away in the middle
of its reply to a request. -/
def twinKeys : MemoryStream :=
  ⟨Wire.field (listReplyType :: (Wire.word 3 ++ Wire.field [9] ++ Wire.field [] ++
      Wire.field [7] ++ Wire.field (Utf8.encode "first") ++
      Wire.field [7] ++ Wire.field (Utf8.encode "second"))) ++ [0, 0, 0, 9, signReplyType],
    [], none, .brokenPipe, none⟩

theorem first_named_key_signs_twin :
    ∃ signer, (AgentSigner.make (fun _ => .ok twinKeys) (some "/s")
        " MD5:89:E7:4E:64:0B:8C:46:25:7A:29:DE:06:16:79:4D:5D" "acct" none).value.1 = .ok signer ∧
      signer.key = ⟨[7], "first"⟩ ∧
      ∃ sent received asked,
        Passes signer.client.stream (signer.share [((), "d"), ((), "e")]).2.client.stream sent
          received ∧
        Asks [.sign [7] (Utf8.encode "date: d"), .sign [7] (Utf8.encode "date: e")] sent asked := by
  have hkeys : (Client.ofStream twinKeys).listIdentities.1 =
      .ok [⟨[9], ""⟩, ⟨[7], "first"⟩, ⟨[7], "second"⟩] := by decide +kernel
  have hnamed : (Fingerprint.ofBlob [7]).isNamedBy
      " MD5:89:E7:4E:64:0B:8C:46:25:7A:29:DE:06:16:79:4D:5D" = true := by decide +kernel
  have hother : ∀ earlier ∈ [(⟨[9], ""⟩ : Agent.Identity)], earlier.fingerprint.isNamedBy
      " MD5:89:E7:4E:64:0B:8C:46:25:7A:29:DE:06:16:79:4D:5D" = false := by decide +kernel
  obtain ⟨hmade, -, -, hsigns⟩ := @first_named_key_signs _ _ _ (fun _ => .ok twinKeys)
    "/s" _ _ rfl hkeys " MD5:89:E7:4E:64:0B:8C:46:25:7A:29:DE:06:16:79:4D:5D" "acct" none
  have hfirst := (hmade _).mpr ⟨[⟨[9], ""⟩], ⟨[7], "first"⟩, [⟨[7], "second"⟩], rfl, hother, hnamed,
    rfl⟩
  obtain ⟨-, hturns⟩ := hsigns _ hfirst
  obtain ⟨sent, received, asked, hpass, hasks, -⟩ := hturns Unit [((), "d"), ((), "e")]
  exact ⟨_, hfirst, rfl, sent, received, asked, hpass, hasks⟩

end RequestSigning
