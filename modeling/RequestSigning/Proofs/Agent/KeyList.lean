import RequestSigning.Proofs.Agent.Replies

/-!
# The keys that an agent lists

The body of a list of keys is its type, the number of keys, and for each key its blob and its
comment as fields (`keysReply`). Reading goes from one key to the next (`KeyReading.Step`) until all
are read or one is not there; what a run of steps has read is told by the bytes it has used up
(`KeyReading.run_iff`). From this follow both halves of `keys_listed_iff`: bodies of that form and
no others give a list, which holds what the fields hold, and no number of keys makes the reading go
on behind the last one that is there.
-/

namespace RequestSigning.Agent

/-! ### Written keys -/

/-- The blob and the comment of each key, one field behind the other. -/
def keyFields (keys : List (Bytes × Bytes)) : Bytes :=
  keys.flatMap fun key => Wire.field key.1 ++ Wire.field key.2

/-- The **body that lists keys**, given the blob and the comment of each, and what is behind them. -/
def keysReply (keys : List (Bytes × Bytes)) (behind : Bytes) : Bytes :=
  listReplyType :: (Wire.word keys.length ++ keyFields keys ++ behind)

/-- The key with a blob and a comment. -/
def Identity.ofFields (key : Bytes × Bytes) : Identity :=
  ⟨key.1, Utf8.decodeLossy key.2⟩

/-- A key is **within** a bound if neither its blob nor its comment is longer. -/
def KeyWithin (bound : Nat) (key : Bytes × Bytes) : Prop :=
  key.1.length ≤ bound ∧ key.2.length ≤ bound

@[simp] theorem keyFields_nil : keyFields [] = [] := rfl

theorem keyFields_cons (key : Bytes × Bytes) (keys : List (Bytes × Bytes)) :
    keyFields (key :: keys) = Wire.field key.1 ++ Wire.field key.2 ++ keyFields keys := rfl

theorem keyFields_append (keys more : List (Bytes × Bytes)) :
    keyFields (keys ++ more) = keyFields keys ++ keyFields more :=
  List.flatMap_append

/-- Each key takes eight bytes and those of its fields. -/
theorem length_keyFields_cons (key : Bytes × Bytes) (keys : List (Bytes × Bytes)) :
    (keyFields (key :: keys)).length =
      8 + key.1.length + key.2.length + (keyFields keys).length := by
  rw [keyFields_cons, List.length_append, List.length_append, Wire.length_field, Wire.length_field]
  omega

theorem length_le_length_keyFields (keys : List (Bytes × Bytes)) :
    8 * keys.length ≤ (keyFields keys).length := by
  induction keys with
  | nil => simp
  | cons key keys ih =>
    rw [length_keyFields_cons, List.length_cons]
    omega

theorem keyWithin_of_length {bound : Nat} {keys : List (Bytes × Bytes)}
    (h : (keyFields keys).length ≤ bound) : ∀ key ∈ keys, KeyWithin bound key := by
  induction keys with
  | nil => exact List.forall_mem_nil _
  | cons key keys ih =>
    rw [length_keyFields_cons] at h
    exact List.forall_mem_cons.mpr ⟨⟨by omega, by omega⟩, ih (by omega)⟩

/-- **Keys are told apart.** Where the fields of some keys begin as those of fewer, the fewer are
the first of them, and the others' fields follow. -/
theorem keyFields_append_eq {few many : List (Bytes × Bytes)} {behind rest : Bytes}
    (hfew : ∀ key ∈ few, KeyWithin (2 ^ 32 - 1) key)
    (hmany : ∀ key ∈ many, KeyWithin (2 ^ 32 - 1) key) (hlength : few.length ≤ many.length)
    (h : keyFields few ++ behind = keyFields many ++ rest) :
    ∃ more, many = few ++ more ∧ behind = keyFields more ++ rest := by
  induction few generalizing many with
  | nil => exact ⟨many, rfl, h⟩
  | cons key few ih =>
    cases many with
    | nil => simp at hlength
    | cons other many =>
      obtain ⟨⟨hblob, hcomment⟩, hfew⟩ := List.forall_mem_cons.mp hfew
      obtain ⟨⟨hotherBlob, hotherComment⟩, hmany⟩ := List.forall_mem_cons.mp hmany
      rw [keyFields_cons, keyFields_cons] at h
      simp only [List.append_assoc] at h
      obtain ⟨hfirst, h⟩ := Wire.field_append_injective (by omega) (by omega) h
      obtain ⟨hsecond, h⟩ := Wire.field_append_injective (by omega) (by omega) h
      obtain ⟨more, rfl, hbehind⟩ := ih hfew hmany (by simpa using hlength) h
      exact ⟨more, by rw [Prod.ext hfirst hsecond, List.cons_append], hbehind⟩

/-! ### Reading key by key -/

/-- A key is read where its two fields are there. -/
theorem readIdentity_eq_ok_iff {bytes rest : Bytes} {identity : Identity} :
    readIdentity bytes = .ok (identity, rest) ↔
      ∃ key, KeyWithin Wire.maxField key ∧
        bytes = Wire.field key.1 ++ (Wire.field key.2 ++ rest) ∧ identity = .ofFields key := by
  rw [readIdentity, Wire.readTwoFields_eq_ok_iff
    (f := fun blob comment => (⟨blob, Utf8.decodeLossy comment⟩ : Identity))]
  simp only [Prod.exists, KeyWithin, Identity.ofFields, and_assoc]

/-- Where the **reading of keys** stands: how many are still to be read, those that were read, the
latest first, and the bytes ahead. -/
structure KeyReading where
  left : Nat
  read : List Identity
  ahead : Bytes

namespace KeyReading

/-- What reading gives from here on. -/
def result (reading : KeyReading) : Except Wire.Fault (List Identity) :=
  readIdentities reading.left reading.read reading.ahead

/-- One **step** reads the next key. -/
inductive Step : KeyReading → KeyReading → Prop
  | next {left : Nat} {read : List Identity} {ahead rest : Bytes} {identity : Identity}
      (h : readIdentity ahead = .ok (identity, rest)) :
      Step ⟨left + 1, read, ahead⟩ ⟨left, identity :: read, rest⟩

/-- Steps one after the other. -/
abbrev Run : KeyReading → KeyReading → Prop :=
  Relation.ReflTransGen Step

/-- Reading **ends**: with the keys when all are read, or with the fault of the next one. -/
inductive Ends (reading : KeyReading) : Except Wire.Fault (List Identity) → Prop
  | all (h : reading.left = 0) : Ends reading (.ok reading.read.reverse)
  | fault {fault : Wire.Fault} (hleft : 0 < reading.left)
      (h : readIdentity reading.ahead = .error fault) : Ends reading (.error fault)

variable {before after : KeyReading}

/-- A step leaves the result of the reading as it is. -/
theorem Step.result_eq (h : Step before after) : before.result = after.result := by
  obtain ⟨h⟩ := h
  simp only [result, readIdentities, h]

theorem Run.result_eq (h : Run before after) : before.result = after.result := by
  induction h with
  | refl => rfl
  | tail _ hstep ih => rw [ih, hstep.result_eq]

/-- Every reading runs to an end, and that is its result. -/
theorem exists_run (reading : KeyReading) :
    ∃ final, Run reading final ∧ final.Ends reading.result := by
  obtain ⟨left, read, ahead⟩ := reading
  induction left generalizing read ahead with
  | zero => exact ⟨_, .refl, .all rfl⟩
  | succ left ih =>
    cases hnext : readIdentity ahead with
    | error fault =>
      refine ⟨_, .refl, ?_⟩
      have hresult : result ⟨left + 1, read, ahead⟩ = .error fault := by
        simp only [result, readIdentities, hnext]
      exact hresult ▸ .fault (Nat.succ_pos left) hnext
    | ok found =>
      obtain ⟨identity, rest⟩ := found
      obtain ⟨final, hrun, hends⟩ := ih (identity :: read) rest
      have hstep : Step ⟨left + 1, read, ahead⟩ ⟨left, identity :: read, rest⟩ := .next hnext
      exact ⟨final, .head hstep hrun, hstep.result_eq ▸ hends⟩

/-- Keys whose fields are in front are read. -/
theorem run_keyFields {keys : List (Bytes × Bytes)}
    (hkeys : ∀ key ∈ keys, KeyWithin Wire.maxField key) (left : Nat) (read : List Identity)
    (rest : Bytes) :
    Run ⟨left + keys.length, read, keyFields keys ++ rest⟩
      ⟨left, (keys.map .ofFields).reverse ++ read, rest⟩ := by
  induction keys generalizing read with
  | nil => exact .refl
  | cons key keys ih =>
    rw [List.forall_mem_cons] at hkeys
    have hnext : readIdentity (keyFields (key :: keys) ++ rest) =
        .ok (.ofFields key, keyFields keys ++ rest) := by
      refine readIdentity_eq_ok_iff.mpr ⟨key, hkeys.1, ?_, rfl⟩
      rw [keyFields_cons, List.append_assoc, List.append_assoc]
    have hrest := ih hkeys.2 (.ofFields key :: read)
    rw [List.map_cons, List.reverse_cons, List.append_assoc, List.singleton_append]
    exact .head (.next hnext) hrest

/-- **What a run reads.** A run reads keys whose fields are in front, and leaves what is behind. -/
theorem run_iff :
    Run before after ↔
      ∃ keys, (∀ key ∈ keys, KeyWithin Wire.maxField key) ∧
        before.left = after.left + keys.length ∧
        before.ahead = keyFields keys ++ after.ahead ∧
        after.read = (keys.map .ofFields).reverse ++ before.read := by
  constructor
  · intro h
    induction h using Relation.ReflTransGen.head_induction_on with
    | refl => exact ⟨[], List.forall_mem_nil _, rfl, rfl, rfl⟩
    | head hstep _ ih =>
      obtain ⟨hnext⟩ := hstep
      obtain ⟨key, hkey, rfl, rfl⟩ := readIdentity_eq_ok_iff.mp hnext
      obtain ⟨keys, hkeys, hleft, hahead, hread⟩ := ih
      refine ⟨key :: keys, List.forall_mem_cons.mpr ⟨hkey, hkeys⟩, ?_, ?_, ?_⟩
      · rw [List.length_cons, ← Nat.add_assoc, ← hleft]
      · rw [keyFields_cons, List.append_assoc, List.append_assoc, ← hahead]
      · rw [hread, List.map_cons, List.reverse_cons, List.append_assoc, List.singleton_append]
  · rintro ⟨keys, hkeys, hleft, hahead, hread⟩
    obtain ⟨left, read, ahead⟩ := before
    obtain ⟨left', read', ahead'⟩ := after
    dsimp only at hleft hahead hread
    rw [hleft, hahead, hread]
    exact run_keyFields hkeys left' read ahead'

/-- Reading gives a list exactly where as many keys as asked for are in front. -/
theorem result_eq_ok_iff {left : Nat} {ahead : Bytes} {identities : List Identity} :
    result ⟨left, [], ahead⟩ = .ok identities ↔
      ∃ keys behind, (∀ key ∈ keys, KeyWithin Wire.maxField key) ∧ left = keys.length ∧
        ahead = keyFields keys ++ behind ∧ identities = keys.map .ofFields := by
  constructor
  · intro h
    obtain ⟨final, hrun, hends⟩ := exists_run ⟨left, [], ahead⟩
    rw [h] at hends
    obtain ⟨hzero⟩ := hends
    obtain ⟨keys, hkeys, hleft, hahead, hread⟩ := run_iff.mp hrun
    rw [hzero, Nat.zero_add] at hleft
    refine ⟨keys, final.ahead, hkeys, hleft, hahead, ?_⟩
    · rw [hread, List.append_nil, List.reverse_reverse]
  · rintro ⟨keys, behind, hkeys, rfl, rfl, rfl⟩
    have hrun := run_keyFields hkeys 0 [] behind
    rw [Nat.zero_add] at hrun
    rw [hrun.result_eq, List.append_nil, result, readIdentities, List.reverse_reverse]

/-- No run reads more keys than there are eighths of the bytes ahead. -/
theorem Run.length_read_le {left : Nat} {ahead : Bytes} (h : Run ⟨left, [], ahead⟩ after) :
    8 * after.read.length ≤ ahead.length := by
  obtain ⟨keys, -, -, hahead, hread⟩ := run_iff.mp h
  have hlength := length_le_length_keyFields keys
  dsimp only at hahead
  rw [hahead, hread, List.append_nil, List.length_reverse, List.length_map, List.length_append]
  omega

end KeyReading

/-! ### Bodies -/

/-- A body with a number of keys is read key by key. -/
theorem decodeIdentities_counted {count : Nat} (h : count < 2 ^ 32) (ahead : Bytes) :
    decodeIdentities (listReplyType :: (Wire.word count ++ ahead)) =
      malformed (KeyReading.result ⟨count, [], ahead⟩) := by
  rw [decodeIdentities, expectType_self, ok_bind, Wire.readWord_append (Wire.length_word count),
    Wire.toNat_word h]
  rfl

/-- A list is read only from a body with a number of keys. -/
theorem exists_counted_of_decodeIdentities {body : Bytes} {identities : List Identity}
    (h : decodeIdentities body = .ok identities) :
    ∃ count ahead, count < 2 ^ 32 ∧ body = listReplyType :: (Wire.word count ++ ahead) := by
  rw [decodeIdentities, bind_eq_ok_iff] at h
  obtain ⟨fields, htype, h⟩ := h
  rw [bind_eq_ok_iff] at h
  obtain ⟨⟨count, ahead⟩, hcount, -⟩ := h
  rw [malformed, mapError_eq_ok_iff] at hcount
  rw [expectType_eq_ok_iff.mp htype, Wire.readWord_eq_ok hcount]
  exact ⟨count, ahead, Wire.readWord_lt hcount, rfl⟩

/-- **Bodies that list keys.** A list is read exactly from a body of the form `keysReply`. -/
theorem decodeIdentities_eq_ok_iff {body : Bytes} (hmax : body.length ≤ maxReply)
    {identities : List Identity} :
    decodeIdentities body = .ok identities ↔
      ∃ keys behind, body = keysReply keys behind ∧ identities = keys.map .ofFields := by
  constructor
  · intro h
    obtain ⟨count, ahead, hcount, rfl⟩ := exists_counted_of_decodeIdentities h
    rw [decodeIdentities_counted hcount, malformed, mapError_eq_ok_iff,
      KeyReading.result_eq_ok_iff] at h
    obtain ⟨keys, behind, -, rfl, rfl, rfl⟩ := h
    exact ⟨keys, behind, by rw [keysReply, List.append_assoc], rfl⟩
  · rintro ⟨keys, behind, rfl, rfl⟩
    have hlength := length_le_length_keyFields keys
    simp only [keysReply, List.length_cons, List.length_append, Wire.length_word, maxReply] at hmax
    have hkeys : ∀ key ∈ keys, KeyWithin Wire.maxField key :=
      keyWithin_of_length (by rw [Wire.maxField]; omega)
    rw [keysReply, List.append_assoc, decodeIdentities_counted (by omega), malformed,
      mapError_eq_ok_iff, KeyReading.result_eq_ok_iff]
    exact ⟨keys, behind, hkeys, rfl, rfl, rfl⟩

/-- A body of a length within the bounds has no key longer than a field can be. -/
theorem keyWithin_of_keysReply {keys : List (Bytes × Bytes)} {behind : Bytes}
    (hmax : (keysReply keys behind).length ≤ maxReply) :
    keys.length < 2 ^ 32 ∧ ∀ key ∈ keys, KeyWithin (2 ^ 32 - 1) key := by
  have hlength := length_le_length_keyFields keys
  simp only [keysReply, List.length_cons, List.length_append, maxReply] at hmax
  exact ⟨by omega, keyWithin_of_length (by omega)⟩

/-- A body that lists keys goes on with their fields behind the number of them. -/
theorem keysReply_append_eq {keys : List (Bytes × Bytes)} {behind missing ahead : Bytes}
    {count : Nat}
    (hkeys : keys.length < 2 ^ 32) (hcount : count < 2 ^ 32)
    (h : keysReply keys behind ++ missing = listReplyType :: (Wire.word count ++ ahead)) :
    keys.length = count ∧ keyFields keys ++ (behind ++ missing) = ahead := by
  simp only [keysReply, List.cons_append, List.append_assoc, List.cons.injEq, true_and] at h
  obtain ⟨hword, hahead⟩ :=
    List.append_inj h (by rw [Wire.length_word, Wire.length_word])
  refine ⟨?_, hahead⟩
  rw [← Wire.toNat_word hkeys, hword, Wire.toNat_word hcount]

/-- A body that is cut off before the end of its last key lists no keys. -/
theorem ne_keysReply_of_cut {body : Bytes} (hmax : body.length ≤ maxReply)
    {keys : List (Bytes × Bytes)} (hcount : keys.length < 2 ^ 32)
    (hkeys : ∀ key ∈ keys, KeyWithin (2 ^ 32 - 1) key) (hcut : body <+: keysReply keys [])
    (hne : body ≠ keysReply keys []) (others : List (Bytes × Bytes)) (behind : Bytes) :
    body ≠ keysReply others behind := by
  rintro rfl
  obtain ⟨missing, hmissing⟩ := hcut
  obtain ⟨hothersCount, hothers⟩ := keyWithin_of_keysReply hmax
  have hwhole : keysReply keys [] = listReplyType :: (Wire.word keys.length ++ keyFields keys) := by
    rw [keysReply, List.append_nil]
  obtain ⟨hlength, hfields⟩ := keysReply_append_eq hothersCount hcount (hmissing.trans hwhole)
  rw [← List.append_nil (keyFields keys)] at hfields
  obtain ⟨more, rfl, hmore⟩ := keyFields_append_eq hothers hkeys hlength.le hfields
  -- as many keys as in the whole body leave nothing for the part that is missing
  obtain rfl : more = [] := by simpa using hlength
  rw [keyFields_nil, List.append_nil, List.append_eq_nil_iff] at hmore
  rw [List.append_nil, hmore.1] at hne
  exact hne rfl

/-- A body with a number above that of its keys lists no keys. -/
theorem ne_keysReply_of_count {count : Nat} {keys : List (Bytes × Bytes)} {behind : Bytes}
    (hmax : (listReplyType :: (Wire.word count ++ (keyFields keys ++ behind))).length ≤ maxReply)
    (habove : keys.length < count) (hcount : count < 2 ^ 32)
    (hbehind : ∀ key rest, behind ≠ keyFields [key] ++ rest) (others : List (Bytes × Bytes))
    (rest : Bytes) :
    listReplyType :: (Wire.word count ++ (keyFields keys ++ behind)) ≠ keysReply others rest := by
  intro h
  have hkeys : ∀ key ∈ keys, KeyWithin (2 ^ 32 - 1) key := by
    simp only [List.length_cons, List.length_append, maxReply] at hmax
    exact keyWithin_of_length (by omega)
  obtain ⟨hothersCount, hothers⟩ := keyWithin_of_keysReply (h ▸ hmax)
  have hsame : keysReply others rest ++ [] =
      listReplyType :: (Wire.word count ++ (keyFields keys ++ behind)) := by
    rw [List.append_nil, h]
  obtain ⟨rfl, hfields⟩ := keysReply_append_eq hothersCount hcount hsame
  obtain ⟨more, rfl, hmore⟩ := keyFields_append_eq hkeys hothers habove.le hfields.symm
  cases more with
  | nil => simp at habove
  | cons key more =>
    rw [← List.singleton_append, keyFields_append, List.append_assoc] at hmore
    exact hbehind key _ hmore

/-! ### Lists of keys -/

/-- **The keys listed.** Let a client be delivered a body of a length within the bounds in reply to
its request for the keys. It gives a list exactly if the body is the type of a list, the number of
keys, and the blob and the comment of each, whatever stands behind; and then the list has these
blobs, and the comments as text, in this order. From every other body it gives a fault of the
protocol: from one that is cut off before the end of its last key, and from one with a number above
that of the keys that are there. Whatever the number is, the reading comes to its end with no more
keys read than there are eighths of the body. -/
theorem keys_listed_iff {σ : Type} [ByteStream σ] {client : Client σ} {body : Bytes}
    (hdelivered : client.Delivered .list body) (hbody : 0 < body.length ∧ body.length ≤ 262144) :
    (∀ identities, client.listIdentities.1 = .ok identities ↔
      ∃ keys behind, body = keysReply keys behind ∧
        identities = keys.map fun key => ⟨key.1, Utf8.decodeLossy key.2⟩) ∧
    ((∀ keys behind, body ≠ keysReply keys behind) →
      ∃ fault, client.listIdentities.1 = .error (.agentProtocol fault)) ∧
    (∀ keys, keys.length < 2 ^ 32 → (∀ key ∈ keys, KeyWithin (2 ^ 32 - 1) key) →
      body <+: keysReply keys [] → body ≠ keysReply keys [] →
      ∃ fault, client.listIdentities.1 = .error (.agentProtocol fault)) ∧
    (∀ count keys behind, keys.length < count → count < 2 ^ 32 →
      (∀ key rest, behind ≠ keyFields [key] ++ rest) →
      body = listReplyType :: (Wire.word count ++ (keyFields keys ++ behind)) →
      ∃ fault, client.listIdentities.1 = .error (.agentProtocol fault)) ∧
    ∀ count ahead, count < 2 ^ 32 → body = listReplyType :: (Wire.word count ++ ahead) →
      ∃ final result, KeyReading.Run ⟨count, [], ahead⟩ final ∧ final.Ends result ∧
        client.listIdentities.1 = (malformed result).mapError .agentProtocol ∧
        8 * final.read.length ≤ body.length := by
  have hlisted := Client.listIdentities_of_delivered hdelivered hbody
  have hother (h : ∀ keys behind, body ≠ keysReply keys behind) :
      ∃ fault, client.listIdentities.1 = .error (.agentProtocol fault) := by
    rw [hlisted]
    cases hdecode : decodeIdentities body with
    | error fault => exact ⟨fault, rfl⟩
    | ok identities =>
      obtain ⟨keys, behind, hform, -⟩ := (decodeIdentities_eq_ok_iff hbody.2).mp hdecode
      exact absurd hform (h keys behind)
  refine ⟨fun identities => ?_, hother, fun keys hcount hkeys hcut hne =>
    hother (ne_keysReply_of_cut hbody.2 hcount hkeys hcut hne), ?_, ?_⟩
  · rw [hlisted, mapError_eq_ok_iff]
    exact decodeIdentities_eq_ok_iff hbody.2
  · rintro count keys behind habove hcount hbehind rfl
    exact hother (ne_keysReply_of_count hbody.2 habove hcount hbehind)
  · rintro count ahead hcount rfl
    obtain ⟨final, hrun, hends⟩ := KeyReading.exists_run ⟨count, [], ahead⟩
    refine ⟨final, _, hrun, hends, ?_, hrun.length_read_le.trans ?_⟩
    · rw [hlisted, decodeIdentities_counted hcount]
    · rw [List.length_cons, List.length_append]
      omega

/-- Two keys, one without a comment and one with a comment that is not UTF-8, and a byte behind. -/
def twoKeys : Bytes :=
  keysReply [([7], []), ([8, 9], [0x61, 0xFF])] [3]

theorem keys_listed_two :
    (Client.ofStream (MemoryStream.serving [twoKeys])).listIdentities.1 =
        .ok [⟨[7], ""⟩, ⟨[8, 9], "a\uFFFD"⟩] ∧
      ∃ fault, (Client.ofStream (MemoryStream.serving [twoKeys.take 20])).listIdentities.1 =
        .error (.agentProtocol fault) := by
  have hdelivered (body : Bytes) :
      (Client.ofStream (MemoryStream.serving [body])).Delivered .list body :=
    (Client.served_serving [body]).delivered (by decide)
  obtain ⟨hlisted, -⟩ := keys_listed_iff (hdelivered twoKeys) (by decide)
  obtain ⟨-, -, hcut, -⟩ := keys_listed_iff (hdelivered (twoKeys.take 20)) (by decide)
  refine ⟨(hlisted _).mpr ⟨_, _, rfl, by decide +kernel⟩, hcut [([7], []), ([8, 9], [0x61, 0xFF])]
    (by decide) (by simp [KeyWithin]) (by decide) (by decide)⟩

end RequestSigning.Agent
