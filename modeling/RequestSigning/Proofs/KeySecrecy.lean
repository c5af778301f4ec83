import RequestSigning.Proofs.KeyLabels
import RequestSigning.Proofs.SignatureSecrecy
import RequestSigning.Proofs.TwinKeys

/-!
# Runs with another private key

Two runs of one task are compared on hosts that differ in one file, with the texts of twins in it
(`TwinTexts`): keys with one public half, under one label. The twins are read alike, make signers
alike, and sign texts to signatures of one length, and nothing else of a key is logged. So a task that
succeeds both times logs the same (`Command.alikeLogs_perform`).

The comparison is of two runs, since secrecy is no property of one: that the log does not depend on
the private numbers is said by changing them. Failures are left out on purpose. A key whose private
numbers are wrong may fail where its twin signs, and that it failed is told.
-/

namespace RequestSigning

open Agent

variable {σ α β ε : Type}

/-! ### A file with another key -/

/-- Contents that are the same, but in one file. -/
def SameBut (place : List String) (bytes changed : Bytes) (names : List String)
    (found otherFound : Bytes) : Prop :=
  (names = place ∧ found = bytes ∧ otherFound = changed) ∨ (names ≠ place ∧ otherFound = found)

/-- Where one file differs, the same is read, or the two contents of that file are. -/
theorem Host.Alike.read_cases {host other : Host σ} {place : List String} {bytes changed : Bytes}
    {linked : σ → σ → Prop} (h : host.Alike (SameBut place bytes changed) linked other)
    (path : String) :
    other.read path = host.read path ∨
      (host.read path = .ok bytes ∧ other.read path = .ok changed) := by
  have hread := h.read path
  generalize host.read path = found, other.read path = otherFound at hread ⊢
  obtain cause | hbytes := hread
  · exact .inl rfl
  · obtain ⟨-, rfl, rfl⟩ | ⟨-, rfl⟩ := hbytes
    · exact .inr ⟨rfl, rfl⟩
    · exact .inl rfl

/-- Stages that log the same where both give a result, and give related ones. -/
def Logged.AlikeIfOk (R : α → β → Prop) (x : Logged (Except ε α)) (y : Logged (Except ε β)) :
    Prop :=
  ∀ a b, x.value = .ok a → y.value = .ok b → y.events = x.events ∧ R a b

/-- Two texts of keys hold **twins** under one label. -/
structure TwinTexts (bytes changed : Bytes) (key other : PrivateKey) : Prop where
  parse : PrivateKey.parse bytes = .ok key
  parse_changed : PrivateKey.parse changed = .ok other
  label : (Utf8.decode? changed).bind PrivateKey.label? = (Utf8.decode? bytes).bind PrivateKey.label?
  drawless : key.Drawless
  blob : other.blob = key.blob

section Twins

variable {bytes changed : Bytes} {key otherKey : PrivateKey}

namespace TwinTexts

variable (h : TwinTexts bytes changed key otherKey)
include h

/-- Keys with one blob are twins. -/
theorem twins : key.Twins otherKey :=
  PrivateKey.twins_of_blob h.blob

/-- Twins under one label are read in one encoding. -/
theorem parseWith : ∃ encoding, PrivateKey.parseWith bytes = .ok (encoding, key) ∧
    PrivateKey.parseWith changed = .ok (encoding, otherKey) := by
  obtain ⟨encoding, hencoding, hparse⟩ := PrivateKey.parseWith_of_parse h.parse
  obtain ⟨otherEncoding, hother, hotherParse⟩ := PrivateKey.parseWith_of_parse h.parse_changed
  have hsame : PrivateKey.encodingOf changed = .ok encoding := by
    rw [PrivateKey.encodingOf_eq_ok_iff, h.label, ← PrivateKey.encodingOf_eq_ok_iff, hencoding]
  obtain rfl := Except.ok.inj (hother.symm.trans hsame)
  exact ⟨otherEncoding, hparse, hotherParse⟩

/-- Both texts are parsed, and the same is logged of it: nothing but the public half. -/
theorem parseKey : (parseKey bytes).value = .ok key ∧ (parseKey changed).value = .ok otherKey ∧
    (parseKey changed).events = (parseKey bytes).events := by
  obtain ⟨encoding, hparse, hother⟩ := h.parseWith
  rw [RequestSigning.parseKey, RequestSigning.parseKey, hparse, hother]
  dsimp only
  rw [h.twins.kind]
  exact ⟨rfl, rfl, rfl⟩

end TwinTexts

namespace LocalSigner

/-- What is logged of a new signer: its fingerprint, its algorithm and the account. -/
theorem events_make {draw : Nat} {keyName account : String} {user : Option String}
    {signer : LocalSigner} (h : (make draw keyName key account user).value = .ok signer) :
    (make draw keyName key account user).events =
      [⟨.debug, logTarget, "created private key signer",
        [("fingerprint", key.fingerprint.display), ("algorithm", key.algorithm.name),
          ("account", Text.quote account)]⟩] := by
  rw [make] at h ⊢
  by_cases hnamed : key.fingerprint.isNamedBy keyName = true
  · simp only [hnamed, not_true_eq_false, if_false] at h ⊢
    cases htrial : key.sign draw (Utf8.encode selfTestText) with
    | error fault => simp [htrial] at h
    | ok signature => rfl
  · simp [hnamed] at h

/-- What is logged of a signature: its algorithm and its length. -/
theorem events_signText {draw : Nat} {text : String} {signer : LocalSigner}
    {signature : Bytes} (h : signer.key.sign draw (Utf8.encode text) = .ok signature) :
    (signer.signText draw text).events =
      [⟨.trace, logTarget, "signed",
        [("algorithm", signer.identity.algorithm.name), ("len", toString signature.length)]⟩] := by
  rw [signText, h]
  rfl

theorem events_sign (signer : LocalSigner) (draw : Nat) (date : String) :
    (signer.sign draw date).events = (signer.signText draw (signingString date)).events :=
  List.append_nil _

theorem events_signRaw (signer : LocalSigner) (draw : Nat) (text : String) :
    (signer.signRaw draw text).events = (signer.signText draw text).events :=
  List.append_nil _

/-- Signers that hold **twins**, and name one algorithm. -/
structure Twins (signer other : LocalSigner) : Prop where
  key : signer.key.Twins other.key
  drawless : signer.key.Drawless
  algorithm : other.identity.algorithm = signer.identity.algorithm

/-- Signers for twins log the same on their making. -/
theorem twins_make {draw otherDraw : Nat} {keyName account : String} {user : Option String}
    (hkey : key.Drawless) (hblob : otherKey.blob = key.blob) :
    Logged.AlikeIfOk Twins (make draw keyName key account user)
      (make otherDraw keyName otherKey account user) := by
  have htwins := PrivateKey.twins_of_blob hblob
  intro signer other hsigner hother
  constructor
  · rw [events_make hsigner, events_make hother, PrivateKey.fingerprint, PrivateKey.fingerprint,
      hblob, htwins.algorithm]
  · obtain ⟨-, rfl⟩ := make_eq_ok hsigner
    obtain ⟨-, rfl⟩ := make_eq_ok hother
    exact ⟨htwins, hkey, htwins.algorithm⟩

/-- Signers with twin keys log the same of a signature. -/
theorem Twins.events_signText {signer other : LocalSigner} (h : signer.Twins other)
    {draw otherDraw : Nat} {text : String} {signature otherSignature : Bytes}
    (hsign : signer.key.sign draw (Utf8.encode text) = .ok signature)
    (hother : other.key.sign otherDraw (Utf8.encode text) = .ok otherSignature) :
    (other.signText otherDraw text).events = (signer.signText draw text).events := by
  rw [LocalSigner.events_signText hsign, LocalSigner.events_signText hother, h.algorithm,
    h.key.length_sign h.drawless hsign hother]

end LocalSigner

variable {host other : Host σ} {config : Config} {path : String}

/-- A key that is read from a file logs what its text does. -/
theorem readKey_of_read (hread : host.read path = .ok bytes) :
    readKey host path = parseKey bytes := by
  rw [readKey, hread]

/-- What is logged of a signer with a key file: what reading the key logs, then what making the
signer does. -/
theorem Config.events_keySigner (hkey : (readKey host path).value = .ok key) :
    (config.keySigner host path).events = (readKey host path).events ++
      (LocalSigner.make (host.draws 0) config.keyId key config.account config.user).events := by
  rw [keySigner, Logged.events_bind, hkey]

/-- The key in a file makes a signer and signs a text, and **logs** these events on the way. -/
inductive Config.KeyLogs (config : Config) (host : Host σ) (path text : String) :
    List LogEvent → Prop
  | intro {signer : LocalSigner} {signature : Bytes}
      (hsigner : (config.keySigner host path).value = .ok signer)
      (hsign : signer.key.sign (host.draws 1) (Utf8.encode text) = .ok signature) :
      KeyLogs config host path text ((config.keySigner host path).events ++
        (signer.signText (host.draws 1) text).events)

/-- A text that is signed leaves no other events than these. -/
theorem Command.keyLogs_signData {data output : String}
    (h : (signData host config path data).value = .ok output) :
    config.KeyLogs host path data (signData host config path data).events := by
  simp only [value_signData, bind_eq_ok_iff, mapError_eq_ok_iff] at h
  obtain ⟨key, hkey, signer, hmake, raw, hraw, -⟩ := h
  obtain ⟨signature, hsign, -⟩ := LocalSigner.signRaw_eq_ok hraw
  have hsigner : (config.keySigner host path).value = .ok signer := by
    rw [Config.value_keySigner, hkey, ok_bind, hmake]
  have hevents : (signData host config path data).events =
      (config.keySigner host path).events ++ (signer.signText (host.draws 1) data).events := by
    rw [signData, Logged.events_bind, hkey, Config.events_keySigner hkey, List.append_assoc]
    dsimp only
    rw [Logged.events_bind, hmake]
    dsimp only
    rw [Logged.events_bind, LocalSigner.events_signRaw, hraw, Logged.events_pure, List.append_nil]
  rw [hevents]
  exact .intro hsigner hsign

/-- A date that is signed leaves no other events than these. -/
theorem Command.keyLogs_signDate [ByteStream σ] {date output : String}
    (hsource : config.keySource = .file path)
    (h : (signDate host config (some date)).value.outcome = .ok output) :
    config.KeyLogs host path (signingString date) (signDate host config (some date)).events := by
  -- building the signer is making the one for the key
  have hbuild : (config.buildSigner host).value =
        ((config.keySigner host path).value.map .ofKey, none) ∧
      (config.buildSigner host).events = (config.keySigner host path).events := by
    rw [Config.buildSigner, hsource]
    exact ⟨rfl, List.append_nil _⟩
  simp only [outcome_signDate, bind_eq_ok_iff, mapError_eq_ok_iff, hbuild.1, Option.getD_some] at h
  obtain ⟨built, hbuilt, value, hvalue, -⟩ := h
  cases hsigner : (config.keySigner host path).value with
  | error e => simp [hsigner, Except.map] at hbuilt
  | ok signer =>
    rw [hsigner] at hbuilt hbuild
    obtain rfl := Except.ok.inj hbuilt
    obtain ⟨signature, hsign, -⟩ := LocalSigner.sign_eq_ok hvalue
    have hevents : (signDate host config (some date)).events =
        (config.keySigner host path).events ++
          (signer.signText (host.draws 1) (signingString date)).events := by
      rw [signDate, Logged.events_bind, hbuild.1, hbuild.2, ← LocalSigner.events_sign]
      dsimp only [Option.getD_some, Except.map]
      rw [Signer.sign, Logged.events_bind, Logged.events_bind, Logged.events_pure,
        Logged.events_pure, List.append_nil, List.append_nil]
    rw [hevents]
    exact .intro hsigner hsign

theorem Command.events_showKey (path : String) :
    (showKey host path).events = (readKey host path).events := by
  rw [showKey, Logged.events_bind]
  cases (readKey host path).value <;> exact List.append_nil _

section Files

variable (h : TwinTexts bytes changed key otherKey) (hread : host.read path = .ok bytes)
  (hother : other.read path = .ok changed)
include h hread hother

/-- Twin keys make signers that log alike, where both are made. -/
theorem Config.twins_keySigner :
    Logged.AlikeIfOk LocalSigner.Twins (config.keySigner host path)
      (config.keySigner other path) := by
  obtain ⟨hkey, hotherKey, hevents⟩ := h.parseKey
  rw [← readKey_of_read hread] at hkey hevents
  rw [← readKey_of_read hother] at hotherKey hevents
  intro signer otherSigner hsigner hotherSigner
  rw [value_keySigner, hkey, ok_bind] at hsigner
  rw [value_keySigner, hotherKey, ok_bind] at hotherSigner
  obtain ⟨hmake, htwins⟩ := LocalSigner.twins_make h.drawless h.blob _ _ hsigner hotherSigner
  exact ⟨by rw [events_keySigner hkey, events_keySigner hotherKey, hevents, hmake], htwins⟩

/-- Twins in a file log the same on signing. -/
theorem Config.KeyLogs.twins {text : String} {events otherEvents : List LogEvent}
    (hlogs : config.KeyLogs host path text events)
    (hotherLogs : config.KeyLogs other path text otherEvents) : otherEvents = events := by
  obtain ⟨hsigner, hsign⟩ := hlogs
  obtain ⟨hotherSigner, hotherSign⟩ := hotherLogs
  obtain ⟨hevents, htwins⟩ := twins_keySigner h hread hother _ _ hsigner hotherSigner
  rw [hevents, htwins.events_signText hsign hotherSign]

/-- The fingerprint of twin keys is shown with the same events. -/
theorem Command.twins_showKey : (showKey other path).events = (showKey host path).events := by
  rw [events_showKey, events_showKey, readKey_of_read hread, readKey_of_read hother]
  exact h.parseKey.2.2

end Files

end Twins

namespace Command

/-- Answers that are logged **alike where both succeed**. -/
def AlikeLogs (x y : Logged (Answer σ)) : Prop :=
  ∀ output otherOutput, x.value.outcome = .ok output → y.value.outcome = .ok otherOutput →
    y.events = x.events

theorem AlikeLogs.of_eq {x y : Logged (Answer σ)} (h : y = x) : AlikeLogs x y :=
  fun _ _ _ _ => by rw [h]

/-- A common first stage keeps logs alike. -/
theorem AlikeLogs.bind_same (x : Logged α) {f g : α → Logged (Answer σ)}
    (h : AlikeLogs (f x.value) (g x.value)) : AlikeLogs (x >>= f) (x >>= g) := by
  intro output otherOutput hok hotherOk
  rw [Logged.events_bind, Logged.events_bind, h output otherOutput hok hotherOk]

/-- Outputs that log alike make answers that log alike. -/
theorem AlikeLogs.plain {x y : Logged (Except Failure String)}
    (h : ∀ output otherOutput, x.value = .ok output → y.value = .ok otherOutput →
      y.events = x.events) :
    AlikeLogs (x >>= fun outcome => pure (Answer.plain outcome : Answer σ))
      (y >>= fun outcome => pure (Answer.plain outcome)) := by
  intro output otherOutput hok hotherOk
  rw [Logged.events_bind, Logged.events_bind, h output otherOutput hok hotherOk]
  rfl

variable [ByteStream σ] {host other : Host σ} {overrides : Settings} {place : List String}
  {bytes changed : Bytes} {key otherKey : PrivateKey}

/-- Where only one file differs, and twins are in it, a task that succeeds both times logs the
same. -/
theorem alikeLogs_perform (h : host.Alike (SameBut place bytes changed) (· = ·) other)
    (hkept : Settings.Kept (SameBut place bytes changed) host)
    (htexts : TwinTexts bytes changed key otherKey) {task : Task} (hdate : task ≠ .header none)
    (hdraws : other.draws = host.draws ∨ Drawless host overrides task) :
    AlikeLogs (perform host overrides task) (perform other overrides task) := by
  have hconnect : other.connect = host.connect := funext h.connect_eq
  have hstages : Stages AlikeLogs host other overrides task :=
    { refl := fun _ => .of_eq rfl
      load := fun f g hnext => by
        rw [Settings.load_of_alike h hkept]
        exact .bind_same _ hnext
      ofHost := fun f g hnext => by
        rw [Settings.ofHost_of_alike h hkept]
        exact .bind_same _ hnext
      signDate := by
        rintro date config rfl hload
        cases hsource : config.keySource with
        | agent socket => exact .of_eq (signDate_congr_of_agent hconnect hsource date)
        | file path =>
          obtain hread | ⟨hread, hother⟩ := h.read_cases path
          · have hkeys := drawsAlike_of_task hdraws rfl hload hsource
            exact .of_eq (signDate_congr_of_key (readKey_congr hread) hkeys hsource date)
          · intro output otherOutput hok hotherOk
            exact Config.KeyLogs.twins htexts hread hother (keyLogs_signDate hsource hok)
              (keyLogs_signDate hsource hotherOk)
      signData := by
        rintro data config path rfl hload hsource
        refine .plain fun output otherOutput hok hotherOk => ?_
        obtain hread | ⟨hread, hother⟩ := h.read_cases path
        · have hkeys := drawsAlike_of_task hdraws rfl hload hsource
          rw [signData_congr (readKey_congr hread) hkeys]
        · exact Config.KeyLogs.twins htexts hread hother (keyLogs_signData hok)
            (keyLogs_signData hotherOk)
      showKey := fun file _ => by
        refine .plain fun _ _ _ _ => ?_
        obtain hread | ⟨hread, hother⟩ := h.read_cases file
        · rw [showKey, showKey, readKey_congr hread]
        · exact twins_showKey htexts hread hother
      showAgentKeys := fun socket => by
        simp only [showAgentKeys, hconnect]
        exact .of_eq rfl }
  exact hstages.perform hdate

end Command

end RequestSigning
