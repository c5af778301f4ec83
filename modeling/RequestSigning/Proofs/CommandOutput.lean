import RequestSigning.Proofs.CommandStages
import RequestSigning.Proofs.DotenvReferences
import RequestSigning.Proofs.EcdsaTexts

/-!
# What a run prints

A run either prints something and succeeds, or prints nothing and fails where one of its stages does.
What it prints is decided without the log: `Command.run_all_or_nothing` compares a run with another
one that differs in `--verbose`, in the rules of the log, in the time and in the random numbers. The
two leave the same exit code and output, as long as the file of variables does not refer to the rules
of the log and no key signs that needs random numbers (`PrivateKey.Drawless`). Where the file does
refer to them they can show, as on the host of `Command.run_depends_on_rules`.
-/

namespace RequestSigning

open Agent

/-! ### Signing without random numbers -/

/-- Whether a key signs without random numbers. Only keys on P-521 do not. -/
def PrivateKey.Drawless : PrivateKey → Prop
  | .rsa _ => True
  | .ecdsa key => key.curve ≠ .p521

/-- A key that takes no nonce signs the same on every draw. -/
theorem PrivateKey.Drawless.sign {key : PrivateKey} (h : key.Drawless) (draw other : Nat)
    (message : Bytes) : key.sign draw message = key.sign other message := by
  cases key with
  | rsa key => rw [sign_rsa, sign_rsa]
  | ecdsa key =>
    have hnonce : ∀ z, Ecdsa.nonce? key z draw = Ecdsa.nonce? key z other := by
      intro z
      rw [Ecdsa.nonce?, Ecdsa.nonce?]
      cases hcurve : key.curve with
      | p256 | p384 => rfl
      | p521 => exact absurd hcurve h
    simp only [PrivateKey.sign, Ecdsa.sign?, hnonce]

namespace LocalSigner

/-- The self-test of such a key comes out the same on every draw. -/
theorem make_of_drawless {key : PrivateKey} (h : key.Drawless) (draw other : Nat)
    (keyName account : String) (user : Option String) :
    make draw keyName key account user = make other keyName key account user := by
  rw [make, make, h.sign draw other]

/-- So does each of its signatures. -/
theorem signText_of_drawless {signer : LocalSigner} (h : signer.key.Drawless) (draw other : Nat)
    (text : String) : signer.signText draw text = signer.signText other text := by
  rw [signText, signText, h.sign draw other]

end LocalSigner

/-! ### Another run -/

variable {σ : Type} {host : Host σ}

section

variable (environment : Environment) (now : Timestamp) (draws : Nat → Nat)

theorem readKey_rerun (path : String) :
    readKey (host.rerun environment now draws) path = readKey host path := rfl

variable [ByteStream σ] {config : Config}

/-- The keys that a configuration signs with are **drawless**. -/
def Config.Drawless (config : Config) (host : Host σ) : Prop :=
  ∀ path key, config.keySource = .file path → KeyAt host path key → key.Drawless

/-- A repetition builds the same signer, since it finds the same files and agents. -/
theorem Config.value_buildSigner_rerun (hkeys : config.Drawless host) :
    (config.buildSigner (host.rerun environment now draws)).value =
      (config.buildSigner host).value := by
  rw [buildSigner, buildSigner]
  cases hsource : config.keySource with
  | file path =>
    have hsigner : (config.keySigner (host.rerun environment now draws) path).value =
        (config.keySigner host path).value := by
      rw [value_keySigner, value_keySigner, readKey_rerun]
      refine bind_congr_ok fun key hkey => ?_
      rw [LocalSigner.make_of_drawless (hkeys path key hsource (readKey_eq_ok_iff.mp hkey))]
    simp only [Logged.value_bind, Logged.value_pure, hsigner]
  | agent socket => rfl

/-- A signer built for such a key, or over an agent, answers the same on every draw. -/
theorem Signer.sign_of_drawless {signer : Signer σ} (hkeys : config.Drawless host)
    (hbuilt : Built config host signer) (draw other : Nat) (date : String) :
    sign draw date signer = sign other date signer := by
  cases hbuilt with
  | @ofKey path bytes key hsource hread hparse hnamed =>
    have hkey : key.Drawless := hkeys path key hsource ⟨bytes, hread, hparse⟩
    have htext : ∀ identity text, LocalSigner.signText ⟨key, identity⟩ draw text =
        LocalSigner.signText ⟨key, identity⟩ other text :=
      fun identity text => LocalSigner.signText_of_drawless hkey draw other text
    simp only [sign, LocalSigner.sign, htext]
  | ofAgent hsource hnamed => rfl

end

namespace Command

variable [ByteStream σ] {overrides : Settings} {task : Task} {environment : Environment}

/-- Whether the keys that a task signs with are **drawless**. -/
def Drawless (host : Host σ) (overrides : Settings) (task : Task) : Prop :=
  task.signs = true → ∀ config, (Settings.load host overrides).value = .ok config →
    config.Drawless host

/-- A task gives the same in another run. -/
theorem chain_rerun (hunread : Settings.Unread host "RUST_LOG")
    (hsame : Environment.SameBut "RUST_LOG" host.environment environment) (now : Timestamp)
    (draws : Nat → Nat) (hdate : task ≠ .header none) (hkeys : Drawless host overrides task) :
    chain (host.rerun environment now draws) overrides task = chain host overrides task := by
  have hload := Settings.value_load_rerun hunread hsame now draws overrides
  cases task with
  | header date =>
    obtain ⟨date, rfl⟩ := Option.ne_none_iff_exists'.mp fun hnone => hdate (congrArg _ hnone)
    rw [chain, chain, hload]
    refine bind_congr_ok fun config hconfig => ?_
    have hdrawless := hkeys rfl config (mapError_eq_ok_iff.mp hconfig)
    rw [Config.value_buildSigner_rerun environment now draws hdrawless]
    refine bind_congr_ok fun signer hsigner => ?_
    have hbuilt := Signer.built_of_buildSigner (mapError_eq_ok_iff.mp hsigner)
    dsimp only [Option.getD_some]
    rw [Signer.sign_of_drawless hdrawless hbuilt _ (host.draws 1)]
  | signRaw data =>
    rw [chain, chain, hload]
    refine bind_congr_ok fun config hconfig => ?_
    have hdrawless := hkeys rfl config (mapError_eq_ok_iff.mp hconfig)
    refine bind_congr_ok fun path hpath => ?_
    rw [readKey_rerun]
    refine bind_congr_ok fun key hkey => ?_
    have hkey := hdrawless path key (keyPath_eq_ok_iff.mp hpath)
      (readKey_eq_ok_iff.mp (mapError_eq_ok_iff.mp hkey))
    rw [LocalSigner.make_of_drawless hkey _ (host.draws 0)]
    refine bind_congr_ok fun signer hsigner => ?_
    obtain ⟨-, rfl⟩ := LocalSigner.make_eq_ok (mapError_eq_ok_iff.mp hsigner)
    rw [LocalSigner.signRaw, LocalSigner.signText_of_drawless hkey _ (host.draws 1)]
    rfl
  | fingerprint file => rfl
  | agentKeys =>
    rw [chain, chain, Settings.value_ofHost_rerun hunread hsame now draws]
    rfl

/-! ### Texts -/

/-- Something is printed even of an empty list of keys. -/
theorem agentKeysText_ne_empty (keys : List Agent.Identity) : agentKeysText keys ≠ "" := by
  rw [agentKeysText]
  cases keys with
  | nil => decide
  | cons key keys => simp [agentKeyLine]

/-- What a task prints is not empty. -/
theorem chain_ne_empty {output : String} (h : chain host overrides task = .ok output) :
    output ≠ "" := by
  cases task with
  | header date =>
    simp only [chain, bind_eq_ok_iff] at h
    obtain ⟨config, -, signer, -, value, -, htext⟩ := h
    obtain rfl := Except.ok.inj htext
    simp [headerText]
  | signRaw data =>
    simp only [chain, bind_eq_ok_iff] at h
    obtain ⟨config, -, path, -, key, -, signer, -, signature, -, htext⟩ := h
    obtain rfl := Except.ok.inj htext
    simp [signatureText]
  | fingerprint file =>
    simp only [chain, bind_eq_ok_iff] at h
    obtain ⟨key, -, htext⟩ := h
    obtain rfl := Except.ok.inj htext
    simp [keyText]
  | agentKeys =>
    simp only [chain, bind_eq_ok_iff] at h
    obtain ⟨socket, -, stream, -, keys, -, htext⟩ := h
    obtain rfl := Except.ok.inj htext
    exact agentKeysText_ne_empty keys

/-! ### Runs -/

section

variable {invocation : Invocation}

/-- A task that succeeds exits with 0 and prints its output. -/
theorem run_of_ok {output : String}
    (h : chain host invocation.overrides invocation.task = .ok output) :
    (invocation.run host).exit = 0 ∧ (invocation.run host).output = output := by
  rw [← outcome_perform] at h
  cases hvalue : (perform host invocation.overrides invocation.task).value with
  | mk outcome client =>
    rw [hvalue] at h
    obtain rfl : outcome = .ok output := h
    simp only [Invocation.run, hvalue, and_self]

/-- A task that fails exits with 1, prints nothing and reports its failure. -/
theorem run_of_error {failure : Failure}
    (h : chain host invocation.overrides invocation.task = .error failure) :
    (invocation.run host).exit = 1 ∧ (invocation.run host).output = "" ∧
      (invocation.run host).report = failure.report := by
  rw [← outcome_perform] at h
  cases hvalue : (perform host invocation.overrides invocation.task).value with
  | mk outcome client =>
    rw [hvalue] at h
    obtain rfl : outcome = .error failure := h
    simp only [Invocation.run, hvalue, and_self]

/-- What a run leaves on the whole is decided by its chain. -/
theorem run_congr {other : Host σ} {otherInvocation : Invocation}
    (h : chain other otherInvocation.overrides otherInvocation.task =
      chain host invocation.overrides invocation.task) :
    (otherInvocation.run other).exit = (invocation.run host).exit ∧
      (otherInvocation.run other).output = (invocation.run host).output := by
  cases hchain : chain host invocation.overrides invocation.task with
  | ok output =>
    obtain ⟨hexit, houtput⟩ := run_of_ok hchain
    obtain ⟨hotherExit, hotherOutput⟩ := run_of_ok (h.trans hchain)
    exact ⟨hotherExit.trans hexit.symm, hotherOutput.trans houtput.symm⟩
  | error failure =>
    obtain ⟨hexit, houtput, -⟩ := run_of_error hchain
    obtain ⟨hotherExit, hotherOutput, -⟩ := run_of_error (h.trans hchain)
    exact ⟨hotherExit.trans hexit.symm, hotherOutput.trans houtput.symm⟩

end

omit [ByteStream σ] in
/-- The settings of a process do not read the rules of the log, unless a reference in the file of
variables does. -/
theorem unread_rules
    (h : ∀ name ∈ Settings.references host, Environment.finds name "RUST_LOG" = false) :
    Settings.Unread host "RUST_LOG" where
  notMem_variables := by decide
  ne_directories := by decide
  noEquals := by decide
  notFound := h

/-- **All or nothing.** A run prints something exactly if it succeeds. Where a stage of its task fails,
it exits with 1, prints nothing and reports that failure, and it fails nowhere else. With
`--verbose` or without, and whatever the rules of the log are, another run on the same files and
agents leaves the same exit code and output, if the date is given, no key signs that needs random
numbers, and no reference in the file of variables finds the rules of the log. -/
theorem run_all_or_nothing (host : Host σ) (invocation : Invocation) :
    ((invocation.run host).output ≠ "" ↔ (invocation.run host).exit = 0) ∧
    (∀ failure, Fails host invocation.overrides invocation.task failure →
      (invocation.run host).exit = 1 ∧ (invocation.run host).output = "" ∧
        (invocation.run host).report = failure.report) ∧
    ((invocation.run host).exit ≠ 0 →
      ∃ failure, Fails host invocation.overrides invocation.task failure) ∧
    ∀ environment now draws verbose,
      Environment.SameBut "RUST_LOG" host.environment environment →
      (∀ name ∈ Settings.references host, Environment.finds name "RUST_LOG" = false) →
      invocation.task ≠ .header none →
      Drawless host invocation.overrides invocation.task →
      (Invocation.run (host.rerun environment now draws)
          { invocation with verbose := verbose }).exit = (invocation.run host).exit ∧
        (Invocation.run (host.rerun environment now draws)
          { invocation with verbose := verbose }).output = (invocation.run host).output := by
  refine ⟨?_, fun failure hfails => ?_, fun hexit => ?_, ?_⟩
  · cases hchain : chain host invocation.overrides invocation.task with
    | ok output =>
      obtain ⟨hexit, houtput⟩ := run_of_ok hchain
      simp [hexit, houtput, chain_ne_empty hchain]
    | error failure =>
      obtain ⟨hexit, houtput, -⟩ := run_of_error hchain
      simp [hexit, houtput]
  · have houtcome := outcome_eq_error_iff.mpr hfails
    rw [outcome_perform] at houtcome
    exact run_of_error houtcome
  · cases hchain : chain host invocation.overrides invocation.task with
    | ok output => exact absurd (run_of_ok hchain).1 hexit
    | error failure =>
      rw [← outcome_perform] at hchain
      exact ⟨failure, outcome_eq_error_iff.mp hchain⟩
  · intro environment now draws verbose hsame hfinds hdate hkeys
    exact run_congr (chain_rerun (unread_rules hfinds) hsame now draws hdate hkeys)

/-! ### Runs on three hosts -/

/-- A header for a date, signed by an agent at `/s`. -/
def agentRun : Invocation :=
  ⟨⟨some "acct", some "u", some " MD5:89:E7:4E:64:0B:8C:46:25:7A:29:DE:06:16:79:4D:5D", none,
    some "/s"⟩, false, .header (some "d")⟩

/-- A host with a key on P-256 in a file at `/k`. -/
def keyHost : Host MemoryStream :=
  { sampleHost with files := ⟨[(["k"], .file (lastKey.text .sec1))]⟩ }

/-- A text, signed with that key. -/
def keyRun : Invocation :=
  ⟨⟨some "acct", none, some (PrivateKey.ecdsa lastKey).fingerprint.display, some "/k", none⟩, false,
    .signRaw "text"⟩

/-- The key of this run is an RSA key. -/
theorem drawless_keyRun : Drawless keyHost keyRun.overrides keyRun.task := by
  have hload : (Settings.load keyHost keyRun.overrides).value =
      .ok ⟨"acct", none, (PrivateKey.ecdsa lastKey).fingerprint.display, .file "/k"⟩ := rfl
  intro _ config hconfig path key hsource hkey
  rw [hload] at hconfig
  obtain rfl := Except.ok.inj hconfig
  obtain rfl := KeySource.file.inj hsource
  obtain ⟨bytes, hread, hparse⟩ := hkey
  obtain rfl : lastKey.text .sec1 = bytes := Except.ok.inj hread
  rw [(lastKey.writtenAs_text .sec1 (by decide)).parse, if_neg fun hboth => nomatch hboth.1] at hparse
  obtain rfl := Except.ok.inj hparse
  exact fun hcurve => nomatch hcurve

theorem run_all_or_nothing_sample :
    (agentRun.run sampleHost).exit = 0 ∧ (agentRun.run sampleHost).output ≠ "" ∧
      (agentRun.run keyHost).exit = 1 ∧ (agentRun.run keyHost).output = "" ∧
      let other := keyHost.rerun ⟨[("RUST_LOG", Utf8.encode "trace")]⟩ keyHost.now fun _ => 1
      (Invocation.run other ⟨keyRun.overrides, true, keyRun.task⟩).exit =
          (keyRun.run keyHost).exit ∧
        (Invocation.run other ⟨keyRun.overrides, true, keyRun.task⟩).output =
          (keyRun.run keyHost).output := by
  have hexit : (agentRun.run sampleHost).exit = 0 := by decide +kernel
  have hload : (Settings.load keyHost agentRun.overrides).value =
      .ok ⟨"acct", some "u", " MD5:89:E7:4E:64:0B:8C:46:25:7A:29:DE:06:16:79:4D:5D",
        .agent (some "/s")⟩ := rfl
  -- there is nothing at the path of the agent's socket
  have hfails : Fails keyHost agentRun.overrides agentRun.task
      (.during .createSigner (.agentConnect "/s" .notFound)) :=
    .dateSigner hload (.ofAgent rfl (.unconnected rfl))
  obtain ⟨hprints, -, -, -⟩ := run_all_or_nothing sampleHost agentRun
  obtain ⟨-, hstages, -, -⟩ := run_all_or_nothing keyHost agentRun
  obtain ⟨-, -, -, hsame⟩ := run_all_or_nothing keyHost keyRun
  obtain ⟨hone, hempty, -⟩ := hstages _ hfails
  exact ⟨hexit, hprints.mpr hexit, hone, hempty,
    hsame _ _ _ true rfl (by decide +kernel) (by decide) drawless_keyRun⟩

/-- An agent without keys at `agent.sock`, and a file of variables that looks for the agent where the
rules of the log say. -/
def referringHost : Host MemoryStream :=
  { sampleHost with
    environment := ⟨[("RUST_LOG", Utf8.encode "agent.sock")]⟩
    files := ⟨[([".env"], .file (Utf8.encode "SSH_AUTH_SOCK=$\x7bRUST_LOG\x7d\n")),
      (["agent.sock"], .socket
        ⟨Wire.field [listReplyType, 0, 0, 0, 0], [], none, .brokenPipe, none⟩)]⟩ }

/-- **The rules of the log can show.** Without them the same command fails on that host. -/
theorem run_depends_on_rules :
    Environment.SameBut "RUST_LOG" referringHost.environment ⟨[]⟩ ∧
      let invocation : Invocation := ⟨.empty, false, .agentKeys⟩
      let other := referringHost.rerun ⟨[]⟩ referringHost.now referringHost.draws
      ((invocation.run referringHost).exit = 0 ∧
        (invocation.run referringHost).output = "The agent has no keys.\n") ∧
      (invocation.run other).exit = 1 ∧ (invocation.run other).output = "" := by
  refine ⟨rfl, ?_⟩
  decide +kernel

end Command

end RequestSigning
