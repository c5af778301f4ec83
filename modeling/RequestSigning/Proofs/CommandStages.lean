import RequestSigning.Command.Run
import RequestSigning.Proofs.SignerFailures

/-!
# Where a run fails

What a task gives is a chain of stages (`Command.chain`), each with its own ways to fail.
`Command.Fails` gathers them for every task. A task gives a failure exactly where one of its stages
fails, and the one that this stage has (`Command.outcome_eq_error_iff`).

The chain is the task without its log (`Command.outcome_perform`), so that its stages can be taken
apart with the lemmas on chains. `Command.Fails` has one constructor for each stage of each task,
with what the earlier stages gave as hypotheses. It is the specification of what a run reports: a
task has at most one failure, and a run that has none prints.
-/

namespace RequestSigning.Command

open Agent

variable {σ : Type} [ByteStream σ] {host : Host σ} {overrides : Settings} {task : Task}
  {failure : Failure}

/-! ### Chains -/

/-- The path of the key file that any text is signed with. -/
def keyPath (config : Config) : Except Failure String :=
  match config.keySource with
  | .agent _ => .error .keyFileNeeded
  | .file path => .ok path

/-- The path of the socket that settings give for an agent. -/
def agentPath (settings : Settings) : Except Failure String :=
  match settings.agentSocket with
  | none => .error (.auth .agentUnavailable)
  | some socket => .ok socket

/-- A task that needs a key file has one exactly if the configuration names it. -/
theorem keyPath_eq_ok_iff {config : Config} {path : String} :
    keyPath config = .ok path ↔ config.keySource = .file path := by
  rw [keyPath]
  cases config.keySource <;> simp

/-- Otherwise the key is with an agent, and the error says that a file is needed. -/
theorem keyPath_eq_error_iff {config : Config} :
    keyPath config = .error failure ↔
      (∃ socket, config.keySource = .agent socket) ∧ .keyFileNeeded = failure := by
  rw [keyPath]
  cases config.keySource <;> simp

theorem agentPath_eq_ok_iff {settings : Settings} {socket : String} :
    agentPath settings = .ok socket ↔ settings.agentSocket = some socket := by
  rw [agentPath]
  cases settings.agentSocket <;> simp

/-- The agent's keys cannot be shown without a socket. -/
theorem agentPath_eq_error_iff {settings : Settings} :
    agentPath settings = .error failure ↔
      settings.agentSocket = none ∧ .auth .agentUnavailable = failure := by
  rw [agentPath]
  cases settings.agentSocket <;> simp

/-- What a task gives, as a **chain** of stages. -/
def chain (host : Host σ) (overrides : Settings) : Task → Except Failure String
  | .header date => do
    let config ← (Settings.load host overrides).value.mapError (.during .load)
    let signer ← (config.buildSigner host).value.1.mapError (.during .createSigner)
    let date := date.getD (httpDate host.now)
    let value ← (Signer.sign (host.draws 1) date signer).value.1.mapError (.during .signDate)
    pure (headerText date value)
  | .signRaw data => do
    let config ← (Settings.load host overrides).value.mapError (.during .load)
    let path ← keyPath config
    let key ← (readKey host path).value.mapError .auth
    let signer ← (LocalSigner.make (host.draws 0) config.keyId key config.account
      config.user).value.mapError (.during .createSigner)
    let signature ← (signer.signRaw (host.draws 1) data).value.mapError (.during .signData)
    pure (signatureText signature)
  | .fingerprint file => do
    let key ← (readKey host file).value.mapError .auth
    pure (keyText key)
  | .agentKeys => do
    let socket ← agentPath (overrides.or (Settings.ofHost host).value)
    let stream ← (host.connect socket).mapError fun cause => .auth (.agentConnect socket cause)
    let keys ← (Client.ofStream stream).listIdentities.1.mapError (.during .listKeys)
    pure (agentKeysText keys)

/-- A header is made in two stages: building the signer, and signing the date. -/
theorem outcome_signDate (config : Config) (date : Option String) :
    (signDate host config date).value.outcome = (do
      let signer ← (config.buildSigner host).value.1.mapError (.during .createSigner)
      let date := date.getD (httpDate host.now)
      let value ← (Signer.sign (host.draws 1) date signer).value.1.mapError (.during .signDate)
      pure (headerText date value)) := by
  rw [signDate, Logged.value_bind]
  obtain ⟨built, client⟩ := (config.buildSigner host).value
  cases built with
  | error e => rfl
  | ok signer =>
    cases hanswer : (Signer.sign (host.draws 1) (date.getD (httpDate host.now)) signer).value with
    | mk answer after =>
      cases answer <;> simp [hanswer, pure, Except.pure]

omit [ByteStream σ] in
/-- A text is signed in three stages: reading the key, building the signer, and signing. -/
theorem value_signData (config : Config) (path data : String) :
    (signData host config path data).value = (do
      let key ← (readKey host path).value.mapError .auth
      let signer ← (LocalSigner.make (host.draws 0) config.keyId key config.account
        config.user).value.mapError (.during .createSigner)
      let signature ← (signer.signRaw (host.draws 1) data).value.mapError (.during .signData)
      pure (signatureText signature)) := by
  rw [signData, Logged.value_bind]
  cases (readKey host path).value with
  | error e => rfl
  | ok key =>
    dsimp only
    rw [Logged.value_bind]
    cases hmake : (LocalSigner.make (host.draws 0) config.keyId key config.account
        config.user).value with
    | error e => simp [hmake]
    | ok signer =>
      dsimp only
      rw [Logged.value_bind]
      cases hsign : (signer.signRaw (host.draws 1) data).value <;>
        simp [hmake, hsign, pure, Except.pure]

omit [ByteStream σ] in
theorem value_showKey (file : String) :
    (showKey host file).value = (do
      let key ← (readKey host file).value.mapError .auth
      pure (keyText key)) := by
  rw [showKey, Logged.value_bind]
  cases (readKey host file).value <;> rfl

/-- The agent's keys are shown in two stages: connecting, and listing the keys. -/
theorem outcome_showAgentKeys (socket : String) :
    (showAgentKeys host socket).value.outcome = (do
      let stream ← (host.connect socket).mapError fun cause => .auth (.agentConnect socket cause)
      let keys ← (Client.ofStream stream).listIdentities.1.mapError (.during .listKeys)
      pure (agentKeysText keys)) := by
  rw [showAgentKeys, Logged.value_bind, AgentSigner.value_dial]
  cases host.connect socket with
  | error cause => rfl
  | ok stream =>
    cases hlist : (Client.ofStream stream).listIdentities with
    | mk answer after =>
      cases answer <;>
        simp [hlist, Except.map, pure, Except.pure]

/-- A task gives what its chain gives. -/
theorem outcome_perform (task : Task) :
    (perform host overrides task).value.outcome = chain host overrides task := by
  cases task with
  | header date =>
    rw [perform, chain, Logged.value_bind]
    cases (Settings.load host overrides).value with
    | error e => rfl
    | ok config => exact outcome_signDate config date
  | signRaw data =>
    rw [perform, chain, Logged.value_bind]
    cases (Settings.load host overrides).value with
    | error e => rfl
    | ok config =>
      rw [mapError_ok, ok_bind, keyPath]
      dsimp only
      cases config.keySource with
      | agent socket => rfl
      | file path =>
        rw [ok_bind, ← value_signData]
        rfl
  | fingerprint file => exact value_showKey file
  | agentKeys =>
    rw [perform, chain, Logged.value_bind, agentPath]
    cases (overrides.or (Settings.ofHost host).value).agentSocket with
    | none => rfl
    | some socket => exact outcome_showAgentKeys socket

/-! ### Failures -/

/-- Whether a task signs. -/
def Task.signs : Task → Bool
  | .header _ | .signRaw _ => true
  | .fingerprint _ | .agentKeys => false

/-- Where a task **fails**, and what the run then fails for. -/
inductive Fails (host : Host σ) (overrides : Settings) : Task → Failure → Prop
  | load {task : Task} {e : AuthError} (hsigns : task.signs = true)
      (hload : (Settings.load host overrides).value = .error e) :
      Fails host overrides task (.during .load e)
  | dateSigner {date : Option String} {config : Config} {e : AuthError}
      (hload : (Settings.load host overrides).value = .ok config)
      (hbuild : config.SignerFails host e) :
      Fails host overrides (.header date) (.during .createSigner e)
  | dateSign {date : Option String} {config : Config} {signer : Signer σ} {e : AuthError}
      (hload : (Settings.load host overrides).value = .ok config)
      (hbuild : (config.buildSigner host).value.1 = .ok signer)
      (hsign : signer.SignFails (host.draws 1) (date.getD (httpDate host.now)) e) :
      Fails host overrides (.header date) (.during .signDate e)
  | keyFileNeeded {data : String} {config : Config} {socket : Option String}
      (hload : (Settings.load host overrides).value = .ok config)
      (hsource : config.keySource = .agent socket) :
      Fails host overrides (.signRaw data) .keyFileNeeded
  | dataKey {data path : String} {config : Config} {e : AuthError}
      (hload : (Settings.load host overrides).value = .ok config)
      (hsource : config.keySource = .file path) (hkey : KeyFails host path e) :
      Fails host overrides (.signRaw data) (.auth e)
  | dataSigner {data path : String} {config : Config} {key : PrivateKey} {e : AuthError}
      (hload : (Settings.load host overrides).value = .ok config)
      (hsource : config.keySource = .file path) (hkey : KeyAt host path key)
      (hmake : LocalSigner.Fails (host.draws 0) config.keyId key e) :
      Fails host overrides (.signRaw data) (.during .createSigner e)
  | dataSign {data path : String} {config : Config} {key : PrivateKey} {signer : LocalSigner}
      {fault : SigningFault}
      (hload : (Settings.load host overrides).value = .ok config)
      (hsource : config.keySource = .file path) (hkey : KeyAt host path key)
      (hmake : (LocalSigner.make (host.draws 0) config.keyId key config.account config.user).value =
        .ok signer)
      (hsign : signer.key.sign (host.draws 1) (Utf8.encode data) = .error fault) :
      Fails host overrides (.signRaw data) (.during .signData (.signing fault))
  | shownKey {file : String} {e : AuthError} (hkey : KeyFails host file e) :
      Fails host overrides (.fingerprint file) (.auth e)
  | agentUnknown (hsocket : (overrides.or (Settings.ofHost host).value).agentSocket = none) :
      Fails host overrides .agentKeys (.auth .agentUnavailable)
  | unconnected {socket : String} {cause : IoFault}
      (hsocket : (overrides.or (Settings.ofHost host).value).agentSocket = some socket)
      (hconnect : host.connect socket = .error cause) :
      Fails host overrides .agentKeys (.auth (.agentConnect socket cause))
  | unlisted {socket : String} {stream : σ} {e : AuthError}
      (hsocket : (overrides.or (Settings.ofHost host).value).agentSocket = some socket)
      (hconnect : host.connect socket = .ok stream)
      (hlist : (Client.ofStream stream).listIdentities.1 = .error e) :
      Fails host overrides .agentKeys (.during .listKeys e)

/-- **Headers.** The stages of this task fail exactly as `Fails` lists. -/
theorem chain_header_eq_error_iff {date : Option String} :
    chain host overrides (.header date) = .error failure ↔
      Fails host overrides (.header date) failure := by
  simp only [chain, bind_eq_error_iff, mapError_eq_error_iff, mapError_eq_ok_iff,
    Config.buildSigner_eq_error_iff, Signer.sign_eq_error_iff]
  constructor
  · rintro (⟨e, hload, rfl⟩ | ⟨config, hload, ⟨e, hbuild, rfl⟩ | ⟨signer, hbuild, hsigned⟩⟩)
    · exact .load rfl hload
    · exact .dateSigner hload hbuild
    · obtain ⟨e, hsign, rfl⟩ | ⟨value, -, hnone⟩ := hsigned
      · exact .dateSign hload hbuild hsign
      · exact nomatch hnone
  · intro h
    cases h with
    | load hsigns hload => exact .inl ⟨_, hload, rfl⟩
    | dateSigner hload hbuild => exact .inr ⟨_, hload, .inl ⟨_, hbuild, rfl⟩⟩
    | dateSign hload hbuild hsign =>
      exact .inr ⟨_, hload, .inr ⟨_, hbuild, .inl ⟨_, hsign, rfl⟩⟩⟩

/-- **Signatures.** The stages of this task fail exactly as `Fails` lists. -/
theorem chain_signRaw_eq_error_iff {data : String} :
    chain host overrides (.signRaw data) = .error failure ↔
      Fails host overrides (.signRaw data) failure := by
  simp only [chain, bind_eq_error_iff, mapError_eq_error_iff, mapError_eq_ok_iff,
    keyPath_eq_error_iff, keyPath_eq_ok_iff, readKey_eq_error_iff, readKey_eq_ok_iff,
    LocalSigner.make_eq_error_iff, LocalSigner.signRaw_eq_error_iff]
  constructor
  · rintro (⟨e, hload, rfl⟩ | ⟨config, hload, ⟨⟨socket, hsource⟩, rfl⟩ | ⟨path, hsource, h⟩⟩)
    · exact .load rfl hload
    · exact .keyFileNeeded hload hsource
    · obtain ⟨e, hkey, rfl⟩ | ⟨key, hkey, ⟨e, hmake, rfl⟩ | ⟨signer, hmake, hsigned⟩⟩ := h
      · exact .dataKey hload hsource hkey
      · exact .dataSigner hload hsource hkey hmake
      · obtain ⟨_, ⟨fault, hsign, rfl⟩, rfl⟩ | ⟨signature, -, hnone⟩ := hsigned
        · exact .dataSign hload hsource hkey hmake hsign
        · exact nomatch hnone
  · intro h
    cases h with
    | load hsigns hload => exact .inl ⟨_, hload, rfl⟩
    | keyFileNeeded hload hsource => exact .inr ⟨_, hload, .inl ⟨⟨_, hsource⟩, rfl⟩⟩
    | dataKey hload hsource hkey =>
      exact .inr ⟨_, hload, .inr ⟨_, hsource, .inl ⟨_, hkey, rfl⟩⟩⟩
    | dataSigner hload hsource hkey hmake =>
      exact .inr ⟨_, hload, .inr ⟨_, hsource, .inr ⟨_, hkey, .inl ⟨_, hmake, rfl⟩⟩⟩⟩
    | dataSign hload hsource hkey hmake hsign =>
      exact .inr ⟨_, hload, .inr ⟨_, hsource, .inr ⟨_, hkey, .inr ⟨_, hmake,
        .inl ⟨_, ⟨_, hsign, rfl⟩, rfl⟩⟩⟩⟩⟩

/-- **Fingerprints.** The stages of this task fail exactly as `Fails` lists. -/
theorem chain_fingerprint_eq_error_iff {file : String} :
    chain host overrides (.fingerprint file) = .error failure ↔
      Fails host overrides (.fingerprint file) failure := by
  simp only [chain, bind_eq_error_iff, mapError_eq_error_iff, readKey_eq_error_iff]
  constructor
  · rintro (⟨e, hkey, rfl⟩ | ⟨key, -, hnone⟩)
    · exact .shownKey hkey
    · exact nomatch hnone
  · intro h
    cases h with
    | load hsigns _ => contradiction
    | shownKey hkey => exact .inl ⟨_, hkey, rfl⟩

/-- **Keys of the agent.** The stages of this task fail exactly as `Fails` lists. -/
theorem chain_agentKeys_eq_error_iff :
    chain host overrides .agentKeys = .error failure ↔ Fails host overrides .agentKeys failure := by
  simp only [chain, bind_eq_error_iff, mapError_eq_error_iff, mapError_eq_ok_iff,
    agentPath_eq_error_iff, agentPath_eq_ok_iff]
  constructor
  · rintro (⟨hsocket, rfl⟩ | ⟨socket, hsocket, ⟨cause, hconnect, rfl⟩ | ⟨stream, hconnect, h⟩⟩)
    · exact .agentUnknown hsocket
    · exact .unconnected hsocket hconnect
    · obtain ⟨e, hlist, rfl⟩ | ⟨keys, -, hnone⟩ := h
      · exact .unlisted hsocket hconnect hlist
      · exact nomatch hnone
  · intro h
    cases h with
    | load hsigns _ => contradiction
    | agentUnknown hsocket => exact .inl ⟨hsocket, rfl⟩
    | unconnected hsocket hconnect => exact .inr ⟨_, hsocket, .inl ⟨_, hconnect, rfl⟩⟩
    | unlisted hsocket hconnect hlist =>
      exact .inr ⟨_, hsocket, .inr ⟨_, hconnect, .inl ⟨_, hlist, rfl⟩⟩⟩

/-- **Failures.** A task gives a failure exactly if one of its stages fails with it. -/
theorem outcome_eq_error_iff :
    (perform host overrides task).value.outcome = .error failure ↔
      Fails host overrides task failure := by
  rw [outcome_perform]
  cases task with
  | header date => exact chain_header_eq_error_iff
  | signRaw data => exact chain_signRaw_eq_error_iff
  | fingerprint file => exact chain_fingerprint_eq_error_iff
  | agentKeys => exact chain_agentKeys_eq_error_iff

end RequestSigning.Command
