import RequestSigning.Proofs.Agent.Alike
import RequestSigning.Proofs.CommandOutput

/-!
# Runs with other signatures

Two runs of one task are compared on hosts with the same files, whose agents are alike
(`Agent.Alike`). What a task reads from files it reads the same on both; the keys that it signs with
must not draw random numbers, unless these are the same too. So only the signatures of agents can
make a difference, and they make none but in what is printed (`Command.alike_perform`).

A task gives related answers on two hosts if its stages are related (`Command.Stages.perform`). This
does not depend on what is compared.
-/

namespace RequestSigning

open Agent

variable {σ α β : Type}

/-- Two continuations that agree on the value reached make equal runs, events included. -/
theorem Logged.bind_congr_value {x : Logged α} {f g : α → Logged β} (h : f x.value = g x.value) :
    x >>= f = x >>= g := by
  change (⟨_, _⟩ : Logged β) = ⟨_, _⟩
  rw [h]

/-! ### The same files -/

section Same

variable {host other : Host σ} {config : Config} {path : String}

/-- Where random numbers are not the same, a key does **not draw** any. -/
def DrawsAlike (host other : Host σ) (key : PrivateKey) : Prop :=
  other.draws = host.draws ∨ key.Drawless

/-- A key file is all that reading a key sees of the host. -/
theorem readKey_congr (h : other.read path = host.read path) :
    readKey other path = readKey host path := by
  rw [readKey, readKey, h]

/-- The self-test of a key takes the first draw only. -/
theorem LocalSigner.make_congr {key : PrivateKey} (hdraws : DrawsAlike host other key)
    (keyName account : String) (user : Option String) :
    make (other.draws 0) keyName key account user = make (host.draws 0) keyName key account user := by
  obtain hsame | hdrawless := hdraws
  · rw [hsame]
  · exact make_of_drawless hdrawless _ _ _ _ _

/-- A signature takes the second draw only. -/
theorem LocalSigner.signText_congr {signer : LocalSigner}
    (hdraws : DrawsAlike host other signer.key) (text : String) :
    signer.signText (other.draws 1) text = signer.signText (host.draws 1) text := by
  obtain hsame | hdrawless := hdraws
  · rw [hsame]
  · exact signText_of_drawless hdrawless _ _ _

/-- Signing a date is the same if the signer is, and signs the same. -/
theorem Command.signDate_congr [ByteStream σ] {date : String}
    (hbuild : config.buildSigner other = config.buildSigner host)
    (hsign : ∀ signer, Signer.Built config host signer →
      Signer.sign (other.draws 1) date signer = Signer.sign (host.draws 1) date signer) :
    signDate other config (some date) = signDate host config (some date) := by
  rw [signDate, signDate, hbuild]
  refine Logged.bind_congr_value ?_
  rcases hvalue : (config.buildSigner host).value with ⟨built, client⟩
  cases built with
  | error e => rfl
  | ok signer =>
    dsimp only [Option.getD_some]
    rw [hsign signer (Signer.built_of_buildSigner (congrArg Prod.fst hvalue))]

/-- With an agent as the key source, the host is its agent: files and draws do not matter. -/
theorem Command.signDate_congr_of_agent [ByteStream σ] {socket : Option String}
    (hconnect : other.connect = host.connect) (hsource : config.keySource = .agent socket)
    (date : String) : signDate other config (some date) = signDate host config (some date) := by
  have hbuild : config.buildSigner other = config.buildSigner host := by
    rw [Config.buildSigner, Config.buildSigner, hsource, hconnect]
  refine signDate_congr hbuild fun signer hbuilt => ?_
  cases hbuilt with
  | ofKey hfile => simp [hsource] at hfile
  | ofAgent => rfl

variable (hread : readKey other path = readKey host path)
  (hdraws : ∀ key, KeyAt host path key → DrawsAlike host other key)
include hread hdraws

/-- Building the signer of a key file sees the file and the first draw. -/
theorem Config.keySigner_congr : config.keySigner other path = config.keySigner host path := by
  rw [keySigner, keySigner, hread]
  refine Logged.bind_congr_value ?_
  cases hkey : (readKey host path).value with
  | error e => rfl
  | ok key => exact LocalSigner.make_congr (hdraws key (readKey_eq_ok_iff.mp hkey)) _ _ _

theorem Command.signData_congr (data : String) :
    signData other config path data = signData host config path data := by
  rw [signData, signData, hread]
  refine Logged.bind_congr_value ?_
  cases hkey : (readKey host path).value with
  | error e => rfl
  | ok key =>
    have hkeyDraws := hdraws key (readKey_eq_ok_iff.mp hkey)
    dsimp only
    rw [LocalSigner.make_congr hkeyDraws]
    refine Logged.bind_congr_value ?_
    cases hmake : (LocalSigner.make (host.draws 0) config.keyId key config.account
        config.user).value with
    | error e => rfl
    | ok signer =>
      obtain ⟨-, rfl⟩ := LocalSigner.make_eq_ok hmake
      dsimp only
      rw [LocalSigner.signRaw, LocalSigner.signText_congr hkeyDraws]
      rfl

/-- With a key file as the key source, the agents do not matter. -/
theorem Command.signDate_congr_of_key [ByteStream σ] (hsource : config.keySource = .file path)
    (date : String) : signDate other config (some date) = signDate host config (some date) := by
  have hbuild : config.buildSigner other = config.buildSigner host := by
    rw [Config.buildSigner, Config.buildSigner, hsource]
    dsimp only
    rw [Config.keySigner_congr hread hdraws]
  refine signDate_congr hbuild fun signer hbuilt => ?_
  cases hbuilt with
  | @ofKey found bytes key hfile hbytes hparse hnamed =>
    obtain rfl : path = found := KeySource.file.inj (hsource.symm.trans hfile)
    have hkeyDraws := hdraws key ⟨bytes, hbytes, hparse⟩
    rw [Signer.sign, Signer.sign, LocalSigner.sign, LocalSigner.sign,
      LocalSigner.signText_congr hkeyDraws]
  | ofAgent hagent => simp [hsource] at hagent

end Same

/-- The keys that a task signs with do not draw. -/
theorem Command.drawsAlike_of_task [ByteStream σ] {host other : Host σ} {overrides : Settings}
    {task : Task} {config : Config} {path : String}
    (hdraws : other.draws = host.draws ∨ Drawless host overrides task) (hsigns : task.signs = true)
    (hload : (Settings.load host overrides).value = .ok config)
    (hsource : config.keySource = .file path) (key : PrivateKey) (hkey : KeyAt host path key) :
    DrawsAlike host other key :=
  hdraws.imp_right fun hdrawless => hdrawless hsigns config hload path key hsource hkey

/-! ### The stages of tasks -/

namespace Command

/-- The **stages** of a task are related on two hosts: each gives related answers on the two, and where
settings are looked for first, the answers are related if those of what follows are. -/
structure Stages [ByteStream σ] (R : Logged (Answer σ) → Logged (Answer σ) → Prop)
    (host other : Host σ) (overrides : Settings) (task : Task) : Prop where
  refl : ∀ x, R x x
  load : ∀ f g, R (f (Settings.load host overrides).value) (g (Settings.load host overrides).value) →
    R (Settings.load host overrides >>= f) (Settings.load other overrides >>= g)
  ofHost : ∀ f g, R (f (Settings.ofHost host).value) (g (Settings.ofHost host).value) →
    R (Settings.ofHost host >>= f) (Settings.ofHost other >>= g)
  signDate : ∀ date config, task = .header (some date) →
    (Settings.load host overrides).value = .ok config →
    R (signDate host config (some date)) (signDate other config (some date))
  signData : ∀ data config path, task = .signRaw data →
    (Settings.load host overrides).value = .ok config → config.keySource = .file path →
    R (signData host config path data >>= fun outcome => pure (.plain outcome))
      (signData other config path data >>= fun outcome => pure (.plain outcome))
  showKey : ∀ file, task = .fingerprint file →
    R (showKey host file >>= fun outcome => pure (.plain outcome))
      (showKey other file >>= fun outcome => pure (.plain outcome))
  showAgentKeys : ∀ socket, R (showAgentKeys host socket) (showAgentKeys other socket)

/-- **Tasks.** A task gives related answers on two hosts if its stages are related. -/
theorem Stages.perform [ByteStream σ] {R : Logged (Answer σ) → Logged (Answer σ) → Prop}
    {host other : Host σ} {overrides : Settings} {task : Task}
    (h : Stages R host other overrides task) (hdate : task ≠ .header none) :
    R (perform host overrides task) (perform other overrides task) := by
  cases task with
  | header date =>
    obtain ⟨date, rfl⟩ := Option.ne_none_iff_exists'.mp fun hnone => hdate (congrArg _ hnone)
    rw [Command.perform, Command.perform]
    refine h.load _ _ ?_
    cases hload : (Settings.load host overrides).value with
    | error e => exact h.refl _
    | ok config => exact h.signDate date config rfl hload
  | signRaw data =>
    rw [Command.perform, Command.perform]
    refine h.load _ _ ?_
    cases hload : (Settings.load host overrides).value with
    | error e => exact h.refl _
    | ok config =>
      dsimp only
      cases hsource : config.keySource with
      | agent socket => exact h.refl _
      | file path => exact h.signData data config path rfl hload hsource
  | fingerprint file => exact h.showKey file rfl
  | agentKeys =>
    rw [Command.perform, Command.perform]
    refine h.ofHost _ _ ?_
    cases (overrides.or (Settings.ofHost host).value).agentSocket with
    | none => exact h.refl _
    | some socket => exact h.showAgentKeys socket

/-! ### Agents with other signatures -/

/-- Outputs that are the same, or are for one date, one identity and signatures of one length. -/
inductive SameButValue : String → String → Prop
  | same (output : String) : SameButValue output output
  | header (date : String) {identity : SignerIdentity} {value other : String}
    (h : AgentSigner.SameButValue identity value other) :
    SameButValue (headerText date value) (headerText date other)

/-- Answers with the same failure, or with such outputs. -/
def Answer.Alike (answer other : Answer σ) : Prop :=
  Outcomes SameButValue answer.outcome other.outcome

/-- Each answer differs from itself in no signature. -/
theorem Answer.Alike.refl (answer : Answer σ) : answer.Alike answer := by
  obtain ⟨outcome, client⟩ := answer
  cases outcome with
  | error failure => exact .error failure
  | ok output => exact .ok (.same output)

/-- Equal runs are alike. -/
theorem alike_of_eq {x y : Logged (Answer σ)} (h : y = x) : Logged.Alike Answer.Alike x y :=
  ⟨by rw [h], by rw [h]; exact .refl _⟩

section Agents

variable [ByteStream σ] {host other : Host σ} {overrides : Settings} {config : Config}

/-- Agents that differ in the signatures they make lead to answers that differ in the signatures
they print, with the same log. -/
theorem alike_signDate_of_agent {socket : Option String}
    (h : ∀ path, Outcomes Agent.Alike (host.connect path) (other.connect path))
    (hsource : config.keySource = .agent socket) (date : String) :
    Logged.Alike Answer.Alike (signDate host config (some date))
      (signDate other config (some date)) := by
  -- signers are made alike, and both are of an agent
  have hbuild : Logged.Alike
      (fun made changed => Outcomes (fun signer otherSigner : Signer σ =>
        ∃ own otherOwn, AgentSigner.Alike own otherOwn ∧ signer = .ofAgent own ∧
          otherSigner = .ofAgent otherOwn) made.1 changed.1)
      (config.buildSigner host) (config.buildSigner other) := by
    rw [Config.buildSigner, Config.buildSigner, hsource]
    refine (AgentSigner.alike_make h config.keyId config.account config.user).bind ?_
    rintro ⟨made, client⟩ ⟨changed, otherClient⟩ hmade
    cases hmade with
    | error e => exact .pure (.error e)
    | ok hsigners => exact .pure (.ok ⟨_, _, hsigners, rfl, rfl⟩)
  rw [signDate, signDate]
  refine hbuild.bind ?_
  rintro ⟨made, client⟩ ⟨changed, otherClient⟩ hmade
  cases hmade with
  | error e => exact .pure (.error _)
  | ok hsigners =>
    obtain ⟨signer, otherSigner, hsigners, rfl, rfl⟩ := hsigners
    dsimp only [Option.getD_some]
    rw [Signer.sign, Signer.sign, bind_assoc, bind_assoc]
    refine (AgentSigner.alike_sign hsigners date).bind ?_
    rintro ⟨signed, after⟩ ⟨otherSigned, otherAfter⟩ hsigned
    cases hsigned with
    | error e => exact .pure (.error _)
    | ok hvalue => exact .pure (.ok (.header date hvalue))

/-- The agent's keys are listed without a signature, so such agents print the same list. -/
theorem alike_showAgentKeys {socket : String}
    (h : Outcomes Agent.Alike (host.connect socket) (other.connect socket)) :
    Logged.Alike Answer.Alike (showAgentKeys host socket) (showAgentKeys other socket) := by
  rw [showAgentKeys, showAgentKeys]
  refine (AgentSigner.alike_dial h).bind fun dialled otherDialled hdialled => ?_
  cases hdialled with
  | error e => exact .pure (.error _)
  | ok hclients =>
    obtain ⟨stream, otherStream, hstreams, rfl, rfl⟩ := hclients
    dsimp only
    rw [hstreams.listIdentities.1]
    refine Logged.Alike.bind_same _ ?_
    cases (reported (Client.ofStream stream).listIdentities.1).value with
    | error e => exact .pure (.error _)
    | ok keys => exact .pure (.ok (.same _))

/-- Where only agents differ, and only in their signatures, a task logs the same and fails alike, and
what it prints differs in a signature at most. -/
theorem alike_perform (h : host.Alike (fun _ bytes changed => changed = bytes) Agent.Alike other)
    {task : Task} (hdate : task ≠ .header none)
    (hdraws : other.draws = host.draws ∨ Drawless host overrides task) :
    Logged.Alike Answer.Alike (perform host overrides task) (perform other overrides task) := by
  have hkept : Settings.Kept (fun _ bytes changed => changed = bytes) host :=
    ⟨fun _ _ _ _ heq => heq, fun _ _ _ _ heq => heq⟩
  have hread : ∀ path, readKey other path = readKey host path :=
    fun path => readKey_congr (h.read_eq fun _ _ heq => heq)
  have hstages : Stages (Logged.Alike Answer.Alike) host other overrides task :=
    { refl := fun _ => alike_of_eq rfl
      load := fun f g hnext => by
        rw [Settings.load_of_alike h hkept]
        exact .bind_same _ hnext
      ofHost := fun f g hnext => by
        rw [Settings.ofHost_of_alike h hkept]
        exact .bind_same _ hnext
      signDate := by
        rintro date config rfl hload
        cases hsource : config.keySource with
        | agent socket => exact alike_signDate_of_agent h.connect hsource date
        | file path =>
          have hkeys := drawsAlike_of_task hdraws rfl hload hsource
          exact alike_of_eq (signDate_congr_of_key (hread path) hkeys hsource date)
      signData := by
        rintro data config path rfl hload hsource
        rw [signData_congr (hread path) (drawsAlike_of_task hdraws rfl hload hsource)]
        exact alike_of_eq rfl
      showKey := fun file _ => by
        rw [showKey, showKey, hread file]
        exact alike_of_eq rfl
      showAgentKeys := fun socket => alike_showAgentKeys (h.connect socket) }
  exact hstages.perform hdate

end Agents

end Command

end RequestSigning
