import RequestSigning.Proofs.CommandStages
import RequestSigning.Proofs.SettingsMerge

/-!
# The agent that is shown and the agent that signs

The task that signs a date finds its agent by all settings. The one that shows an agent's keys leaves
the user's file out. So the two go to one and the same agent (`Command.Contacts`) exactly if the
caller or the variables give a socket, or if nothing does; if the user's file alone gives one, the
keys are not shown. `Command.shown_agent_signs` says so, and that keys which are shown are those that
the signer is chosen from.

That a task connects to an agent is read off its log, in which each connection leaves one event
(`Command.Contacts`). So most lemmas say of a part of the program that it leaves none. The host at
the end has a socket in the user's file alone.
-/

namespace RequestSigning

open Agent

variable {σ α β : Type}

/-! ### The event of a connection -/

/-- The event that reports a connection to the agent at a path. -/
def AgentSigner.dialled (path : String) : LogEvent :=
  ⟨.debug, Agent.logTarget, "connected to SSH agent", [("socket", path)]⟩

/-- What **dials** no agent reports no connection to one. -/
def Logged.Undialled (x : Logged α) : Prop :=
  ∀ path, AgentSigner.dialled path ∉ x.events

namespace Logged

theorem undialled_pure (a : α) : (pure a : Logged α).Undialled := fun _ => List.not_mem_nil

theorem undialled_emit {event : LogEvent} (h : event.message ≠ "connected to SSH agent") :
    (emit event).Undialled := by
  intro path hpath
  rw [emit, List.mem_singleton] at hpath
  exact h (congrArg LogEvent.message hpath.symm)

/-- Steps that connect to nothing connect to nothing together. -/
theorem Undialled.bind {x : Logged α} {f : α → Logged β} (hx : x.Undialled)
    (hf : (f x.value).Undialled) : (x >>= f).Undialled := by
  intro path hpath
  rw [events_bind, List.mem_append] at hpath
  exact hpath.elim (hx path) (hf path)

end Logged

theorem Settings.undialled_ofHost (host : Host σ) : (ofHost host).Undialled := by
  intro path hpath
  obtain ⟨fault, -, hevent⟩ := List.mem_map.mp hpath
  have hmessage : (dotenvEvent fault).message = "connected to SSH agent" :=
    congrArg LogEvent.message hevent
  simp [dotenvEvent] at hmessage

/-- Reading the settings connects to no agent. -/
theorem Settings.undialled_load (host : Host σ) (overrides : Settings) :
    (load host overrides).Undialled := by
  have hfile : (ofDefaultFile host).Undialled := by
    rw [ofDefaultFile]
    cases (defaultPath? host).filter (host.files.contains host.directory) with
    | none => exact Logged.undialled_pure _
    | some path =>
      dsimp only
      cases ofFile host path with
      | ok settings => exact Logged.undialled_pure _
      | error fault => exact (Logged.undialled_emit (by simp)).bind (Logged.undialled_pure _)
  exact hfile.bind ((undialled_ofHost host).bind (Logged.undialled_pure _))

namespace AgentSigner

theorem undialled_reported (result : Except AuthError α) : (reported result).Undialled := by
  unfold reported
  split
  · exact (Logged.undialled_emit (by simp)).bind (Logged.undialled_pure _)
  · exact (Logged.undialled_pure ()).bind (Logged.undialled_pure _)

/-- The agent's key is chosen over a connection that stands already. -/
theorem undialled_choose (client : Client σ) (keys : List Agent.Identity)
    (keyName account : String) (user : Option String) :
    (choose client keys keyName account user).Undialled := by
  rw [choose]
  refine (Logged.undialled_emit (by simp)).bind ?_
  cases chooseKey? keyName keys with
  | none => exact (Logged.undialled_emit (by simp)).bind (Logged.undialled_pure _)
  | some key => exact (Logged.undialled_emit (by simp)).bind (Logged.undialled_pure _)

theorem undialled_authorization (identity : SignerIdentity) (signature : Agent.Signature) :
    (authorization identity signature).Undialled := by
  rw [authorization]
  split_ifs
  · exact Logged.undialled_pure _
  · exact (Logged.undialled_emit (by simp)).bind (Logged.undialled_pure _)

/-- The event of a connection names the socket that answered, and stands for nothing else. -/
theorem mem_events_dial {connect : String → Except IoFault σ} {socket path : String} :
    dialled path ∈ (dial connect socket).events ↔
      socket = path ∧ ∃ stream, connect socket = .ok stream := by
  rw [dial]
  cases connect socket with
  | error cause => simp
  | ok stream =>
    rw [Logged.events_bind, Logged.events_pure, List.append_nil, Logged.emit, List.mem_singleton]
    simp [dialled, eq_comm]

section Streams

variable [ByteStream σ]

theorem undialled_ofClient (client : Client σ) (keyName account : String)
    (user : Option String) : (ofClient client keyName account user).Undialled := by
  rw [ofClient]
  obtain ⟨answer, after⟩ := client.listIdentities
  refine (undialled_reported answer).bind ?_
  rw [value_reported]
  cases answer with
  | error e => exact Logged.undialled_pure _
  | ok keys => exact (undialled_choose _ _ _ _ _).bind (Logged.undialled_pure _)

/-- A signature is asked for over the connection the signer was built with. -/
theorem undialled_sign (date : String) (signer : AgentSigner σ) :
    (sign date signer).Undialled := by
  rw [sign]
  obtain ⟨answer, after⟩ :=
    signer.client.sign signer.key.keyBlob (Utf8.encode (signingString date))
  refine (undialled_reported answer).bind ?_
  rw [value_reported]
  cases answer with
  | error e => exact Logged.undialled_pure _
  | ok signature => exact (undialled_authorization _ _).bind (Logged.undialled_pure _)

/-- Making a signer reports one connection, if there is one. -/
theorem mem_events_make {connect : String → Except IoFault σ} {socket : Option String}
    {keyName account path : String} {user : Option String} :
    dialled path ∈ (make connect socket keyName account user).events ↔
      socket = some path ∧ ∃ stream, connect path = .ok stream := by
  cases socket with
  | none => simp [make]
  | some socket =>
    rw [make, Logged.events_bind, List.mem_append, mem_events_dial, Option.some.injEq, or_iff_left]
    · exact and_congr_right fun hsame => by rw [hsame]
    · cases (dial connect socket).value with
      | error e => exact List.not_mem_nil
      | ok client =>
        exact (undialled_ofClient client keyName account user).bind (Logged.undialled_pure _) path

end Streams

end AgentSigner

/-! ### Errors of a conversation -/

section Errors

variable [ByteStream σ] {path : String} {cause : IoFault}

/-- A request over a standing connection does not fail as a connection that could not be made. -/
theorem Agent.Client.ask_ne_agentConnect (client : Client σ) (request : Request) :
    (client.ask request).1 ≠ .error (.agentConnect path cause) := by
  rw [ask]
  cases request.body with
  | error fault => simp
  | ok body =>
    dsimp only
    rw [roundTrip]
    split_ifs
    · simp
    · obtain ⟨outcome, stream⟩ := exchange client.stream body
      cases outcome <;> simp [Exchange.result]

omit [ByteStream σ] in
theorem Agent.Client.decodeReply_ne_agentConnect {decode : Bytes → Except ProtocolFault α}
    {answer : Except AuthError Bytes} (h : answer ≠ .error (.agentConnect path cause)) :
    decodeReply decode answer ≠ .error (.agentConnect path cause) := by
  intro herror
  obtain hanswer | ⟨body, -, hbody⟩ := bind_eq_error_iff.mp herror
  · exact h hanswer
  · obtain ⟨fault, -, hfault⟩ := mapError_eq_error_iff.mp hbody
    contradiction

theorem Agent.Client.listIdentities_ne_agentConnect (client : Client σ) :
    client.listIdentities.1 ≠ .error (.agentConnect path cause) :=
  decodeReply_ne_agentConnect (client.ask_ne_agentConnect .list)

/-- Making a signer fails for a connection exactly if there is a path and no connection there. -/
theorem AgentSigner.fails_agentConnect_iff {connect : String → Except IoFault σ}
    {socket : Option String} {keyName : String} :
    AgentSigner.Fails connect keyName socket (.agentConnect path cause) ↔
      socket = some path ∧ connect path = .error cause := by
  constructor
  · intro h
    cases h with
    | unconnected hconnect => exact ⟨rfl, hconnect⟩
    | unlisted _ hlist => exact absurd hlist (Client.listIdentities_ne_agentConnect _)
  · rintro ⟨rfl, hconnect⟩
    exact .unconnected hconnect

end Errors

/-! ### Contacts -/

namespace Command

/-- A run **contacts** the agent at a path: it reports a connection there, or fails for want of
one. -/
def Contacts (run : Logged (Answer σ)) (path : String) : Prop :=
  AgentSigner.dialled path ∈ run.events ∨
    ∃ cause, run.value.outcome = .error (.auth (.agentConnect path cause)) ∨
      run.value.outcome = .error (.during .createSigner (.agentConnect path cause))

variable [ByteStream σ] {host : Host σ} {overrides : Settings} {config : Config}
  {socket : Option String} {path : String}

/-- The only socket a signing run connects to is its key source's, and it does so when the host lets
it. -/
theorem mem_events_signDate (hsource : config.keySource = .agent socket) (date : Option String) :
    AgentSigner.dialled path ∈ (signDate host config date).events ↔
      socket = some path ∧ ∃ stream, host.connect path = .ok stream := by
  have hbuild : AgentSigner.dialled path ∈ (config.buildSigner host).events ↔
      socket = some path ∧ ∃ stream, host.connect path = .ok stream := by
    rw [Config.buildSigner, hsource, ← @AgentSigner.mem_events_make _ _ _ _ config.keyId
      config.account _ config.user, Logged.events_bind]
    simp
  rw [signDate, Logged.events_bind, List.mem_append, hbuild, or_iff_left]
  rcases hvalue : (config.buildSigner host).value with ⟨built, client⟩
  cases built with
  | error e => exact List.not_mem_nil
  | ok signer =>
    cases Signer.built_of_buildSigner (congrArg Prod.fst hvalue) with
    | ofKey hfile => simp [hsource] at hfile
    | ofAgent =>
      refine (Logged.Undialled.bind ?_ (Logged.undialled_pure _)) path
      exact (AgentSigner.undialled_sign _ _).bind (Logged.undialled_pure _)

/-- Where the key is with an agent, signing a date contacts that agent. -/
theorem contacts_header_iff (hload : (Settings.load host overrides).value = .ok config)
    (hsource : config.keySource = .agent socket) (date : Option String) :
    Contacts (perform host overrides (.header date)) path ↔ socket = some path := by
  have hevents : AgentSigner.dialled path ∈ (perform host overrides (.header date)).events ↔
      socket = some path ∧ ∃ stream, host.connect path = .ok stream := by
    rw [perform, Logged.events_bind, List.mem_append, hload,
      or_iff_right (Settings.undialled_load host overrides path)]
    exact mem_events_signDate hsource date
  have hfails : ∀ cause, (perform host overrides (.header date)).value.outcome =
        .error (.auth (.agentConnect path cause)) ∨
      (perform host overrides (.header date)).value.outcome =
        .error (.during .createSigner (.agentConnect path cause)) ↔
      socket = some path ∧ host.connect path = .error cause := by
    intro cause
    rw [outcome_eq_error_iff, outcome_eq_error_iff, ← AgentSigner.fails_agentConnect_iff]
    constructor
    · rintro (h | h)
      · contradiction
      · cases h with
        | dateSigner hloaded hbuild =>
          obtain rfl := Except.ok.inj (hload.symm.trans hloaded)
          cases hbuild with
          | key hfile | ofKey hfile => simp [hsource] at hfile
          | ofAgent hother hmake =>
            obtain rfl := KeySource.agent.inj (hsource.symm.trans hother)
            exact hmake
    · exact fun hmake => .inr (.dateSigner hload (.ofAgent hsource hmake))
  rw [Contacts, hevents, exists_congr hfails, exists_and_left, ← and_or_left, and_iff_left]
  cases host.connect path with
  | error cause => exact .inr ⟨cause, rfl⟩
  | ok stream => exact .inl ⟨stream, rfl⟩

/-- The same for the listing of the agent's keys. -/
theorem mem_events_showAgentKeys {own : String} :
    AgentSigner.dialled path ∈ (showAgentKeys host own).events ↔
      own = path ∧ ∃ stream, host.connect own = .ok stream := by
  rw [showAgentKeys, Logged.events_bind, List.mem_append, AgentSigner.mem_events_dial,
    or_iff_left]
  cases (AgentSigner.dial host.connect own).value with
  | error e => exact List.not_mem_nil
  | ok client =>
    dsimp only
    obtain ⟨answer, after⟩ := client.listIdentities
    refine (AgentSigner.undialled_reported answer).bind ?_ path
    rw [AgentSigner.value_reported]
    cases answer <;> exact Logged.undialled_pure _

/-- Showing an agent's keys contacts the agent at the socket of the caller or the variables. -/
theorem contacts_agentKeys_iff :
    Contacts (perform host overrides .agentKeys) path ↔
      (overrides.or (Settings.ofHost host).value).agentSocket = some path := by
  have hevents : AgentSigner.dialled path ∈ (perform host overrides .agentKeys).events ↔
      (overrides.or (Settings.ofHost host).value).agentSocket = some path ∧
        ∃ stream, host.connect path = .ok stream := by
    rw [perform, Logged.events_bind, List.mem_append,
      or_iff_right (Settings.undialled_ofHost host path)]
    cases (overrides.or (Settings.ofHost host).value).agentSocket with
    | none => simp
    | some own =>
      rw [mem_events_showAgentKeys, Option.some.injEq]
      exact and_congr_right fun hpath => by rw [hpath]
  have hfails : ∀ cause, (perform host overrides .agentKeys).value.outcome =
        .error (.auth (.agentConnect path cause)) ∨
      (perform host overrides .agentKeys).value.outcome =
        .error (.during .createSigner (.agentConnect path cause)) ↔
      (overrides.or (Settings.ofHost host).value).agentSocket = some path ∧
        host.connect path = .error cause := by
    intro cause
    rw [outcome_eq_error_iff, outcome_eq_error_iff]
    constructor
    · rintro (h | h)
      · cases h with
        | unconnected hsocket hconnect => exact ⟨hsocket, hconnect⟩
      · contradiction
    · rintro ⟨hsocket, hconnect⟩
      exact .inl (.unconnected hsocket hconnect)
  rw [Contacts, hevents, exists_congr hfails, exists_and_left, ← and_or_left, and_iff_left]
  cases host.connect path with
  | error cause => exact .inr ⟨cause, rfl⟩
  | ok stream => exact .inl ⟨stream, rfl⟩

/-! ### One agent or none -/

omit [ByteStream σ] in
/-- The socket to sign with is that of the caller or the variables, or else that of the user's
file. -/
theorem socket_eq_or (hload : (Settings.load host overrides).value = .ok config)
    (hsource : config.keySource = .agent socket) :
    socket = (overrides.or (Settings.ofHost host).value).agentSocket.or
      (Settings.ofDefaultFile host).value.agentSocket := by
  rw [Settings.value_load, mapError_eq_ok_iff, Settings.resolve_eq_ok_iff] at hload
  obtain ⟨-, -, -, hmerged⟩ := hload
  rw [hsource, Settings.keySource] at hmerged
  split at hmerged
  · contradiction
  · exact (KeySource.agent.inj hmerged).symm

/-- Keys that are shown are those that the signer is chosen from. -/
theorem buildSigner_of_shown {text : String} (hsource : config.keySource = .agent socket)
    (hsame : (overrides.or (Settings.ofHost host).value).agentSocket = socket)
    (hshown : (perform host overrides .agentKeys).value.outcome = .ok text) :
    ∃ keys client, text = agentKeysText keys ∧
      (config.buildSigner host).value.1 =
        (AgentSigner.choose client keys config.keyId config.account config.user).value.map
          .ofAgent := by
  simp only [outcome_perform, chain, bind_eq_ok_iff, agentPath_eq_ok_iff, mapError_eq_ok_iff]
    at hshown
  obtain ⟨own, hown, stream, hconnect, keys, hkeys, htext⟩ := hshown
  obtain rfl : socket = some own := hsame.symm.trans hown
  refine ⟨keys, (Client.ofStream stream).listIdentities.2, (Except.ok.inj htext).symm, ?_⟩
  rw [Config.buildSigner, hsource, Logged.value_bind, Logged.value_pure,
    AgentSigner.value_make_some, hconnect, mapError_ok, ok_bind, hkeys, ok_bind]

/-- **The agent that is shown signs**, unless the user's file alone says where it is. Let the settings
put the key with an agent. Signing a date contacts the agent at the socket that they give, or none if
they give none. If the caller or the variables give a socket, or the user's file gives none either,
showing the keys contacts the same agent, or says that none is known. If only the user's file gives
one, signing contacts that agent, while showing the keys contacts none and says that none is known.
Keys that are shown are always those that the signer is chosen from. -/
theorem shown_agent_signs (hload : (Settings.load host overrides).value = .ok config)
    (hsource : config.keySource = .agent socket) :
    let own := (overrides.or (Settings.ofHost host).value).agentSocket
    let filed := (Settings.ofDefaultFile host).value.agentSocket
    (∀ date path, Contacts (perform host overrides (.header date)) path ↔ socket = some path) ∧
    (own ≠ none ∨ filed = none →
      (∀ path, Contacts (perform host overrides .agentKeys) path ↔ socket = some path) ∧
      (socket = none →
        (perform host overrides .agentKeys).value.outcome = .error (.auth .agentUnavailable))) ∧
    (own = none → filed ≠ none →
      socket = filed ∧ (∀ path, ¬Contacts (perform host overrides .agentKeys) path) ∧
      (perform host overrides .agentKeys).value.outcome = .error (.auth .agentUnavailable)) ∧
    ∀ text, (perform host overrides .agentKeys).value.outcome = .ok text →
      ∃ keys client, text = agentKeysText keys ∧
        (config.buildSigner host).value.1 =
          (AgentSigner.choose client keys config.keyId config.account config.user).value.map
            .ofAgent := by
  intro own filed
  have hsocket : socket = own.or filed := socket_eq_or hload hsource
  have hunknown : own = none →
      (perform host overrides .agentKeys).value.outcome = .error (.auth .agentUnavailable) :=
    fun hnone => outcome_eq_error_iff.mpr (.agentUnknown hnone)
  refine ⟨fun date path => contacts_header_iff hload hsource date, fun hgiven => ?_,
    fun hnone hfiled => ?_, fun text hshown => ?_⟩
  · have hsame : own = socket := by
      rw [hsocket]
      cases hown : own with
      | none => rw [Option.none_or, hgiven.resolve_left (not_not.mpr hown)]
      | some path => rfl
    exact ⟨fun path => hsame ▸ contacts_agentKeys_iff, fun hnone => hunknown (hsame.trans hnone)⟩
  · refine ⟨by rw [hsocket, hnone, Option.none_or], fun path hcontacts => ?_, hunknown hnone⟩
    have hpath : own = some path := contacts_agentKeys_iff.mp hcontacts
    rw [hnone] at hpath
    contradiction
  · refine buildSigner_of_shown hsource ?_ hshown
    cases hown : own with
    | none =>
      rw [hunknown hown] at hshown
      contradiction
    | some path => rw [hsocket, hown, Option.some_or, ← hown]

/-- A host on which the user's file alone says where the agent is. -/
def filedHost : Host MemoryStream :=
  { sampleHost with
    environment := ⟨[("HOME", [])]⟩
    userHome := some "/h"
    files := ⟨[(["h", ".config", "triton", "auth.toml"], .file
        (Utf8.encode "account = \"acct\"\nkey_id = \"fe:64\"\nagent_socket = \"/s\"\n"))] ++
      sampleHost.files.nodes⟩ }

/-- The socket of this host is known to its configuration file alone. -/
theorem load_filedHost (overrides : Settings) :
    (Settings.load filedHost overrides).value =
      ((overrides.or .empty).or
        ⟨some "acct", none, some "fe:64", none, some "/s"⟩).resolve.mapError .config := by
  have hfile : (Settings.ofDefaultFile filedHost).value =
      ⟨some "acct", none, some "fe:64", none, some "/s"⟩ := by decide +kernel
  have hvariables : (Settings.ofHost filedHost).value = .empty := by decide +kernel
  rw [Settings.value_load, hfile, hvariables]

/-- With the socket given as a flag both tasks reach the agent; with the file alone only signing
does. -/
theorem shown_agent_signs_filed :
    (Contacts (perform filedHost ⟨none, none, none, none, some "/s"⟩ .agentKeys) "/s" ∧
      Contacts (perform filedHost ⟨none, none, none, none, some "/s"⟩ (.header none)) "/s") ∧
    Contacts (perform filedHost .empty (.header none)) "/s" ∧
      ∀ path, ¬Contacts (perform filedHost .empty .agentKeys) path := by
  have hvariables : (Settings.ofHost filedHost).value = .empty := by decide +kernel
  have hfile : (Settings.ofDefaultFile filedHost).value.agentSocket ≠ none := by decide +kernel
  obtain ⟨hsigns, hshows, -, -⟩ := shown_agent_signs
    (load_filedHost ⟨none, none, none, none, some "/s"⟩) rfl
  obtain ⟨hsignsFiled, -, honly, -⟩ := shown_agent_signs (load_filedHost .empty) rfl
  rw [hvariables] at hshows honly
  obtain ⟨hcontacts, -⟩ := hshows (.inl (by decide))
  obtain ⟨-, hnone, -⟩ := honly rfl hfile
  exact ⟨⟨(hcontacts "/s").mpr rfl, (hsigns none "/s").mpr rfl⟩,
    (hsignsFiled none "/s").mpr rfl, hnone⟩

/-- **The keys of the agent that signs need not be shown.** On that host the settings put the key with
an agent, and signing a date contacts it, but no agent is found to show the keys of. -/
theorem shown_agent_differs :
    (Settings.load filedHost .empty).value = .ok ⟨"acct", none, "fe:64", .agent (some "/s")⟩ ∧
      Contacts (perform filedHost .empty (.header none)) "/s" ∧
      (∀ path, ¬Contacts (perform filedHost .empty .agentKeys) path) ∧
      (perform filedHost .empty .agentKeys).value.outcome = .error (.auth .agentUnavailable) := by
  have hvariables : (Settings.ofHost filedHost).value = .empty := by decide +kernel
  refine ⟨load_filedHost .empty, (contacts_header_iff (load_filedHost .empty) rfl none).mpr rfl,
    fun path hcontacts => ?_, outcome_eq_error_iff.mpr (.agentUnknown (by rw [hvariables]; rfl))⟩
  rw [contacts_agentKeys_iff, hvariables] at hcontacts
  contradiction

end Command

end RequestSigning
