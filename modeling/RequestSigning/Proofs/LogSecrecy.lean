import RequestSigning.Proofs.KeySecrecy

/-!
# What the log keeps secret

Two runs of one command line are compared, on hosts that are alike but for something secret: the bytes
of the signatures that agents give, or the private numbers of the key in one file.
`Command.secrets_unlogged` says that standard error tells neither: the complaints about the rules of
the log, the lines of the log and the report of a failure are the same, whatever `--verbose` and the
rules of the log show.

The first part follows agents that differ in their signatures, the second keys that are twins. Both
come down to the same step: the events of the task are equal, so the lines that the filter lets
through are, whatever the filter is. The runs at the end are with two agents, and with two keys that
have one modulus.
-/

namespace RequestSigning.Command

open Agent

variable {σ : Type}

/-- Runs that leave **the same errors**: the same on standard error, the times of the log apart. -/
structure Record.SameErrors (record other : Record σ) : Prop where
  complaints : other.complaints = record.complaints
  log : other.log = record.log
  report : other.report = record.report

theorem Record.SameErrors.refl (record : Record σ) : record.SameErrors record := ⟨rfl, rfl, rfl⟩

section

variable [ByteStream σ] {host other : Host σ} {invocation : Invocation}

/-- A run is alike if its task is. -/
theorem Invocation.alike_run (henvironment : other.environment = host.environment)
    (h : Logged.Alike Answer.Alike (perform host invocation.overrides invocation.task)
      (perform other invocation.overrides invocation.task)) :
    (invocation.run other).exit = (invocation.run host).exit ∧
      (invocation.run host).SameErrors (invocation.run other) ∧
      SameButValue (invocation.run host).output (invocation.run other).output := by
  obtain ⟨hevents, hvalue⟩ := h
  rw [run, run, henvironment, hevents]
  generalize (perform host invocation.overrides invocation.task).value = answer,
    (perform other invocation.overrides invocation.task).value = otherAnswer at hvalue ⊢
  obtain ⟨outcome, client⟩ := answer
  obtain ⟨otherOutcome, otherClient⟩ := otherAnswer
  obtain failure | houtputs := hvalue
  · exact ⟨rfl, ⟨rfl, rfl, rfl⟩, .same ""⟩
  · exact ⟨rfl, ⟨rfl, rfl, rfl⟩, houtputs⟩

/-- A run that exits with 0 reports no failure, as its task gives a result. -/
theorem Invocation.run_of_exit (hexit : (invocation.run host).exit = 0) :
    (∃ output, (perform host invocation.overrides invocation.task).value.outcome = .ok output) ∧
      (invocation.run host).report = "" := by
  rw [run] at hexit ⊢
  generalize (perform host invocation.overrides invocation.task).value = answer at hexit ⊢
  obtain ⟨outcome, client⟩ := answer
  cases outcome with
  | error failure => contradiction
  | ok output => exact ⟨⟨output, rfl⟩, rfl⟩

/-- What is said about the rules of the log depends on the rules alone. -/
theorem Invocation.complaints_run :
    (invocation.run host).complaints = LogFilter.complaints (logRules host.environment) := by
  rw [run]
  obtain ⟨outcome | output, client⟩ := (perform host invocation.overrides invocation.task).value <;>
    rfl

/-- The log of a run is what the filter lets through of the task's events. -/
theorem Invocation.log_run : (invocation.run host).log =
    (perform host invocation.overrides invocation.task).events.filter
      (logFilter host.environment invocation.verbose).shows := by
  rw [run]
  obtain ⟨outcome | output, client⟩ := (perform host invocation.overrides invocation.task).value <;>
    rfl

/-- **Secrets are not logged.** Let a command line give the date if it asks for a header, and sign
with no key that draws random numbers, unless these are the same in two runs. If the hosts of the two
runs differ in agents alone, and these only in the bytes of their signatures, the runs exit alike,
leave the same on standard error, and print the same but for the value of a signature. If the hosts
differ in one file alone, which is none that settings are read from, and both its contents are RSA,
P-256 or P-384 keys with one label and one blob, the runs leave the same on standard error where both
succeed. -/
theorem secrets_unlogged {arguments : List String}
    (hdate : ∀ invocation, Invocation.read arguments = .ok invocation →
      invocation.task ≠ .header none)
    (hdraws : other.draws = host.draws ∨ ∀ invocation, Invocation.read arguments = .ok invocation →
      Drawless host invocation.overrides invocation.task) :
    (host.Alike (fun _ bytes changed => changed = bytes) Agent.Alike other →
      (run other arguments).exit = (run host arguments).exit ∧
        (run host arguments).SameErrors (run other arguments) ∧
        SameButValue (run host arguments).output (run other arguments).output) ∧
    ∀ place bytes changed key otherKey,
      host.Alike (SameBut place bytes changed) (· = ·) other →
      Settings.dotenvNames? host.files host.directory.reverse ≠ some place →
      (∀ path, Settings.defaultPath? host = some path →
        FileTree.names host.directory path ≠ place) →
      TwinTexts bytes changed key otherKey →
      (run host arguments).exit = 0 → (run other arguments).exit = 0 →
      (run host arguments).SameErrors (run other arguments) := by
  cases hread : Invocation.read arguments with
  | error stop =>
    -- what is left of a command line that is not run does not depend on the host
    rw [run, run, hread]
    exact ⟨fun _ => ⟨rfl, .refl _, .same _⟩, fun _ _ _ _ _ _ _ _ _ _ _ => .refl _⟩
  | ok invocation =>
    have hgiven := hdate invocation hread
    have hdrawless := hdraws.imp_right fun h => h invocation hread
    rw [run, run, hread]
    dsimp only
    refine ⟨fun halike => ?_, ?_⟩
    · exact Invocation.alike_run halike.environment (alike_perform halike hgiven hdrawless)
    · intro place bytes changed key otherKey halike hdotenv hdefault htexts hexit hotherExit
      -- the settings are read from other files
      have hkept : Settings.Kept (SameBut place bytes changed) host := by
        constructor
        · rintro names hnames found otherFound (⟨rfl, -⟩ | ⟨-, hsame⟩)
          · exact absurd hnames hdotenv
          · exact hsame
        · rintro path hpath found otherFound (⟨hnames, -⟩ | ⟨-, hsame⟩)
          · exact absurd hnames (hdefault path hpath)
          · exact hsame
      obtain ⟨⟨output, hok⟩, hreport⟩ := Invocation.run_of_exit hexit
      obtain ⟨⟨otherOutput, hotherOk⟩, hotherReport⟩ := Invocation.run_of_exit hotherExit
      have hevents := alikeLogs_perform halike hkept htexts hgiven hdrawless _ _ hok hotherOk
      constructor
      · rw [Invocation.complaints_run, Invocation.complaints_run, halike.environment]
      · rw [Invocation.log_run, Invocation.log_run, halike.environment, hevents]
      · rw [hreport, hotherReport]

end

/-! ### Runs on four hosts -/

/-- An agent at `/s` that lists one key, and gives this signature. -/
def agentHost (signature : Bytes) : Host MemoryStream :=
  { sampleHost with
    files := ⟨[(["s"], .socket (.serving
      [listReplyType :: (Wire.word 1 ++ Wire.field [7] ++ Wire.field []),
        signReplyType :: Wire.field
          (Wire.field (Utf8.encode AgentSigner.acceptedFormat) ++ Wire.field signature)]))]⟩ }

/-- Two hosts whose agents make different signatures and differ in nothing else. -/
theorem alike_agentHost : (agentHost [1, 2, 3]).Alike (fun _ bytes changed => changed = bytes)
    Agent.Alike (agentHost [4, 5, 6]) where
  environment := rfl
  directory := rfl
  userHome := rfl
  files := by
    refine FileTree.alike_of_nodes (.cons ⟨rfl, .socket ?_⟩ .nil)
    refine alike_serving ?_ ?_ ?_ (.signed _ rfl (by decide))
    · exact ⟨by decide, by decide⟩
    · exact ⟨by decide, by decide⟩
    · exact ⟨by decide, by decide⟩

/-- A header for a date, signed by that agent. -/
def headerArguments : List String :=
  ["header", "-v", "--account", "acct", "--agent-socket", "/s", "--date", "d",
    "--key-id", "89:e7:4e:64:0b:8c:46:25:7a:29:de:06:16:79:4d:5d"]

/-- An RSA key as a text, without aids to computation. -/
def rsaText (key : Rsa.PrivateKey) : Bytes :=
  KeyEncoding.pkcs1.armour .lf (Pkcs1.encode key.toNumbers ⟨0, 0, 0⟩)

/-- A host with this text in a file at `/k`. -/
def rsaHost (key : Rsa.PrivateKey) : Host MemoryStream :=
  { sampleHost with files := ⟨[(["k"], .file (rsaText key))]⟩ }

theorem draws_rsaHost (key other : Rsa.PrivateKey) : (rsaHost other).draws = (rsaHost key).draws :=
  rfl

/-- Two hosts that hold different key files under one path. -/
theorem alike_rsaHost (key other : Rsa.PrivateKey) :
    (rsaHost key).Alike (SameBut ["k"] (rsaText key) (rsaText other)) (· = ·) (rsaHost other) where
  environment := rfl
  directory := rfl
  userHome := rfl
  files := FileTree.alike_of_nodes (.cons ⟨rfl, .file (.inl ⟨rfl, rfl, rfl⟩)⟩ .nil)

/-- The fingerprint of the keys of two Mersenne primes. -/
def mersenneName : String := "a7:10:b6:eb:7d:75:44:97:2d:25:0e:a4:56:fa:d3:a0"

/-- A text, signed with the key at `/k`. -/
def textArguments : List String :=
  ["sign-raw", "text", "-v", "--account", "acct", "--key-file", "/k", "--key-id", mersenneName]

def textRun : Invocation :=
  ⟨⟨some "acct", none, some mersenneName, some "/k", none⟩, true, .signRaw "text"⟩

theorem read_textArguments : Invocation.read textArguments = .ok textRun := by decide +kernel

section

variable {key : Rsa.PrivateKey}
  (hlength : (Pkcs1.encode key.toNumbers ⟨0, 0, 0⟩).length < 2 ^ 28 + 6)
include hlength

theorem parse_rsaText : PrivateKey.parse (rsaText key) = .ok (.rsa key) := by
  have hparse := (Rsa.Numbers.WrittenAs.pkcs1 .lf ⟨0, 0, 0⟩ hlength).parse
  rw [Rsa.PrivateKey.key_toNumbers] at hparse
  exact Wire.toOption_eq_some_iff.mp hparse

/-- With a key that is named and long enough, every text is signed. -/
theorem exit_signRaw_rsaHost (hprimes : key.HasPrimes) (hwide : 94 ≤ Bytes.width key.n)
    (hnamed : (PrivateKey.rsa key).fingerprint.isNamedBy mersenneName = true) (verbose : Bool)
    (text : String) :
    (Invocation.run (rsaHost key) ⟨textRun.overrides, verbose, .signRaw text⟩).exit = 0 := by
  have hload : (Settings.load (rsaHost key) textRun.overrides).value =
      .ok ⟨"acct", none, mersenneName, .file "/k"⟩ := rfl
  have hkey : (readKey (rsaHost key) "/k").value = .ok (.rsa key) :=
    readKey_eq_ok_iff.mpr ⟨_, rfl, parse_rsaText hlength⟩
  have hdraws : (rsaHost key).draws = fun _ => 0 := rfl
  obtain ⟨trial, htrial⟩ := PrivateKey.exists_sign_rsa_eq_ok hprimes hwide 0
    (Utf8.encode LocalSigner.selfTestText)
  obtain ⟨signature, hsign⟩ := PrivateKey.exists_sign_rsa_eq_ok hprimes hwide 0 (Utf8.encode text)
  have hmake := LocalSigner.make_of_signs hnamed htrial "acct" none
  have hchain : chain (rsaHost key) textRun.overrides (.signRaw text) =
      .ok (signatureText ⟨Base64.encode signature, .rsaSha512⟩) := by
    rw [chain, hload]
    simp only [mapError_ok, ok_bind, keyPath, hkey, hdraws, hmake]
    rw [LocalSigner.signRaw_of_signs hsign]
    rfl
  exact (run_of_ok hchain).1

/-- Signing with the key file of this host succeeds, for any key that is wide enough and is the key
asked for. -/
theorem exit_rsaHost (hprimes : key.HasPrimes) (hwide : 94 ≤ Bytes.width key.n)
    (hnamed : (PrivateKey.rsa key).fingerprint.isNamedBy mersenneName = true) :
    (run (rsaHost key) textArguments).exit = 0 := by
  rw [run, read_textArguments]
  exact exit_signRaw_rsaHost hlength hprimes hwide hnamed true "text"

end

theorem length_encode_mersenne :
    (Pkcs1.encode mersenneKey.toNumbers ⟨0, 0, 0⟩).length < 2 ^ 28 + 6 ∧
      (Pkcs1.encode swappedKey.toNumbers ⟨0, 0, 0⟩).length < 2 ^ 28 + 6 := by decide +kernel

/-- The keys of the two Mersenne primes are twins with other private exponents. -/
theorem twinTexts_mersenne :
    TwinTexts (rsaText mersenneKey) (rsaText swappedKey) (.rsa mersenneKey) (.rsa swappedKey) := by
  have hlabel : ∀ key : Rsa.PrivateKey,
      (Utf8.decode? (rsaText key)).bind PrivateKey.label? = some KeyEncoding.pkcs1.label := by
    intro key
    exact PrivateKey.encodingOf_eq_ok_iff.mp
      (KeyEncoding.encodingOf_armour (Pkcs1.encode_ne_nil _ _) .pkcs1 .lf)
  exact ⟨parse_rsaText length_encode_mersenne.1, parse_rsaText length_encode_mersenne.2,
    (hlabel swappedKey).trans (hlabel mersenneKey).symm, trivial, by decide +kernel⟩

/-- The runs print different signatures, or sign with different private numbers, and their logs are
equal. -/
theorem secrets_unlogged_sample :
    ((run (agentHost [4, 5, 6]) headerArguments).output ≠
        (run (agentHost [1, 2, 3]) headerArguments).output ∧
      (run (agentHost [1, 2, 3]) headerArguments).SameErrors
        (run (agentHost [4, 5, 6]) headerArguments)) ∧
    swappedKey.d ≠ mersenneKey.d ∧ (run (rsaHost mersenneKey) textArguments).exit = 0 ∧
      (run (rsaHost mersenneKey) textArguments).SameErrors
        (run (rsaHost swappedKey) textArguments) := by
  have hheader : ∀ invocation, Invocation.read headerArguments = .ok invocation →
      invocation.task ≠ .header none := by
    intro invocation hread
    have htask : (Invocation.read headerArguments).toOption.map Invocation.task =
        some (.header (some "d")) := by decide +kernel
    rw [hread] at htask
    rw [Option.some.inj htask]
    simp
  have htext : ∀ invocation, Invocation.read textArguments = .ok invocation →
      invocation.task ≠ .header none := by
    intro invocation hread
    obtain rfl := Except.ok.inj (read_textArguments.symm.trans hread)
    exact nofun
  have hdraws : (agentHost [4, 5, 6]).draws = (agentHost [1, 2, 3]).draws := rfl
  obtain ⟨hagents, -⟩ := secrets_unlogged hheader (.inl hdraws)
  obtain ⟨-, hsame, -⟩ := hagents alike_agentHost
  obtain ⟨-, hkeys⟩ := secrets_unlogged htext (.inl (draws_rsaHost mersenneKey swappedKey))
  have hwide : 94 ≤ Bytes.width mersenneKey.n ∧ 94 ≤ Bytes.width swappedKey.n := by decide +kernel
  have hnamed : (PrivateKey.rsa mersenneKey).fingerprint.isNamedBy mersenneName = true ∧
      (PrivateKey.rsa swappedKey).fingerprint.isNamedBy mersenneName = true := by decide +kernel
  have hexit := exit_rsaHost length_encode_mersenne.1 mersenneKey_hasPrimes hwide.1 hnamed.1
  have hotherExit := exit_rsaHost length_encode_mersenne.2 swappedKey_hasPrimes hwide.2 hnamed.2
  refine ⟨⟨by decide +kernel, hsame⟩, by decide +kernel, hexit, ?_⟩
  exact hkeys _ _ _ _ _ (alike_rsaHost _ _) (by decide) nofun twinTexts_mersenne hexit hotherExit

end RequestSigning.Command
