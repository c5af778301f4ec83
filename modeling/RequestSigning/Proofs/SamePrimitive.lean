import RequestSigning.Proofs.LogSecrecy

/-!
# A header and a text are signed alike

Signing a date is signing the text made of it, and writing the signature into an Authorization value
(`LocalSigner.value_sign`). The command has two ways to a signature with the key in a file, each with
its own way to build the signer: one for the header of a date and one for any text. Both succeed
exactly where the key in the file makes a signer that signs (`Command.chain_header_eq_ok_iff`,
`Command.chain_signRaw_eq_ok_iff`), so the header of a date and the text of that date are signed, or
not, together, and carry one algorithm and one signature (`Command.header_and_text_agree`).
-/

namespace RequestSigning

open Agent

/-! ### Signers -/

namespace LocalSigner

variable {signer : LocalSigner} {draw otherDraw : Nat} {date text : String}

/-- **One primitive.** A date is signed as its text is, and the signature written into the
Authorization value. -/
theorem value_sign (signer : LocalSigner) (draw : Nat) (date : String) :
    (signer.sign draw date).value = (signer.signRaw draw (signingString date)).value.map
      fun raw => signer.identity.authorization raw.signature := by
  simp only [sign, signRaw, Logged.value_bind, Logged.value_pure]
  cases (signer.signText draw (signingString date)).value <;> rfl

theorem sign_eq_ok_iff {value : String} :
    (signer.sign draw date).value = .ok value ↔
      ∃ raw, (signer.signRaw draw (signingString date)).value = .ok raw ∧
        signer.identity.authorization raw.signature = value := by
  rw [value_sign]
  cases (signer.signRaw draw (signingString date)).value <;> simp [Except.map]

/-- A text is signed with the signer's one algorithm. -/
theorem algorithm_signRaw {raw : RawSignature} (h : (signer.signRaw draw text).value = .ok raw) :
    raw.algorithm = signer.defaultAlgorithm := by
  obtain ⟨signature, -, rfl⟩ := signRaw_eq_ok h
  rfl

theorem signRaw_of_drawless (h : signer.key.Drawless) (draw otherDraw : Nat) (text : String) :
    signer.signRaw draw text = signer.signRaw otherDraw text := by
  rw [signRaw, signRaw, signText_of_drawless h draw otherDraw]

theorem value_sign_of_signRaw (h : signer.key.Drawless) {raw : RawSignature}
    (hraw : (signer.signRaw otherDraw (signingString date)).value = .ok raw) (draw : Nat) :
    (signer.sign draw date).value = .ok (signer.identity.authorization raw.signature) := by
  rw [signRaw_of_drawless h otherDraw draw] at hraw
  exact sign_eq_ok_iff.mpr ⟨raw, hraw, rfl⟩

end LocalSigner

/-- A signer is made for the key in a file. -/
theorem Config.keySigner_eq_ok {σ : Type} {config : Config} {host : Host σ} {path : String}
    {signer : LocalSigner} (h : (config.keySigner host path).value = .ok signer) :
    ∃ key, KeyAt host path key ∧ key.fingerprint.isNamedBy config.keyId = true ∧
      signer = ⟨key, ⟨KeyId.make config.account config.user key.fingerprint, key.algorithm⟩⟩ := by
  rw [value_keySigner, bind_eq_ok_iff] at h
  obtain ⟨key, hkey, hmake⟩ := h
  exact ⟨key, readKey_eq_ok_iff.mp hkey, LocalSigner.make_eq_ok hmake⟩

/-! ### The two commands -/

namespace Command

variable {σ : Type} [ByteStream σ] {host : Host σ} {overrides : Settings} {config : Config}
  {path : String}

/-- The run for the header of a date. -/
def headerRun (host : Host σ) (overrides : Settings) (verbose : Bool) (date : String) : Record σ :=
  Invocation.run host ⟨overrides, verbose, .header (some date)⟩

/-- The run for the signature of a text. -/
def rawRun (host : Host σ) (overrides : Settings) (verbose : Bool) (text : String) : Record σ :=
  Invocation.run host ⟨overrides, verbose, .signRaw text⟩

theorem exit_eq_zero_iff {invocation : Invocation} :
    (invocation.run host).exit = 0 ↔
      ∃ output, chain host invocation.overrides invocation.task = .ok output := by
  cases hchain : chain host invocation.overrides invocation.task with
  | ok output => simp [(run_of_ok hchain).1]
  | error failure => simp [(run_of_error hchain).1]

section

variable (hload : (Settings.load host overrides).value = .ok config)
  (hsource : config.keySource = .file path)
include hload hsource

/-- A header is printed exactly where the key in the file makes a signer that signs the text of the
date. -/
theorem chain_header_eq_ok_iff {date output : String} :
    chain host overrides (.header (some date)) = .ok output ↔
      ∃ signer raw, (config.keySigner host path).value = .ok signer ∧
        (signer.signRaw (host.draws 1) (signingString date)).value = .ok raw ∧
        headerText date (signer.identity.authorization raw.signature) = output := by
  have hbuild : (config.buildSigner host).value.1 =
      (config.keySigner host path).value.map .ofKey := by
    rw [Config.buildSigner, hsource]
    rfl
  have hsign : ∀ signer : LocalSigner,
      (Signer.sign (host.draws 1) date (.ofKey signer : Signer σ)).value.1 =
        (signer.sign (host.draws 1) date).value := fun signer => rfl
  rw [chain, hload, mapError_ok, ok_bind, hbuild]
  cases (config.keySigner host path).value with
  | error e => simp [Except.map]
  | ok signer =>
    simp only [Except.map, mapError_ok, ok_bind, Option.getD_some, hsign, bind_eq_ok_iff,
      mapError_eq_ok_iff, LocalSigner.sign_eq_ok_iff]
    constructor
    · rintro ⟨value, ⟨raw, hraw, rfl⟩, htext⟩
      exact ⟨signer, raw, rfl, hraw, Except.ok.inj htext⟩
    · rintro ⟨_, raw, ⟨⟩, hraw, htext⟩
      exact ⟨_, ⟨raw, hraw, rfl⟩, congrArg _ htext⟩

/-- A text's signature is printed exactly where the key in the file makes a signer that signs the
text. -/
theorem chain_signRaw_eq_ok_iff {text output : String} :
    chain host overrides (.signRaw text) = .ok output ↔
      ∃ signer raw, (config.keySigner host path).value = .ok signer ∧
        (signer.signRaw (host.draws 1) text).value = .ok raw ∧ signatureText raw = output := by
  have hpath : keyPath config = .ok path := keyPath_eq_ok_iff.mpr hsource
  rw [chain, hload, mapError_ok, ok_bind, hpath, ok_bind, Config.value_keySigner]
  simp only [bind_eq_ok_iff, mapError_eq_ok_iff]
  constructor
  · rintro ⟨key, hkey, signer, hmake, raw, hraw, htext⟩
    exact ⟨signer, raw, ⟨key, hkey, hmake⟩, hraw, Except.ok.inj htext⟩
  · rintro ⟨signer, raw, ⟨key, hkey, hmake⟩, hraw, htext⟩
    exact ⟨key, hkey, signer, hmake, raw, hraw, congrArg _ htext⟩

section Runs

variable (hkeys : config.Drawless host) (now : Timestamp) (draws : Nat → Nat) (date : String)
include hkeys

/-- In another run the key in the file makes the same signer, which signs the same. -/
theorem chain_signRaw_rerun_eq_ok_iff {output : String} :
    chain (host.rerun host.environment now draws) overrides (.signRaw (signingString date)) =
        .ok output ↔
      ∃ signer raw, (config.keySigner host path).value = .ok signer ∧
        (signer.signRaw (host.draws 1) (signingString date)).value = .ok raw ∧
        signatureText raw = output := by
  have hsigner : config.keySigner (host.rerun host.environment now draws) path =
      config.keySigner host path :=
    Config.keySigner_congr rfl fun key hkey => .inr (hkeys path key hsource hkey)
  have hload' : (Settings.load (host.rerun host.environment now draws) overrides).value =
      .ok config := hload
  rw [chain_signRaw_eq_ok_iff hload' hsource, hsigner]
  refine exists_congr fun signer => exists_congr fun raw => and_congr_right fun hmake => ?_
  obtain ⟨key, hkey, -, rfl⟩ := Config.keySigner_eq_ok hmake
  rw [LocalSigner.signRaw_of_drawless (hkeys path key hsource hkey) _ (host.draws 1)]

theorem exit_headerRun_iff (verbose otherVerbose : Bool) :
    (headerRun host overrides verbose date).exit = 0 ↔
      (rawRun (host.rerun host.environment now draws) overrides otherVerbose
        (signingString date)).exit = 0 := by
  simp only [headerRun, rawRun, exit_eq_zero_iff, chain_header_eq_ok_iff hload hsource,
    chain_signRaw_rerun_eq_ok_iff hload hsource hkeys]
  constructor
  · rintro ⟨_, signer, raw, hmake, hraw, -⟩
    exact ⟨_, signer, raw, hmake, hraw, rfl⟩
  · rintro ⟨_, signer, raw, hmake, hraw, -⟩
    exact ⟨_, signer, raw, hmake, hraw, rfl⟩

/-- A header and a text that are both printed carry one algorithm and one signature. -/
theorem outputs_of_exit (verbose : Bool) {otherVerbose : Bool}
    (hexit : (rawRun (host.rerun host.environment now draws) overrides otherVerbose
      (signingString date)).exit = 0) :
    ∃ identity : SignerIdentity, ∃ signature,
      (headerRun host overrides verbose date).output =
        headerText date (identity.authorization signature) ∧
      (rawRun (host.rerun host.environment now draws) overrides otherVerbose
        (signingString date)).output = signatureText ⟨signature, identity.algorithm⟩ := by
  rw [rawRun] at hexit ⊢
  obtain ⟨output, htext⟩ := exit_eq_zero_iff.mp hexit
  obtain ⟨signer, raw, hmake, hraw, rfl⟩ :=
    (chain_signRaw_rerun_eq_ok_iff hload hsource hkeys now draws date).mp htext
  have hheader := (chain_header_eq_ok_iff hload hsource).mpr ⟨signer, raw, hmake, hraw, rfl⟩
  obtain ⟨signature, -, rfl⟩ := LocalSigner.signRaw_eq_ok hraw
  exact ⟨signer.identity, _, (run_of_ok hheader).2, (run_of_ok htext).2⟩

end Runs

/-- **A header and a text are signed alike.** Let settings load with a key in a file, which does not
draw random numbers. The command succeeds for the header of a date exactly if it does, in another run
and whatever each of the two logs, for the text of that date. Then one algorithm and one signature
stand in the Authorization value of the one and in the lines of the other. So it is for every signer
that was made for the key: it signs the date exactly if it signs the text, and the one is the
Authorization value for the signature of the other, with the algorithm that the signer always uses. -/
theorem header_and_text_agree (hkeys : config.Drawless host) (now : Timestamp) (draws : Nat → Nat)
    (verbose otherVerbose : Bool) (date : String) :
    ((headerRun host overrides verbose date).exit = 0 ↔
      (rawRun (host.rerun host.environment now draws) overrides otherVerbose
        ("date: " ++ date)).exit = 0) ∧
    ((rawRun (host.rerun host.environment now draws) overrides otherVerbose
        ("date: " ++ date)).exit = 0 →
      ∃ keyId, ∃ algorithm : SigningAlgorithm, ∃ signature,
        (headerRun host overrides verbose date).output = "date: " ++ date ++ "\nauthorization: " ++
          ("Signature keyId=\"" ++ keyId ++ "\",algorithm=\"" ++ algorithm.name ++
            "\",headers=\"date\",signature=\"" ++ signature ++ "\"") ++ "\n" ∧
        (rawRun (host.rerun host.environment now draws) overrides otherVerbose
          ("date: " ++ date)).output =
            "algorithm: " ++ algorithm.name ++ "\nsignature: " ++ signature ++ "\n") ∧
    ∀ key trial keyName account user signer, KeyAt host path key →
      (LocalSigner.make trial keyName key account user).value = .ok signer →
      ∀ draw otherDraw,
        ((∃ value, (signer.sign draw date).value = .ok value) ↔
          ∃ raw, (signer.signRaw otherDraw ("date: " ++ date)).value = .ok raw) ∧
        ∀ raw, (signer.signRaw otherDraw ("date: " ++ date)).value = .ok raw →
          (signer.sign draw date).value = .ok (signer.identity.authorization raw.signature) ∧
          raw.algorithm = signer.defaultAlgorithm ∧
          signer.identity.authorization raw.signature =
            "Signature keyId=\"" ++ signer.identity.keyId.text ++ "\",algorithm=\"" ++
              raw.algorithm.name ++ "\",headers=\"date\",signature=\"" ++ raw.signature ++ "\"" := by
  refine ⟨exit_headerRun_iff hload hsource hkeys now draws date verbose otherVerbose,
    fun hexit => ?_, ?_⟩
  · obtain ⟨identity, signature, hheader, htext⟩ :=
      outputs_of_exit hload hsource hkeys now draws date verbose hexit
    unfold SignerIdentity.authorization at hheader
    exact ⟨identity.keyId.text, identity.algorithm, signature, hheader, htext⟩
  · intro key trial keyName account user signer hkey hmake draw otherDraw
    have hdrawless : signer.key.Drawless := by
      obtain ⟨-, rfl⟩ := LocalSigner.make_eq_ok hmake
      exact hkeys path key hsource hkey
    refine ⟨⟨fun ⟨value, hvalue⟩ => ?_, fun ⟨raw, hraw⟩ =>
      ⟨_, LocalSigner.value_sign_of_signRaw hdrawless hraw draw⟩⟩, fun raw hraw =>
      ⟨LocalSigner.value_sign_of_signRaw hdrawless hraw draw, LocalSigner.algorithm_signRaw hraw, ?_⟩⟩
    · obtain ⟨raw, hraw, -⟩ := LocalSigner.sign_eq_ok_iff.mp hvalue
      rw [LocalSigner.signRaw_of_drawless hdrawless draw otherDraw] at hraw
      exact ⟨raw, hraw⟩
    · rw [LocalSigner.algorithm_signRaw hraw, LocalSigner.defaultAlgorithm]
      unfold SignerIdentity.authorization
      rfl

end

/-- The key in the file at `/k` is RSA. -/
theorem drawless_rsaHost :
    Config.Drawless ⟨"acct", none, mersenneName, .file "/k"⟩ (rsaHost mersenneKey) := by
  rintro path key hsource ⟨bytes, hread, hparse⟩
  obtain rfl := KeySource.file.inj hsource
  obtain rfl : rsaText mersenneKey = bytes := Except.ok.inj hread
  obtain rfl := Except.ok.inj ((parse_rsaText length_encode_mersenne.1).symm.trans hparse)
  trivial

/-- A key of two Mersenne primes signs the header of a date, and in a run with other random numbers
the text of that date. -/
theorem header_and_text_agree_mersenne :
    (headerRun (rsaHost mersenneKey) textRun.overrides true "d").exit = 0 ∧
      (rawRun ((rsaHost mersenneKey).rerun ⟨[]⟩ (rsaHost mersenneKey).now fun _ => 1)
        textRun.overrides false ("date: " ++ "d")).exit = 0 := by
  have hload : (Settings.load (rsaHost mersenneKey) textRun.overrides).value =
      .ok ⟨"acct", none, mersenneName, .file "/k"⟩ := rfl
  have htext : (rawRun (rsaHost mersenneKey) textRun.overrides false ("date: " ++ "d")).exit = 0 :=
    exit_signRaw_rsaHost length_encode_mersenne.1 mersenneKey_hasPrimes (by decide +kernel)
      (by decide +kernel) false _
  have hagree := fun draws => header_and_text_agree hload rfl drawless_rsaHost
    (rsaHost mersenneKey).now draws true false "d"
  have hheader := (hagree fun _ => 0).1.mpr htext
  exact ⟨hheader, (hagree fun _ => 1).1.mp hheader⟩

end Command

end RequestSigning
