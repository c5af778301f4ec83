import RequestSigning.Proofs.Authorize
import RequestSigning.Proofs.AuthorizationValue
import RequestSigning.Proofs.NamedKey

/-!
# Names that a header cannot carry

Of all that is written into the two headers of a request only the account and the user are texts that
a caller chose. The other parts, the date, the fingerprint, the algorithm's name and the signature,
can always be carried, so whether an Authorization value is a header's value is settled by these two
(`SignerIdentity.isValue_authorization_make`). `uncarriable_names_refused` says it for every signer,
whatever it signed before (`Signer.MadeFor`): a request that the signer signs is refused exactly if
the account or the user has a control byte in it other than the tab.
-/

namespace RequestSigning

open Agent Headers

/-! ### The parts of the value -/

theorem Fingerprint.isValue_display (fingerprint : Fingerprint) :
    isValue fingerprint.display = true := by
  have hdigit : ∀ n < 16, isValueChar (Bytes.hexDigit n) = true := by decide
  exact isValue_iff.mpr (forall_mem_display hdigit (by decide) fingerprint)

theorem SigningAlgorithm.isValue_name (algorithm : SigningAlgorithm) :
    isValue algorithm.name = true := by
  cases algorithm <;> decide

theorem Base64.isValue_encode (bytes : Bytes) : isValue (encode bytes) = true := by
  have hdigit : ∀ n < 64, isValueChar (Char.ofNat (digit n).toNat) = true := by decide
  have hchars : ∀ b ∈ encodeBytes bytes, isValueChar (Char.ofNat b.toNat) = true :=
    forall_mem_encodeBytes hdigit (by decide) bytes
  rw [isValue_iff, encode, String.toList_ofList, List.forall_mem_map]
  exact hchars

namespace KeyId

/-- The text of a key id can be carried exactly if the names in it can. -/
theorem isValue_text (id : KeyId) :
    isValue id.text = (isValue id.account && id.user.all isValue) := by
  have hslash : isValue "/" = true := by decide
  have husers : isValue "/users/" = true := by decide
  have hkeys : isValue "/keys/" = true := by decide
  obtain ⟨account, user, fingerprint⟩ := id
  cases user <;> simp [text, hslash, husers, hkeys, fingerprint.isValue_display]

/-- An empty user is left out of a key id, and could be carried. -/
theorem isValue_text_make (account : String) (user : Option String) (fingerprint : Fingerprint) :
    isValue (make account user fingerprint).text = (isValue account && user.all isValue) := by
  rw [isValue_text]
  cases user with
  | none => rfl
  | some name =>
    by_cases hname : name = ""
    · have hempty : isValue "" = true := by decide
      simp [make, hname, hempty]
    · simp [make, Option.filter, hname]

end KeyId

/-- **The names decide.** An Authorization value can be carried exactly if the account and the user
can. -/
theorem SignerIdentity.isValue_authorization_make (account : String) (user : Option String)
    (fingerprint : Fingerprint) (algorithm : SigningAlgorithm) (signature : Bytes) :
    isValue (SignerIdentity.authorization ⟨KeyId.make account user fingerprint, algorithm⟩
      (Base64.encode signature)) = (isValue account && user.all isValue) := by
  have hstart : isValue "Signature keyId=\"" = true := by decide
  have halgorithm : isValue "\",algorithm=\"" = true := by decide
  have hheaders : isValue "\",headers=\"date\",signature=\"" = true := by decide
  have hend : isValue "\"" = true := by decide
  unfold authorization
  dsimp only
  -- the words between the parts stay closed, or Lean compares them character by character
  generalize "Signature keyId=\"" = start at hstart ⊢
  generalize "\",algorithm=\"" = next at halgorithm ⊢
  generalize "\",headers=\"date\",signature=\"" = last at hheaders ⊢
  generalize "\"" = quote at hend ⊢
  simp only [isValue_append, hstart, KeyId.isValue_text_make, halgorithm, algorithm.isValue_name,
    hheaders, Base64.isValue_encode, hend, Bool.true_and, Bool.and_true]

/-! ### Signers -/

namespace Signer

variable {σ : Type} [ByteStream σ] {account : String} {user : Option String}

/-- A signer **made for** an account and a user: one that was given out with a key of its own or with
a key of an agent, or one of these after it signed. -/
inductive MadeFor (account : String) (user : Option String) : Signer σ → Prop
  | ofKey {draw : Nat} {keyName : String} {key : PrivateKey} {signer : LocalSigner}
      (hmake : (LocalSigner.make draw keyName key account user).value = .ok signer) :
      MadeFor account user (.ofKey signer)
  | ofAgent {connect : String → Except IoFault σ} {path : Option String} {keyName : String}
      {signer : AgentSigner σ}
      (hmake : (AgentSigner.make connect path keyName account user).value.1 = .ok signer) :
      MadeFor account user (.ofAgent signer)
  | next {signer : Signer σ} (hmade : MadeFor account user signer) (turn : Nat × String) :
      MadeFor account user (signer.next turn)

theorem identity_next (signer : Signer σ) (turn : Nat × String) :
    (signer.next turn).identity = signer.identity := by
  cases signer with
  | ofKey signer => rfl
  | ofAgent signer =>
    have hvalue := AgentSigner.value_sign signer turn.2
    simp only [next, sign, Logged.value_bind, Logged.value_pure, hvalue]
    rfl

/-- A signer signs as the account and the user that it was made for. -/
theorem MadeFor.identity_eq {signer : Signer σ} (h : MadeFor account user signer) :
    ∃ fingerprint algorithm,
      signer.identity = ⟨KeyId.make account user fingerprint, algorithm⟩ := by
  induction h with
  | ofKey hmake =>
    obtain ⟨-, rfl⟩ := LocalSigner.make_eq_ok hmake
    exact ⟨_, _, rfl⟩
  | ofAgent hmake =>
    obtain ⟨_, _, _, -, -, -, key, -, -, rfl⟩ := AgentSigner.make_eq_ok hmake
    exact ⟨_, _, rfl⟩
  | next _ turn ih => rwa [identity_next]

/-- What a signer signs is the Authorization value of its identity for some signature. -/
theorem sign_eq_ok {signer : Signer σ} {draw : Nat} {date text : String}
    (h : (sign draw date signer).value.1 = .ok text) :
    ∃ signature, text = signer.identity.authorization (Base64.encode signature) := by
  cases signer with
  | ofKey signer =>
    obtain ⟨signature, -, rfl⟩ := LocalSigner.sign_eq_ok h
    exact ⟨signature, rfl⟩
  | ofAgent signer =>
    simp only [sign, Logged.value_bind, Logged.value_pure, AgentSigner.value_sign] at h
    obtain ⟨-, signature, -, -, hpassed⟩ := AgentSigner.signed_eq_ok h
    obtain ⟨-, rfl⟩ := AgentSigner.authorization_eq_ok hpassed
    exact ⟨signature.blob, rfl⟩

end Signer

/-! ### The main statement -/

variable {σ : Type} [ByteStream σ]

theorem Headers.exists_settle_error_iff {headers : Headers} {date text : String} :
    (∃ e, (settle headers date (.ok text)).1 = .error e) ↔ isValue text = false := by
  cases htext : isValue text <;> simp [settle, htext]

/-- What a signer signs settles the map it is asked for. -/
theorem Headers.value_authorize_of_sign {signer : Signer σ} {draw : Nat} {time : Timestamp}
    {answer : Except AuthError String}
    (hsign : (Signer.sign draw (httpDate time) signer).value.1 = answer) (headers : Headers) :
    (((Headers.authorize (Signer.sign draw) time).run.run headers).run signer).value.1 =
      settle headers (httpDate time) answer := by
  rw [run_authorize, StateT.run_map, Logged.value_map, ← hsign]
  rfl

/-- **Uncarriable names.** Let a signer be made for an account and a user, and let it sign for the
text of a time. Authorizing a request at that time fails exactly if a byte of the account or of the
user is refused in a header's value. The error is then about the authorization, and the map stays as
it was. No other part is ever the reason: no byte of the date is refused, and none of the fingerprint,
the algorithm's name and the signature that the signed text is made of. -/
theorem uncarriable_names_refused {account : String} {user : Option String} {signer : Signer σ}
    (hmade : signer.MadeFor account user) {draw : Nat} {time : Timestamp} {text : String}
    (hsign : (Signer.sign draw (httpDate time) signer).value.1 = .ok text) (headers : Headers) :
    ∃ outcome after,
      (((Headers.authorize (Signer.sign draw) time).run.run headers).run signer).value.1 =
        (outcome, after) ∧
      ((∃ e, outcome = .error e) ↔
        (∃ b ∈ Utf8.encode account, isRefusedByte b = true) ∨
          ∃ name ∈ user, ∃ b ∈ Utf8.encode name, isRefusedByte b = true) ∧
      (∀ e, outcome = .error e →
        e = .invalidHeader "authorization" "failed to parse header value" ∧ after = headers) ∧
      ∃ signature, text = signer.identity.authorization (Base64.encode signature) ∧
        ∀ part ∈ [httpDate time, signer.keyFingerprint, signer.identity.algorithm.name,
          Base64.encode signature], ∀ b ∈ Utf8.encode part, isRefusedByte b = false := by
  obtain ⟨signature, htext⟩ := Signer.sign_eq_ok hsign
  obtain ⟨fingerprint, algorithm, hidentity⟩ := hmade.identity_eq
  have hnames : isValue text = (isValue account && user.all isValue) := by
    rw [htext, hidentity, SignerIdentity.isValue_authorization_make]
  refine ⟨(settle headers (httpDate time) (.ok text)).1, (settle headers (httpDate time) (.ok text)).2,
    Headers.value_authorize_of_sign hsign headers, ?_, fun e he => ?_, signature, htext, ?_⟩
  · rw [exists_settle_error_iff, hnames, Bool.and_eq_false_iff, isValue_eq_false_iff]
    cases user with
    | none => simp
    | some name => simp [isValue_eq_false_iff]
  · -- the signer gave a text, so the error is about that text
    obtain ⟨hmap, hown | ⟨_, -, -, hreason⟩⟩ := settle_eq_error he
    · exact nomatch hown
    · exact ⟨hreason, hmap⟩
  · simp only [List.forall_mem_cons, ← isValue_iff_forall_byte]
    exact ⟨isValue_httpDate time, Fingerprint.isValue_display _, SigningAlgorithm.isValue_name _,
      Base64.isValue_encode signature, by simp⟩

/-- The agent's key of the sample, for a user whose name ends in a line feed. -/
theorem uncarriable_names_refused_lineFeed :
    ∃ signer text e after,
      (AgentSigner.make sampleHost.connect (some "/s") sampleConfig.keyId "acct"
        (some "u\n")).value.1 = .ok signer ∧
      (Signer.sign 0 (httpDate sampleHost.now) (.ofAgent signer)).value.1 = .ok text ∧
      (((Headers.authorize (Signer.sign 0) sampleHost.now).run.run Headers.empty).run
        (.ofAgent signer)).value.1 = (.error e, after) ∧
      e = .invalidHeader "authorization" "failed to parse header value" ∧ after = Headers.empty := by
  have hruns : ((AgentSigner.make sampleHost.connect (some "/s") sampleConfig.keyId "acct"
      (some "u\n")).value.1.toOption.bind fun signer =>
        (Signer.sign 0 (httpDate sampleHost.now) (.ofAgent signer)).value.1.toOption).isSome =
      true := by decide +kernel
  obtain ⟨text, htext⟩ := Option.isSome_iff_exists.mp hruns
  simp only [Option.bind_eq_some_iff, Wire.toOption_eq_some_iff] at htext
  obtain ⟨signer, hmake, hsign⟩ := htext
  obtain ⟨outcome, after, hrun, hrefused, hreason, -⟩ :=
    uncarriable_names_refused (.ofAgent hmake) hsign Headers.empty
  have hbyte : ∃ b ∈ Utf8.encode "u\n", isRefusedByte b = true := ⟨10, by decide, by decide⟩
  obtain ⟨e, rfl⟩ := hrefused.mpr (.inr ⟨_, rfl, hbyte⟩)
  exact ⟨signer, text, e, after, hmake, hsign, hrun, hreason e rfl⟩

end RequestSigning
