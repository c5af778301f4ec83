import RequestSigning.Proofs.SamePrimitive
import RequestSigning.Proofs.UncarriableNames

/-!
# The lines that a header is printed in

The command writes the two headers of a request line by line, and does not check the texts in them as
`authorize` does. Three of these texts are a caller's: the date, if it is given, the account and the
user. The other parts of the lines can always be carried and hold no line feed. So what is printed
can be sent exactly if those three can be carried, and is two lines exactly if none of them has a line
feed (`Command.printed_lines_iff`). A date of two lines is printed as two (`Command.prints_refused_date`).
-/

namespace RequestSigning

open Agent Headers

/-! ### Line feeds -/

/-- The line feeds in a text. -/
def lineFeeds (text : String) : Nat :=
  text.toList.count '\n'

@[simp] theorem lineFeeds_append (text other : String) :
    lineFeeds (text ++ other) = lineFeeds text + lineFeeds other := by
  rw [lineFeeds, String.toList_append, List.count_append, lineFeeds, lineFeeds]

theorem lineFeeds_eq_zero_iff {text : String} : lineFeeds text = 0 ↔ '\n' ∉ text.toList :=
  List.count_eq_zero

/-- A text that a header can carry has none. -/
theorem lineFeeds_of_isValue {text : String} (h : isValue text = true) : lineFeeds text = 0 := by
  refine lineFeeds_eq_zero_iff.mpr fun hmem => ?_
  have hchar := isValue_iff.mp h '\n' hmem
  revert hchar
  decide

/-- The line feeds in the texts of some. -/
def lineFeedsIn (texts : List String) : Nat :=
  (texts.map lineFeeds).sum

theorem lineFeedsIn_eq_zero_iff {texts : List String} :
    lineFeedsIn texts = 0 ↔ ∀ text ∈ texts, '\n' ∉ text.toList := by
  simp [lineFeedsIn, List.sum_eq_zero_iff, lineFeeds_eq_zero_iff]

theorem KeyId.lineFeeds_text (id : KeyId) :
    lineFeeds id.text = lineFeedsIn (id.account :: id.user.toList) := by
  have hslash : lineFeeds "/" = 0 := by decide
  have husers : lineFeeds "/users/" = 0 := by decide
  have hkeys : lineFeeds "/keys/" = 0 := by decide
  have hdisplay : lineFeeds id.fingerprint.display = 0 :=
    lineFeeds_of_isValue id.fingerprint.isValue_display
  obtain ⟨account, user, fingerprint⟩ := id
  cases user <;> simp [text, lineFeedsIn, hslash, husers, hkeys, hdisplay]

/-- An empty user is left out of a key id, and has no line feed. -/
theorem KeyId.lineFeeds_text_make (account : String) (user : Option String)
    (fingerprint : Fingerprint) :
    lineFeeds (make account user fingerprint).text = lineFeedsIn (account :: user.toList) := by
  rw [lineFeeds_text]
  cases user with
  | none => rfl
  | some name =>
    by_cases hname : name = ""
    · have hempty : lineFeeds "" = 0 := by decide
      simp [make, Option.filter, lineFeedsIn, hname, hempty]
    · simp [make, Option.filter, hname]

/-- In an Authorization value only the account and the user can have line feeds. -/
theorem SignerIdentity.lineFeeds_authorization_make (account : String) (user : Option String)
    (fingerprint : Fingerprint) (algorithm : SigningAlgorithm) (signature : Bytes) :
    lineFeeds (SignerIdentity.authorization ⟨KeyId.make account user fingerprint, algorithm⟩
      (Base64.encode signature)) = lineFeedsIn (account :: user.toList) := by
  have hstart : lineFeeds "Signature keyId=\"" = 0 := by decide
  have hnext : lineFeeds "\",algorithm=\"" = 0 := by decide
  have hlast : lineFeeds "\",headers=\"date\",signature=\"" = 0 := by decide
  have hend : lineFeeds "\"" = 0 := by decide
  have halgorithm := lineFeeds_of_isValue algorithm.isValue_name
  have hsignature := lineFeeds_of_isValue (Base64.isValue_encode signature)
  unfold authorization
  dsimp only
  -- the words between the parts stay closed, or Lean compares them character by character
  generalize "Signature keyId=\"" = start at hstart ⊢
  generalize "\",algorithm=\"" = next at hnext ⊢
  generalize "\",headers=\"date\",signature=\"" = last at hlast ⊢
  generalize "\"" = quote at hend ⊢
  simp only [lineFeeds_append, hstart, KeyId.lineFeeds_text_make, hnext, halgorithm, hlast,
    hsignature, hend, Nat.zero_add, Nat.add_zero]

/-! ### What a signer writes -/

/-- A built signer signs as the account and the user of its configuration. -/
theorem Signer.Built.identity_eq {σ : Type} {config : Config} {host : Host σ} {signer : Signer σ}
    (h : Built config host signer) :
    ∃ fingerprint algorithm,
      signer.identity = ⟨KeyId.make config.account config.user fingerprint, algorithm⟩ := by
  cases h <;> exact ⟨_, _, rfl⟩

theorem headerValue_eq_ok_iff {name text : String} :
    headerValue name text = .ok text ↔ isValue text = true := by
  rw [headerValue]
  split_ifs with h <;> simp [h]

namespace Command

variable {σ : Type} [ByteStream σ] {host : Host σ} {overrides : Settings}

/-- The texts of a header that a caller **chooses**. -/
def chosenTexts (config : Config) (date : Option String) : List String :=
  date.toList ++ config.account :: config.user.toList

theorem isValue_getD_date (date : Option String) (now : Timestamp) :
    isValue (date.getD (httpDate now)) = true ↔ ∀ text ∈ date.toList, isValue text = true := by
  cases date <;> simp [isValue_httpDate]

theorem lineFeeds_getD_date (date : Option String) (now : Timestamp) :
    lineFeeds (date.getD (httpDate now)) = lineFeedsIn date.toList := by
  cases date <;> simp [lineFeedsIn, lineFeeds_of_isValue (isValue_httpDate now)]

theorem lineFeeds_headerText (date value : String) :
    lineFeeds (headerText date value) = lineFeeds date + lineFeeds value + 2 := by
  have hstart : lineFeeds "date: " = 0 := by decide
  have hnext : lineFeeds "\nauthorization: " = 1 := by decide
  have hend : lineFeeds "\n" = 1 := by decide
  rw [headerText]
  simp only [lineFeeds_append, hstart, hnext, hend]
  omega

/-- **Printed lines.** A run that exits with 0 for a header prints the date that it signed and what
the signer of the configuration answered. Both can be carried in a header, as `authorize` checks it,
exactly if the texts that the caller chose can: the date, if one is given, the account and the user.
The output is two lines exactly if none of these has a line feed. -/
theorem printed_lines_iff {verbose : Bool} {date : Option String}
    (hexit : (Invocation.run host ⟨overrides, verbose, .header date⟩).exit = 0) :
    ∃ config signer value,
      (Settings.load host overrides).value = .ok config ∧
      (config.buildSigner host).value.1 = .ok signer ∧
      (Signer.sign (host.draws 1) (date.getD (httpDate host.now)) signer).value.1 = .ok value ∧
      (Invocation.run host ⟨overrides, verbose, .header date⟩).output =
        "date: " ++ date.getD (httpDate host.now) ++ "\nauthorization: " ++ value ++ "\n" ∧
      (headerValue dateHeader (date.getD (httpDate host.now)) =
            .ok (date.getD (httpDate host.now)) ∧
          headerValue authorizationHeader value = .ok value ↔
        ∀ text ∈ chosenTexts config date, isValue text = true) ∧
      (lineFeeds (Invocation.run host ⟨overrides, verbose, .header date⟩).output = 2 ↔
        ∀ text ∈ chosenTexts config date, '\n' ∉ text.toList) := by
  obtain ⟨output, hchain⟩ := exit_eq_zero_iff.mp hexit
  have houtput := (run_of_ok hchain).2
  simp only [chain, bind_eq_ok_iff, mapError_eq_ok_iff] at hchain
  obtain ⟨config, hload, signer, hbuild, value, hsign, htext⟩ := hchain
  obtain rfl := Except.ok.inj htext
  obtain ⟨signature, hvalue⟩ := Signer.sign_eq_ok hsign
  obtain ⟨fingerprint, algorithm, hidentity⟩ := (Signer.built_of_buildSigner hbuild).identity_eq
  rw [hidentity] at hvalue
  refine ⟨config, signer, value, hload, hbuild, hsign, houtput, ?_, ?_⟩
  · rw [headerValue_eq_ok_iff, headerValue_eq_ok_iff, isValue_getD_date, hvalue,
      SignerIdentity.isValue_authorization_make, chosenTexts, List.forall_mem_append,
      List.forall_mem_cons, Bool.and_eq_true]
    cases config.user <;> simp
  · have hfeeds : lineFeedsIn (chosenTexts config date) =
        lineFeedsIn date.toList + lineFeedsIn (config.account :: config.user.toList) := by
      rw [chosenTexts, lineFeedsIn, List.map_append, List.sum_append, lineFeedsIn, lineFeedsIn]
    rw [houtput, lineFeeds_headerText, lineFeeds_getD_date, hvalue,
      SignerIdentity.lineFeeds_authorization_make, ← hfeeds, ← lineFeedsIn_eq_zero_iff]
    omega

/-- A header for a date with a line feed in it, signed by the agent of the sample. -/
def refusedDateRun : Record MemoryStream :=
  Invocation.run sampleHost ⟨agentRun.overrides, false, .header (some "d\nx: y")⟩

/-- **A refused date is printed.** The date has a line feed, so that no header can carry it. The run
succeeds, and prints one more line than the two of the headers. -/
theorem prints_refused_date :
    headerValue dateHeader "d\nx: y" = .error (.invalidHeader "date" "failed to parse header value") ∧
      refusedDateRun.exit = 0 ∧
      refusedDateRun.output = "date: d\nx: y\nauthorization: Signature keyId=\"/acct/users/u/keys/" ++
        "89:e7:4e:64:0b:8c:46:25:7a:29:de:06:16:79:4d:5d\",algorithm=\"rsa-sha1\"," ++
        "headers=\"date\",signature=\"AQID\"\n" ∧
      lineFeeds refusedDateRun.output = 3 := by
  decide +kernel

/-- With a date of one line the agent of the sample signs for two lines that can be sent. -/
theorem printed_lines_iff_sample :
    (agentRun.run sampleHost).exit = 0 ∧ lineFeeds (agentRun.run sampleHost).output = 2 ∧
      headerValue dateHeader "d" = .ok "d" := by
  have hexit : (agentRun.run sampleHost).exit = 0 := by decide +kernel
  obtain ⟨config, signer, value, hload, -, -, -, hcarried, hlines⟩ := printed_lines_iff hexit
  have hconfig : (Settings.load sampleHost agentRun.overrides).value =
      .ok ⟨"acct", some "u", " MD5:89:E7:4E:64:0B:8C:46:25:7A:29:DE:06:16:79:4D:5D",
        .agent (some "/s")⟩ := rfl
  obtain rfl := Except.ok.inj (hconfig.symm.trans hload)
  exact ⟨hexit, hlines.mpr (by decide), (hcarried.mpr (by decide)).1⟩

end Command

end RequestSigning
