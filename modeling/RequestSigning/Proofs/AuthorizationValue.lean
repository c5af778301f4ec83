import RequestSigning.Identity
import RequestSigning.Proofs.Base64
import RequestSigning.Proofs.Fingerprint
import RequestSigning.Proofs.TextReading

/-!
# Reading the Authorization value

A verifier reads the Authorization value from left to right, and each value in it ends at the next
double quote (`AuthorizationFields.read?`). The account and the user are written into it as they are,
so it reads back as what it was made of exactly if neither has a quote in it. The key id has the
account and the user between slashes; where these have no slash of their own, its text belongs to one
account, one user and one key only (`KeyId.text_inj`). `authorization_reads_back_iff` says both.
-/

namespace RequestSigning

/-! ### The text of a key id -/

namespace KeyId

theorem toList_text_of_none (account : String) (fingerprint : Fingerprint) :
    (KeyId.text ⟨account, none, fingerprint⟩).toList =
      '/' :: (account.toList ++ '/' :: ("keys/".toList ++ fingerprint.display.toList)) := by
  simp [text]

theorem toList_text_of_some (account user : String) (fingerprint : Fingerprint) :
    (KeyId.text ⟨account, some user, fingerprint⟩).toList =
      '/' :: (account.toList ++ '/' :: ("users/".toList ++
        (user.toList ++ '/' :: ("keys/".toList ++ fingerprint.display.toList)))) := by
  simp [text]

/-- Key ids whose accounts and users have no slash are the same if their texts are. -/
theorem text_inj {first second : KeyId} (haccount : '/' ∉ first.account.toList)
    (hother : '/' ∉ second.account.toList) (huser : ∀ name ∈ first.user, '/' ∉ name.toList)
    (hotherUser : ∀ name ∈ second.user, '/' ∉ name.toList) :
    first.text = second.text ↔ first = second := by
  refine ⟨fun h => ?_, fun h => by rw [h]⟩
  obtain ⟨account, user, fingerprint⟩ := first
  obtain ⟨otherAccount, otherUser, otherFingerprint⟩ := second
  dsimp only at haccount hother huser hotherUser
  have hlist := congrArg String.toList h
  -- the account ends at the second slash; what follows it tells whether there is a user
  cases user with
  | none =>
    cases otherUser with
    | none =>
      rw [toList_text_of_none, toList_text_of_none, List.cons_inj_right,
        Text.append_stop_inj haccount hother] at hlist
      obtain ⟨hname, hkey⟩ := hlist
      rw [List.append_cancel_left_eq, String.toList_inj] at hkey
      rw [String.toList_inj.mp hname, Fingerprint.display_injective hkey]
    | some otherName =>
      rw [toList_text_of_none, toList_text_of_some, List.cons_inj_right,
        Text.append_stop_inj haccount hother] at hlist
      simp at hlist
  | some name =>
    cases otherUser with
    | none =>
      rw [toList_text_of_some, toList_text_of_none, List.cons_inj_right,
        Text.append_stop_inj haccount hother] at hlist
      simp at hlist
    | some otherName =>
      rw [toList_text_of_some, toList_text_of_some, List.cons_inj_right,
        Text.append_stop_inj haccount hother] at hlist
      obtain ⟨hname, hbehind⟩ := hlist
      rw [List.append_cancel_left_eq,
        Text.append_stop_inj (huser _ rfl) (hotherUser _ rfl)] at hbehind
      obtain ⟨husers, hkey⟩ := hbehind
      rw [List.append_cancel_left_eq, String.toList_inj] at hkey
      rw [String.toList_inj.mp hname, String.toList_inj.mp husers,
        Fingerprint.display_injective hkey]

/-- The text of a key id has a quote only where its account or its user has one. -/
theorem quote_notMem_text_iff (id : KeyId) :
    '"' ∉ id.text.toList ↔
      '"' ∉ id.account.toList ∧ ∀ name ∈ id.user, '"' ∉ name.toList := by
  have hdigit : ∀ n < 16, Bytes.hexDigit n ≠ '"' := by decide
  have hdisplay : ∀ c ∈ id.fingerprint.display.toList, c ≠ '"' :=
    Fingerprint.forall_mem_display hdigit (by decide) id.fingerprint
  have hshown : '"' ∉ id.fingerprint.display.toList := fun hmem => hdisplay _ hmem rfl
  obtain ⟨account, user, fingerprint⟩ := id
  cases user with
  | none =>
    rw [toList_text_of_none]
    simpa using fun _ => hshown
  | some name =>
    rw [toList_text_of_some]
    simpa using fun _ _ => hshown

end KeyId

/-! ### The fields of the value -/

/-- The **fields** of an Authorization value. -/
structure AuthorizationFields where
  keyId : String
  algorithm : String
  signature : String
  deriving DecidableEq

/-- The value of a field with a name, up to the next double quote, and the characters behind that. -/
def readNamedField? (name text : List Char) : Option (List Char × List Char) :=
  (Text.behind? (name ++ ['=', '"']) text).bind (Text.upTo? '"')

/-- The fields of an Authorization value, read from left to right. Only the `date` header is signed,
and nothing may stand behind the signature. -/
def AuthorizationFields.read? (value : String) : Option AuthorizationFields := do
  let rest ← Text.behind? "Signature ".toList value.toList
  let (keyId, rest) ← readNamedField? "keyId".toList rest
  let rest ← Text.behind? [','] rest
  let (algorithm, rest) ← readNamedField? "algorithm".toList rest
  let rest ← Text.behind? [','] rest
  let (headers, rest) ← readNamedField? "headers".toList rest
  let rest ← Text.behind? [','] rest
  let (signature, rest) ← readNamedField? "signature".toList rest
  if headers = "date".toList ∧ rest = [] then
    some ⟨String.ofList keyId, String.ofList algorithm, String.ofList signature⟩
  else none

theorem readNamedField?_append {value : List Char} (name : List Char) (h : '"' ∉ value)
    (rest : List Char) :
    readNamedField? name (name ++ ['=', '"'] ++ (value ++ '"' :: rest)) = some (value, rest) := by
  rw [readNamedField?, Text.behind?_append, Option.bind_some, Text.upTo?_append h]

theorem quote_notMem_of_readNamedField? {name text value rest : List Char}
    (h : readNamedField? name text = some (value, rest)) : '"' ∉ value := by
  obtain ⟨behind, -, htaken⟩ := Option.bind_eq_some_iff.mp h
  exact Text.notMem_of_upTo? htaken

/-- No field that was read has a quote in it. -/
theorem AuthorizationFields.quote_notMem_keyId {value : String} {fields : AuthorizationFields}
    (h : read? value = some fields) : '"' ∉ fields.keyId.toList := by
  simp only [read?, Option.bind_eq_bind, Option.bind_eq_some_iff] at h
  obtain ⟨_, -, ⟨keyId, _⟩, hkeyId, _, -, _, -, _, -, _, -, _, -, _, -, hfields⟩ := h
  split_ifs at hfields
  rw [← Option.some.inj hfields, String.toList_ofList]
  exact quote_notMem_of_readNamedField? hkeyId

/-- The value in the order in which it is read. -/
theorem SignerIdentity.toList_authorization (identity : SignerIdentity) (signature : String) :
    (identity.authorization signature).toList = "Signature ".toList ++
      ("keyId".toList ++ ['=', '"'] ++ (identity.keyId.text.toList ++ '"' :: ([','] ++
        ("algorithm".toList ++ ['=', '"'] ++ (identity.algorithm.name.toList ++ '"' :: ([','] ++
          ("headers".toList ++ ['=', '"'] ++ ("date".toList ++ '"' :: ([','] ++
            ("signature".toList ++ ['=', '"'] ++ (signature.toList ++ '"' :: []))))))))))) := by
  have hstart : "Signature keyId=\"".toList =
      "Signature ".toList ++ ("keyId".toList ++ ['=', '"']) := by decide
  have hnext : "\",algorithm=\"".toList =
      '"' :: ([','] ++ ("algorithm".toList ++ ['=', '"'])) := by decide
  have hlast : "\",headers=\"date\",signature=\"".toList = '"' :: ([','] ++ ("headers".toList ++
      ['=', '"'] ++ ("date".toList ++ '"' :: ([','] ++ ("signature".toList ++ ['=', '"']))))) := by
    decide
  have hend : "\"".toList = ['"'] := by decide
  calc (identity.authorization signature).toList
      = "Signature keyId=\"".toList ++ identity.keyId.text.toList ++ "\",algorithm=\"".toList ++
          identity.algorithm.name.toList ++ "\",headers=\"date\",signature=\"".toList ++
          signature.toList ++ "\"".toList := by
        unfold authorization
        simp only [String.toList_append]
    _ = _ := by
        rw [hstart, hnext, hlast, hend]
        -- the names stay closed, or Lean compares them character by character at each step
        generalize "Signature ".toList = start, "keyId".toList = keyId,
          "algorithm".toList = algorithm, "headers".toList = headers, "date".toList = date,
          "signature".toList = last
        simp only [List.append_assoc, List.cons_append, List.nil_append]

/-- **Fields.** Where nothing that is written into it has a quote, the value reads back. -/
theorem SignerIdentity.read?_authorization {identity : SignerIdentity} {signature : String}
    (hkeyId : '"' ∉ identity.keyId.text.toList) (hsignature : '"' ∉ signature.toList) :
    AuthorizationFields.read? (identity.authorization signature) =
      some ⟨identity.keyId.text, identity.algorithm.name, signature⟩ := by
  have halgorithm : '"' ∉ identity.algorithm.name.toList := by
    cases identity.algorithm <;> decide
  have hheaders : '"' ∉ "date".toList := by decide
  unfold AuthorizationFields.read?
  rw [toList_authorization]
  simp only [Text.behind?_append, Option.bind_eq_bind, Option.bind_some,
    readNamedField?_append _ hkeyId, readNamedField?_append _ halgorithm,
    readNamedField?_append _ hheaders, readNamedField?_append _ hsignature, and_self, if_true,
    String.ofList_toList]

/-! ### The main statement -/

theorem Base64.quote_notMem_encode (bytes : Bytes) : '"' ∉ (encode bytes).toList := by
  have hdigit : ∀ n < 64, Char.ofNat (digit n).toNat ≠ '"' := by decide
  have hchars : ∀ c ∈ encodeBytes bytes, Char.ofNat c.toNat ≠ '"' :=
    forall_mem_encodeBytes hdigit (by decide) bytes
  rw [encode, String.toList_ofList, List.mem_map]
  rintro ⟨c, hc, hquote⟩
  exact hchars c hc hquote

variable {account otherAccount : String} {user otherUser : Option String}
  {fingerprint otherFingerprint : Fingerprint}

/-- An empty user is left out of a key id, and has no character in it. -/
theorem KeyId.notMem_user_make_iff (c : Char) :
    (∀ name ∈ (make account user fingerprint).user, c ∉ name.toList) ↔
      ∀ name ∈ user, c ∉ name.toList := by
  cases user with
  | none => exact Iff.rfl
  | some name =>
    by_cases hname : name = ""
    · simp [make, hname]
    · simp [make, Option.filter, hname]

theorem KeyId.quote_notMem_text_make_iff :
    '"' ∉ (make account user fingerprint).text.toList ↔
      '"' ∉ account.toList ∧ ∀ name ∈ user, '"' ∉ name.toList := by
  rw [quote_notMem_text_iff, notMem_user_make_iff]
  rfl

theorem KeyId.text_make_inj (haccount : '/' ∉ account.toList)
    (huser : ∀ name ∈ user, '/' ∉ name.toList) (hother : '/' ∉ otherAccount.toList)
    (hotherUser : ∀ name ∈ otherUser, '/' ∉ name.toList) :
    (make account user fingerprint).text = (make otherAccount otherUser otherFingerprint).text ↔
      account = otherAccount ∧
        (user.filter fun name => name ≠ "") = (otherUser.filter fun name => name ≠ "") ∧
        fingerprint = otherFingerprint := by
  rw [text_inj haccount hother ((notMem_user_make_iff '/').mpr huser)
    ((notMem_user_make_iff '/').mpr hotherUser), make, make, KeyId.mk.injEq]

/-- **Reading back.** The Authorization value of an account, a user and a key for a signature reads
back as the text of the key id, the algorithm's name and the signature exactly if neither the account
nor the user has a double quote. And key ids of accounts and users without a slash have the same text
exactly if they have the same account, the same user, an empty one being none, and the same key. -/
theorem authorization_reads_back_iff (account : String) (user : Option String)
    (fingerprint : Fingerprint) (algorithm : SigningAlgorithm) (signature : Bytes) :
    (AuthorizationFields.read?
        (SignerIdentity.authorization ⟨KeyId.make account user fingerprint, algorithm⟩
          (Base64.encode signature)) =
        some ⟨(KeyId.make account user fingerprint).text, algorithm.name,
          Base64.encode signature⟩ ↔
      '"' ∉ account.toList ∧ ∀ name ∈ user, '"' ∉ name.toList) ∧
    ∀ otherAccount otherUser otherFingerprint,
      '/' ∉ account.toList → (∀ name ∈ user, '/' ∉ name.toList) →
      '/' ∉ otherAccount.toList → (∀ name ∈ otherUser, '/' ∉ name.toList) →
      ((KeyId.make account user fingerprint).text =
          (KeyId.make otherAccount otherUser otherFingerprint).text ↔
        account = otherAccount ∧
          (user.filter fun name => name ≠ "") = (otherUser.filter fun name => name ≠ "") ∧
          fingerprint = otherFingerprint) := by
  refine ⟨?_, fun otherAccount otherUser otherFingerprint haccount huser hother hotherUser =>
    KeyId.text_make_inj haccount huser hother hotherUser⟩
  constructor
  · intro hread
    exact KeyId.quote_notMem_text_make_iff.mp (AuthorizationFields.quote_notMem_keyId hread)
  · intro hnames
    exact SignerIdentity.read?_authorization (KeyId.quote_notMem_text_make_iff.mpr hnames)
      (Base64.quote_notMem_encode signature)

/-- Names that are the same as the words of the key id are told apart from these. -/
theorem authorization_reads_back_users :
    AuthorizationFields.read?
        (SignerIdentity.authorization ⟨KeyId.make "users" (some "keys") (.ofBlob []), .rsaSha512⟩
          (Base64.encode [0xFF])) =
        some ⟨(KeyId.make "users" (some "keys") (.ofBlob [])).text, "rsa-sha512",
          Base64.encode [0xFF]⟩ ∧
      (KeyId.make "users" (some "keys") (.ofBlob [])).text ≠
        (KeyId.make "users" none (.ofBlob [])).text := by
  obtain ⟨hread, htext⟩ :=
    authorization_reads_back_iff "users" (some "keys") (.ofBlob []) .rsaSha512 [0xFF]
  refine ⟨hread.mpr (by decide), fun h => ?_⟩
  have hsame := (htext "users" none (.ofBlob []) (by decide) (by decide) (by decide) (by decide)).mp h
  have huser : ((some "keys").filter fun name => name ≠ "") ≠ none := by decide
  exact huser hsame.2.1

end RequestSigning
