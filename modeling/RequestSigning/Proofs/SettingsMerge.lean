import RequestSigning.Settings.Sources
import Mathlib.Tactic.Common

/-!
# What merged settings say

Layers of settings may be merged in many ways: from either end or from the middle, with layers
between them that set nothing. `Merges` gathers these ways. They all give the same settings, each
field as the first layer says that sets it, and so the same configuration or the same fault
(`first_layer_decides`). A caller's settings, the variables and the user's file are merged like that
too. The user's file is a layer of its own only if all of it can be used, and otherwise one that sets
nothing (`UserFile`).
-/

namespace RequestSigning.Settings

variable {σ : Type}

/-- The fields of a layer. -/
def fields : List (Settings → Option String) :=
  [account, user, keyId, keyMaterial, agentSocket]

/-! ### Ways to merge -/

/-- `Merges layers merged` says that one of the **ways to merge** some layers gives `merged`. A layer
that sets nothing may be put in anywhere. -/
inductive Merges : List Settings → Settings → Prop
  | layer (settings : Settings) : Merges [settings] settings
  | unset : Merges [] empty
  | or {front back : List Settings} {first second : Settings} :
    Merges front first → Merges back second → Merges (front ++ back) (first.or second)

section Merged

variable {layers : List Settings} {merged settings : Settings} {config : Config}
  {field : Settings → Option String}

/-- Merging is done field by field, the first layer's value going before the second's. -/
theorem field_or (hfield : field ∈ fields) (first second : Settings) :
    field (first.or second) = (field first).or (field second) := by
  simp only [fields, List.mem_cons, List.not_mem_nil, or_false] at hfield
  rcases hfield with rfl | rfl | rfl | rfl | rfl <;> rfl

theorem field_empty (hfield : field ∈ fields) : field empty = none := by
  simp only [fields, List.mem_cons, List.not_mem_nil, or_false] at hfield
  rcases hfield with rfl | rfl | rfl | rfl | rfl <;> rfl

/-- In whatever way layers are merged, a field is as the first layer says that sets it. -/
theorem Merges.field_eq (h : Merges layers merged) (hfield : field ∈ fields) :
    field merged = layers.findSome? field := by
  induction h with
  | layer settings => rw [List.findSome?_singleton]
  | unset => exact field_empty hfield
  | or _ _ hfirst hsecond => rw [field_or hfield, hfirst, hsecond, List.findSome?_append]

/-- A merge leaves a field unset only when each layer does. -/
theorem Merges.field_eq_none_iff (h : Merges layers merged) (hfield : field ∈ fields) :
    field merged = none ↔ ∀ layer ∈ layers, field layer = none := by
  rw [h.field_eq hfield, List.findSome?_eq_none_iff]

/-- One layer that sets a field is enough. -/
theorem Merges.field_ne_none_iff (h : Merges layers merged) (hfield : field ∈ fields) :
    field merged ≠ none ↔ ∃ layer ∈ layers, field layer ≠ none := by
  rw [Ne, h.field_eq_none_iff hfield]
  push Not
  rfl

/-- All ways to merge some layers give the same. -/
theorem Merges.unique (h : Merges layers merged) (hsettings : Merges layers settings) :
    merged = settings := by
  have hfields : ∀ field ∈ fields, field merged = field settings := by
    intro field hfield
    rw [h.field_eq hfield, hsettings.field_eq hfield]
  obtain ⟨_, _, _, _, _⟩ := merged
  obtain ⟨_, _, _, _, _⟩ := settings
  simpa [fields] using hfields

/-! ### What settings resolve to -/

/-- Resolving asks for an account and a key, and adds nothing of its own. -/
theorem resolve_eq_ok_iff :
    settings.resolve = .ok config ↔
      settings.account = some config.account ∧ settings.user = config.user ∧
        settings.keyId = some config.keyId ∧ settings.keySource = config.keySource := by
  obtain ⟨account, user, keyId, source⟩ := config
  cases haccount : settings.account <;> cases hkey : settings.keyId <;>
    simp [resolve, haccount, hkey]

/-- The other fields have defaults, so only these two can be missing. -/
theorem exists_resolve_eq_ok_iff :
    (∃ config, settings.resolve = .ok config) ↔
      settings.account ≠ none ∧ settings.keyId ≠ none := by
  cases haccount : settings.account <;> cases hkey : settings.keyId <;>
    simp [resolve, haccount, hkey]

/-- A missing account is reported whether or not the key is missing too. -/
theorem resolve_eq_accountMissing_iff :
    settings.resolve = .error .accountMissing ↔ settings.account = none := by
  cases haccount : settings.account <;> cases hkey : settings.keyId <;>
    simp [resolve, haccount, hkey]

/-- A missing key is reported once an account is there. -/
theorem resolve_eq_keyIdMissing_iff :
    settings.resolve = .error .keyIdMissing ↔ settings.account ≠ none ∧ settings.keyId = none := by
  cases haccount : settings.account <;> cases hkey : settings.keyId <;>
    simp [resolve, haccount, hkey]

/-- Key material means the key file it names, even where an agent's socket is set. -/
theorem keySource_of_some {path : String} (h : settings.keyMaterial = some path) :
    settings.keySource = .file path := by
  rw [keySource, h]

/-- Without key material the keys are the agent's, with or without a socket. -/
theorem keySource_of_none (h : settings.keyMaterial = none) :
    settings.keySource = .agent settings.agentSocket := by
  rw [keySource, h]

end Merged

/-! ### The user's file -/

/-- The fields of a layer by the names that they have in the user's file. -/
def fileFields : List (String × (Settings → Option String)) :=
  [("account", account), ("user", user), ("key_id", keyId), ("key_material", keyMaterial),
    ("agent_socket", agentSocket)]

/-- The layer that the **user's file** is for a host: what its five fields say if every one that it
has is a text, and otherwise nothing at all. -/
inductive UserFile (host : Host σ) : Settings → Prop
  | unplaced : defaultPath? host = none → UserFile host empty
  | unread {path : String} {cause : IoFault} : defaultPath? host = some path →
    host.read path = .error cause → UserFile host empty
  | notText {path : String} {bytes : Bytes} : defaultPath? host = some path →
    host.read path = .ok bytes → Utf8.decode? bytes = none → UserFile host empty
  | notToml {path : String} {bytes : Bytes} {text : String} : defaultPath? host = some path →
    host.read path = .ok bytes → Utf8.decode? bytes = some text → Toml.read? text = none →
    UserFile host empty
  | illTyped {path : String} {bytes : Bytes} {text : String} {entries : Toml.Entries}
    {named : String × (Settings → Option String)} {node : Toml.Node} :
    defaultPath? host = some path → host.read path = .ok bytes →
    Utf8.decode? bytes = some text → Toml.read? text = some entries → named ∈ fileFields →
    entries.get? named.1 = some node → (∀ value, node ≠ .text value) → UserFile host empty
  | written {path : String} {bytes : Bytes} {text : String} {entries : Toml.Entries}
    {settings : Settings} : defaultPath? host = some path → host.read path = .ok bytes →
    Utf8.decode? bytes = some text → Toml.read? text = some entries →
    (∀ named ∈ fileFields, entries.get? named.1 = (named.2 settings).map .text) →
    UserFile host settings

section Entries

variable {entries : Toml.Entries} {name : String}

/-- An absent entry reads as an unset field, and a text as a set one. -/
theorem field?_eq_some_iff {value : Option String} :
    field? entries name = some value ↔ entries.get? name = value.map .text := by
  rw [field?]
  cases hnode : entries.get? name with
  | none => cases value <;> simp
  | some node => cases node <;> cases value <;> simp

/-- What cannot be read as a field is an entry that is no text. -/
theorem field?_eq_none_iff :
    field? entries name = none ↔
      ∃ node, entries.get? name = some node ∧ ∀ value, node ≠ .text value := by
  rw [field?]
  cases hnode : entries.get? name with
  | none => simp
  | some node => cases node <;> simp

/-- A table is read as settings exactly when each field has the table's entry of its name. -/
theorem ofEntries?_eq_some_iff {settings : Settings} :
    ofEntries? entries = some settings ↔
      ∀ named ∈ fileFields, entries.get? named.1 = (named.2 settings).map .text := by
  simp only [fileFields, List.forall_mem_cons, List.not_mem_nil, false_implies, implies_true,
    and_true, ← field?_eq_some_iff, ofEntries?, Option.bind_eq_bind, Option.bind_eq_some_iff]
  constructor
  · rintro ⟨_, haccount, _, huser, _, hkey, _, hfile, _, hsocket, hsettings⟩
    obtain rfl := Option.some.inj hsettings
    exact ⟨haccount, huser, hkey, hfile, hsocket⟩
  · rintro ⟨haccount, huser, hkey, hfile, hsocket⟩
    exact ⟨_, haccount, _, huser, _, hkey, _, hfile, _, hsocket, rfl⟩

/-- One entry that is no text spoils the whole file. -/
theorem ofEntries?_eq_none_iff :
    ofEntries? entries = none ↔ ∃ named ∈ fileFields, field? entries named.1 = none := by
  simp only [fileFields, List.mem_cons, List.not_mem_nil, or_false, or_and_right, exists_or,
    exists_eq_left, ofEntries?]
  cases field? entries "account" <;> cases field? entries "user" <;>
    cases field? entries "key_id" <;> cases field? entries "key_material" <;>
    cases field? entries "agent_socket" <;> simp

end Entries

section Files

variable {host : Host σ} {path : String} {bytes : Bytes} {settings : Settings}

/-- A path at which there is nothing cannot be read. -/
theorem exists_read_error_of_not_contains (h : host.files.contains host.directory path = false) :
    ∃ cause, host.read path = .error cause := by
  rw [Host.read, FileTree.read]
  split_ifs with hnul
  · exact ⟨_, rfl⟩
  · rw [FileTree.contains] at h
    cases hnode : host.files.locate host.directory path with
    | error cause => exact ⟨cause, rfl⟩
    | ok node => simp [hnode] at h

theorem ofFile_of_unparsable {text : String} (hread : host.read path = .ok bytes)
    (htext : Utf8.decode? bytes = some text) (h : ofText? text = none) :
    ofFile host path = .error (.unparsable path) := by
  simp only [ofFile, hread, htext, h]

theorem ofFile_of_parsed {text : String} (hread : host.read path = .ok bytes)
    (htext : Utf8.decode? bytes = some text) (h : ofText? text = some settings) :
    ofFile host path = .ok settings := by
  simp only [ofFile, hread, htext, h]

/-- Where the file is not read, its layer sets nothing. -/
theorem value_ofDefaultFile_of_error {fault : ConfigFault} (hpath : defaultPath? host = some path)
    (h : ofFile host path = .error fault) : (ofDefaultFile host).value = empty := by
  rw [ofDefaultFile, hpath, Option.filter_some]
  split_ifs with hcontains
  · simp [h]
  · rfl

theorem value_ofDefaultFile_of_ok (hpath : defaultPath? host = some path)
    (h : ofFile host path = .ok settings) : (ofDefaultFile host).value = settings := by
  have hcontains : host.files.contains host.directory path = true := by
    by_contra hmissing
    obtain ⟨cause, hread⟩ :=
      exists_read_error_of_not_contains (Bool.eq_false_iff.mpr hmissing)
    rw [ofFile, hread] at h
    contradiction
  rw [ofDefaultFile, hpath, Option.filter_some, if_pos hcontains]
  simp [h]

/-- The layer that is used for the user's file is the one that the file is. -/
theorem UserFile.value_eq (h : UserFile host settings) : (ofDefaultFile host).value = settings := by
  cases h with
  | unplaced hpath => rw [ofDefaultFile, hpath]; rfl
  | unread hpath hread => exact value_ofDefaultFile_of_error hpath (by rw [ofFile, hread])
  | notText hpath hread htext =>
    exact value_ofDefaultFile_of_error hpath (by simp only [ofFile, hread, htext]; rfl)
  | notToml hpath hread htext hentries =>
    refine value_ofDefaultFile_of_error hpath (ofFile_of_unparsable hread htext ?_)
    rw [ofText?, hentries, Option.bind_none]
  | illTyped hpath hread htext hentries hnamed hnode hother =>
    refine value_ofDefaultFile_of_error hpath (ofFile_of_unparsable hread htext ?_)
    rw [ofText?, hentries, Option.bind_some, ofEntries?_eq_none_iff]
    exact ⟨_, hnamed, field?_eq_none_iff.mpr ⟨_, hnode, hother⟩⟩
  | written hpath hread htext hentries hfields =>
    refine value_ofDefaultFile_of_ok hpath (ofFile_of_parsed hread htext ?_)
    rw [ofText?, hentries, Option.bind_some, ofEntries?_eq_some_iff]
    exact hfields

/-- Every host has a layer for the user's file. -/
theorem exists_userFile (host : Host σ) : ∃ settings, UserFile host settings := by
  cases hpath : defaultPath? host with
  | none => exact ⟨_, .unplaced hpath⟩
  | some path =>
    cases hread : host.read path with
    | error cause => exact ⟨_, .unread hpath hread⟩
    | ok bytes =>
      cases htext : Utf8.decode? bytes with
      | none => exact ⟨_, .notText hpath hread htext⟩
      | some text =>
        cases hentries : Toml.read? text with
        | none => exact ⟨_, .notToml hpath hread htext hentries⟩
        | some entries =>
          cases hfields : ofEntries? entries with
          | none =>
            obtain ⟨named, hnamed, hfield⟩ := ofEntries?_eq_none_iff.mp hfields
            obtain ⟨node, hnode, hother⟩ := field?_eq_none_iff.mp hfield
            exact ⟨_, .illTyped hpath hread htext hentries hnamed hnode hother⟩
          | some settings =>
            exact ⟨_, .written hpath hread htext hentries (ofEntries?_eq_some_iff.mp hfields)⟩

/-- The relation and the reader of the user's file agree. -/
theorem userFile_iff : UserFile host settings ↔ (ofDefaultFile host).value = settings := by
  constructor
  · exact UserFile.value_eq
  · rintro rfl
    obtain ⟨settings, hfile⟩ := exists_userFile host
    rwa [hfile.value_eq]

/-- Layers are merged in the order of their precedence and resolved once, at the end. -/
theorem value_load (host : Host σ) (overrides : Settings) :
    (load host overrides).value =
      ((overrides.or (ofHost host).value).or (ofDefaultFile host).value).resolve.mapError
        .config := rfl

end Files

/-- **The first layer decides.** In whatever way some layers are merged, every field is that of the
first layer that sets it. The merged settings give a configuration exactly if some layer sets the
account and some layer the key's name; otherwise what they lack is the account, or if only that is
missing the key's name. The key is in the first file that a layer names, even one behind a layer with
a socket, and only if there is none with the agent at the first socket. What is loaded for a caller is
one such merge, of the caller's settings, the variables and the user's file, and a file that cannot be
used is a layer that sets nothing. -/
theorem first_layer_decides :
    (∀ layers merged, Merges layers merged →
      (∀ field ∈ fields, field merged = layers.findSome? field) ∧
      ((∃ config, merged.resolve = .ok config) ↔
        (∃ layer ∈ layers, layer.account ≠ none) ∧ ∃ layer ∈ layers, layer.keyId ≠ none) ∧
      (merged.resolve = .error .accountMissing ↔ ∀ layer ∈ layers, layer.account = none) ∧
      (merged.resolve = .error .keyIdMissing ↔
        (∃ layer ∈ layers, layer.account ≠ none) ∧ ∀ layer ∈ layers, layer.keyId = none) ∧
      ∀ config, merged.resolve = .ok config →
        layers.findSome? account = some config.account ∧
        layers.findSome? user = config.user ∧
        layers.findSome? keyId = some config.keyId ∧
        (∀ path, layers.findSome? keyMaterial = some path → config.keySource = .file path) ∧
        ((∀ layer ∈ layers, layer.keyMaterial = none) →
          config.keySource = .agent (layers.findSome? agentSocket))) ∧
    ∀ (σ : Type) (host : Host σ) (overrides : Settings),
      (∃ file, UserFile host file) ∧
      ∀ file merged, UserFile host file →
        Merges [overrides, (ofHost host).value, file] merged →
        (load host overrides).value = merged.resolve.mapError .config := by
  constructor
  · intro layers merged h
    have haccount : account ∈ fields := by simp [fields]
    have huser : user ∈ fields := by simp [fields]
    have hkey : keyId ∈ fields := by simp [fields]
    have hmaterial : keyMaterial ∈ fields := by simp [fields]
    have hsocket : agentSocket ∈ fields := by simp [fields]
    refine ⟨fun field hfield => h.field_eq hfield, ?_, ?_, ?_, fun config hconfig => ?_⟩
    · rw [exists_resolve_eq_ok_iff, h.field_ne_none_iff haccount, h.field_ne_none_iff hkey]
    · rw [resolve_eq_accountMissing_iff, h.field_eq_none_iff haccount]
    · rw [resolve_eq_keyIdMissing_iff, h.field_ne_none_iff haccount, h.field_eq_none_iff hkey]
    · obtain ⟨hsomeAccount, hsameUser, hsomeKey, hsource⟩ := resolve_eq_ok_iff.mp hconfig
      rw [← h.field_eq haccount, ← h.field_eq huser, ← h.field_eq hkey, ← h.field_eq hmaterial,
        ← h.field_eq hsocket, ← h.field_eq_none_iff hmaterial, ← hsource]
      exact ⟨hsomeAccount, hsameUser, hsomeKey, fun path => keySource_of_some, keySource_of_none⟩
  · intro σ host overrides
    refine ⟨exists_userFile host, fun file merged hfile h => ?_⟩
    have hload : Merges [overrides, (ofHost host).value, file]
        ((overrides.or (ofHost host).value).or file) :=
      .or (.or (.layer _) (.layer _)) (.layer _)
    rw [value_load, hfile.value_eq, hload.unique h]

/-- A host on which the variables give a socket, and the user's file a file with a key. -/
def keyFileHost : Host Unit where
  environment := ⟨[("HOME", Utf8.encode "/h"), ("SSH_AUTH_SOCK", Utf8.encode "/s")]⟩
  files := ⟨[(["h", ".config", "triton", "auth.toml"],
    .file (Utf8.encode "key_id = \"k\"\nkey_material = \"key.pem\"\nagent_socket = \"/t\"\n"))]⟩
  directory := []
  userHome := none
  now := ⟨2, 2, by decide, by decide⟩
  draws := fun _ => 0

/-- The layer of that file. -/
def keyFileLayer : Settings := ⟨none, none, some "k", some "key.pem", some "/t"⟩

/-- A caller's settings, with a socket. -/
def socketLayer : Settings := ⟨some "acct", none, none, none, some "/u"⟩

theorem first_layer_decides_key_file :
    (load keyFileHost socketLayer).value = .ok ⟨"acct", none, "k", .file "key.pem"⟩ := by
  have hfile : UserFile keyFileHost keyFileLayer := userFile_iff.mpr (by decide +kernel)
  have henvironment : (ofHost keyFileHost).value = ⟨none, none, none, none, some "/s"⟩ := by
    decide +kernel
  -- the layers from the right, with one in between that sets nothing
  have hmerges : Merges ([socketLayer] ++ ([] ++ ([(ofHost keyFileHost).value] ++ [keyFileLayer])))
      (socketLayer.or (empty.or ((ofHost keyFileHost).value.or keyFileLayer))) :=
    .or (.layer _) (.or .unset (.or (.layer _) (.layer _)))
  obtain ⟨hresolves, hload⟩ := first_layer_decides
  obtain ⟨-, hok, -, -, hconfig⟩ := hresolves _ _ hmerges
  obtain ⟨config, hresolved⟩ :=
    hok.mpr ⟨⟨socketLayer, by simp, by decide⟩, ⟨keyFileLayer, by simp, by decide⟩⟩
  obtain ⟨haccount, huser, hkey, hkeyFile, -⟩ := hconfig config hresolved
  rw [henvironment] at haccount huser hkey hkeyFile
  have hsource : config.keySource = .file "key.pem" := hkeyFile "key.pem" rfl
  have hknown : config = ⟨"acct", none, "k", .file "key.pem"⟩ := by
    obtain ⟨account, user, keyId, source⟩ := config
    cases haccount
    cases huser
    cases hkey
    cases hsource
    rfl
  rw [(hload Unit keyFileHost socketLayer).2 _ _ hfile hmerges, hresolved, hknown]
  rfl

end RequestSigning.Settings
