import RequestSigning.Host
import RequestSigning.Log
import RequestSigning.Settings.Basic
import RequestSigning.Settings.Dotenv
import RequestSigning.Toml.Reader

/-!
# Where settings come from

Three layers besides the caller's own: the variables of the process together with those of a
`.env` file, and a file in the user's configuration directory. In the first two a field has up
to two names, an older one standing behind the newer; an empty value counts as none.

Loading merges the layers in the order caller, variables, file, and resolves once. A file that is
there and cannot be read, or does not parse, is reported in the log and counts as empty; the load
goes on without it.
-/

namespace RequestSigning.Settings

variable {σ : Type}

/-- Where log events about settings come from. -/
def logTarget : String := "triton_auth::config"

/-! ### Variables -/

/-- The first value under some names that is not empty. -/
def firstValue (lookup : String → Option String) (names : List String) : Option String :=
  names.findSome? fun name => (lookup name).filter fun value => value ≠ ""

/-- The layer that variables make up. -/
def ofLookup (lookup : String → Option String) : Settings where
  account := firstValue lookup ["TRITON_ACCOUNT", "SDC_ACCOUNT"]
  user := firstValue lookup ["TRITON_USER", "SDC_USER"]
  keyId := firstValue lookup ["TRITON_KEY_ID", "SDC_KEY_ID"]
  keyMaterial := firstValue lookup ["TRITON_KEY_MATERIAL"]
  agentSocket := firstValue lookup ["SSH_AUTH_SOCK"]

/-- The value of a variable of the process, or else of a file of variables. -/
def lookup (environment : Environment) (file : Dotenv.File) (name : String) : Option String :=
  (environment.text? name).or (file.value? name)

/-- The layer of a process with a file of variables. -/
def ofVariables (environment : Environment) (file : Dotenv.File) : Settings :=
  ofLookup (lookup environment file)

/-! ### The file of variables -/

/-- Name of the file of variables. -/
def dotenvName : String := ".env"

/-- The bytes of the nearest file of variables: that in a directory, given by the reverse of
the names that lead to it, or else in one above it. What is no regular file is passed over. -/
def nearestDotenv (files : FileTree σ) : List String → Option Bytes
  | [] => inDirectory []
  | name :: above =>
    match inDirectory (name :: above) with
    | some bytes => some bytes
    | none => nearestDotenv files above
where
  /-- The bytes of the file in one directory. -/
  inDirectory (reversed : List String) : Option Bytes :=
    match files.node? (reversed.reverse ++ [dotenvName]) with
    | some (.file bytes) => some bytes
    | _ => none

/-- The paths at which the file of variables is looked for. -/
def dotenvPaths (host : Host σ) : List String :=
  (FileTree.lineage host.directory).map fun names =>
    String.join ((names ++ [dotenvName]).map fun name => "/" ++ name)

/-- The file of variables that holds for a process. -/
def dotenv (host : Host σ) : Dotenv.File :=
  match nearestDotenv host.files host.directory.reverse with
  | some bytes => Dotenv.File.read host.environment bytes
  | none => .empty

/-- The event that reports a line that is no entry. -/
def dotenvEvent (fault : Dotenv.Fault) : LogEvent :=
  ⟨.debug, logTarget, "skipping unreadable .env entry", [("error", fault.message)]⟩

/-- The layer of the process and its file of variables. -/
def ofHost (host : Host σ) : Logged Settings :=
  let file := dotenv host
  ⟨ofVariables host.environment file, file.faults.map dotenvEvent⟩

/-! ### The file in the configuration directory -/

/-- The text of a field; a field of another type is refused. -/
def field? (entries : Toml.Entries) (name : String) : Option (Option String) :=
  match Toml.Entries.get? entries name with
  | none => some none
  | some (.text value) => some (some value)
  | some _ => none

/-- The layer that the entries of a document make up. Other entries than the five are ignored. -/
def ofEntries? (entries : Toml.Entries) : Option Settings := do
  let account ← field? entries "account"
  let user ← field? entries "user"
  let keyId ← field? entries "key_id"
  let keyMaterial ← field? entries "key_material"
  let agentSocket ← field? entries "agent_socket"
  some ⟨account, user, keyId, keyMaterial, agentSocket⟩

/-- The layer that a text writes. -/
def ofText? (text : String) : Option Settings :=
  (Toml.read? text).bind ofEntries?

/-- The layer in the file at a path. -/
def ofFile (host : Host σ) (path : String) : Except ConfigFault Settings :=
  match host.read path with
  | .error cause => .error (.unreadable path cause)
  | .ok bytes =>
    match Utf8.decode? bytes with
    | none => .error (.unreadable path .notUtf8)
    | some text =>
      match ofText? text with
      | none => .error (.unparsable path)
      | some settings => .ok settings

/-- A path below a directory. -/
def below (directory name : String) : String :=
  if directory = "" ∨ directory.toList.getLast? = some '/' then directory ++ name
  else directory ++ "/" ++ name

/-- The user's home directory: the one that the process is told, or else that in the system's
records. -/
def home? (host : Host σ) : Option String :=
  match (host.environment.bytes? "HOME").filter fun bytes => bytes ≠ [] with
  | some bytes => some (Utf8.decodeLossy bytes)
  | none => host.userHome

/-- The directory of the user's configuration files. One that is not given from the root is
ignored. -/
def configHome? (host : Host σ) : Option String :=
  match (host.environment.bytes? "XDG_CONFIG_HOME").filter fun bytes => bytes.head? = some 47 with
  | some bytes => some (Utf8.decodeLossy bytes)
  | none => (home? host).map fun home => below home ".config"

/-- Where the user's settings are kept. -/
def defaultPath? (host : Host σ) : Option String :=
  (configHome? host).map fun directory => below (below directory "triton") "auth.toml"

/-- The layer of the user's settings. If they cannot be read the layer sets nothing. -/
def ofDefaultFile (host : Host σ) : Logged Settings :=
  match (defaultPath? host).filter (host.files.contains host.directory) with
  | none => pure empty
  | some path =>
    match ofFile host path with
    | .ok settings => pure settings
    | .error fault => do
      Logged.emit
        ⟨.debug, logTarget, "ignoring auth config file",
          [("error", (AuthError.config fault).message)]⟩
      pure empty

/-! ### All layers -/

/-- The configuration for a caller's own settings. They go before the variables, and those
before the user's file. -/
def load (host : Host σ) (overrides : Settings) : Logged (Except AuthError Config) := do
  let file ← ofDefaultFile host
  let environment ← ofHost host
  pure (((overrides.or environment).or file).resolve.mapError .config)

end RequestSigning.Settings
