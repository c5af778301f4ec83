import RequestSigning.Command.Arguments
import RequestSigning.Log.Filter
import RequestSigning.Signer

/-!
# Running the command

A run either prints its result on standard output and succeeds, or prints nothing there and
fails for a reason that goes to standard error. The log is apart from both.

A task gives an answer or a failure, and a failure is a chain of causes that is reported from the
outside in. Which stage failed is part of the failure (`Stage`), since the same error means
different things while the settings are loaded and while a date is signed. The filter of the log is
made from `RUST_LOG` and `--verbose` and decides what is shown of the events, never what happens.
-/

namespace RequestSigning.Command

open Agent

/-- A part of a run that its failures are told under. -/
inductive Stage
  | load
  | createSigner
  | signDate
  | signData
  | listKeys
  deriving DecidableEq, Repr

/-- The words for the failure of a stage. -/
def Stage.message : Stage → String
  | load => "failed to load credentials"
  | createSigner => "failed to create signer"
  | signDate => "failed to sign date header"
  | signData => "failed to sign data"
  | listKeys => "failed to list agent keys"

/-- Why a run fails. -/
inductive Failure
  | auth (error : AuthError)
  | during (stage : Stage) (error : AuthError)
  /-- Any text can be signed only with a key at hand. -/
  | keyFileNeeded
  deriving DecidableEq, Repr

namespace Failure

/-- The error beneath a failure, and the one beneath that, by their words. -/
def errorChain (error : AuthError) : List String :=
  error.message :: error.source.toList

/-- The words for a failure, and for what lies beneath it. -/
def chain : Failure → List String
  | auth error => errorChain error
  | during stage error => stage.message :: errorChain error
  | keyFileNeeded => ["sign-raw needs a private key file (--key-file or TRITON_KEY_MATERIAL)"]

/-- A text with a margin in front of each line but the first. -/
def withMargin (margin text : String) : String :=
  String.join (text.toList.map fun c => if c = '\n' then "\n" ++ margin else c.toString)

/-- The lines for causes: numbered from zero if there are several. -/
def causeLines (causes : List String) : List String :=
  match causes with
  | [cause] => ["    " ++ withMargin "    " cause]
  | causes =>
    causes.zipIdx.map fun (cause, i) =>
      "    " ++ toString i ++ ": " ++ withMargin "       " cause

/-- The text that reports a failure. -/
def report (failure : Failure) : String :=
  match failure.chain with
  | [] => ""
  | [outermost] => "Error: " ++ outermost ++ "\n"
  | outermost :: causes =>
    "Error: " ++ outermost ++ "\n\nCaused by:\n" ++
      String.join ((causeLines causes).map fun line => line ++ "\n")

end Failure

/-- What a run gives: its standard output or why it fails, and the client of the agent that was
asked, if one was. -/
structure Answer (σ : Type) where
  outcome : Except Failure String
  client : Option (Client σ)

section Tasks

variable {σ : Type}

/-- An answer of a run that asked no agent. -/
def Answer.plain (outcome : Except Failure String) : Answer σ := ⟨outcome, none⟩

/-! ### Signing -/

/-- The text for a signed date. -/
def headerText (date authorization : String) : String :=
  "date: " ++ date ++ "\nauthorization: " ++ authorization ++ "\n"

/-- The text for a signature. -/
def signatureText (signature : RawSignature) : String :=
  "algorithm: " ++ signature.algorithm.name ++ "\nsignature: " ++ signature.signature ++ "\n"

/-- Signs a date with the signer of a configuration. -/
def signDate [ByteStream σ] (host : Host σ) (config : Config) (date : Option String) :
    Logged (Answer σ) := do
  match ← config.buildSigner host with
  | (.error error, client) => pure ⟨.error (.during .createSigner error), client⟩
  | (.ok signer, _) => do
    let date := date.getD (httpDate host.now)
    let (answer, signer) ← Signer.sign (host.draws 1) date signer
    let outcome := match answer with
      | .error error => .error (.during .signDate error)
      | .ok authorization => .ok (headerText date authorization)
    pure ⟨outcome, signer.client?⟩

/-- Signs any text with the key in the file at a path. -/
def signData (host : Host σ) (config : Config) (path data : String) :
    Logged (Except Failure String) := do
  match ← readKey host path with
  | .error error => pure (.error (.auth error))
  | .ok key =>
    match ← LocalSigner.make (host.draws 0) config.keyId key config.account config.user with
    | .error error => pure (.error (.during .createSigner error))
    | .ok signer =>
      match ← signer.signRaw (host.draws 1) data with
      | .error error => pure (.error (.during .signData error))
      | .ok signature => pure (.ok (signatureText signature))

/-! ### Showing keys -/

/-- The text for a private key. -/
def keyText (key : PrivateKey) : String :=
  key.kind.name ++ " " ++ key.fingerprint.display ++ "\ncompact: " ++ key.fingerprint.compact ++
    "\n"

/-- The line for a key of an agent. -/
def agentKeyLine (key : Agent.Identity) : String :=
  key.fingerprint.display ++ " " ++ key.keyType?.getD "unknown" ++ " " ++ key.comment ++ "\n"

/-- The text for the keys of an agent. -/
def agentKeysText (keys : List Agent.Identity) : String :=
  if keys = [] then "The agent has no keys.\n" else String.join (keys.map agentKeyLine)

/-- Shows the key in the file at a path. -/
def showKey (host : Host σ) (path : String) : Logged (Except Failure String) := do
  match ← readKey host path with
  | .error error => pure (.error (.auth error))
  | .ok key => pure (.ok (keyText key))

/-- Shows the keys of the agent at a socket. -/
def showAgentKeys [ByteStream σ] (host : Host σ) (socket : String) : Logged (Answer σ) := do
  match ← AgentSigner.dial host.connect socket with
  | .error error => pure (.plain (.error (.auth error)))
  | .ok client => do
    let (answer, client) := client.listIdentities
    match ← reported answer with
    | .error error => pure ⟨.error (.during .listKeys error), some client⟩
    | .ok keys => pure ⟨.ok (agentKeysText keys), some client⟩

/-! ### Tasks -/

/-- Does what the command is asked to do. The agent's keys are looked for without the user's
file of settings. -/
def perform [ByteStream σ] (host : Host σ) (overrides : Settings) :
    Task → Logged (Answer σ)
  | .header date => do
    match ← Settings.load host overrides with
    | .error error => pure (.plain (.error (.during .load error)))
    | .ok config => signDate host config date
  | .signRaw data => do
    match ← Settings.load host overrides with
    | .error error => pure (.plain (.error (.during .load error)))
    | .ok config =>
      match config.keySource with
      | .agent _ => pure (.plain (.error .keyFileNeeded))
      | .file path => do
        let outcome ← signData host config path data
        pure (.plain outcome)
  | .fingerprint file => do
    let outcome ← showKey host file
    pure (.plain outcome)
  | .agentKeys => do
    let environment ← Settings.ofHost host
    match (overrides.or environment).agentSocket with
    | none => pure (.plain (.error (.auth .agentUnavailable)))
    | some socket => showAgentKeys host socket

end Tasks

/-! ### The log -/

/-- The part of the program whose events `--verbose` shows. -/
def verboseTarget : String := "triton_auth"

/-- The text of the variable with the rules of the log. -/
def logRules (environment : Environment) : String :=
  (environment.text? "RUST_LOG").getD ""

/-- The filter of the log. Warnings are shown whatever the variable says about all parts. -/
def logFilter (environment : Environment) (verbose : Bool) : LogFilter :=
  let filter := (LogFilter.read (logRules environment)).add ⟨none, none, LogLevel.warn.rank⟩
  if verbose then filter.add ⟨some verboseTarget, none, LogLevel.debug.rank⟩ else filter

/-! ### Runs -/

/-- What a run leaves: its exit code, what it prints, and the client of the agent that was
asked, if one was. -/
structure Record (σ : Type) where
  exit : Nat
  output : String
  /-- Complaints about the rules of the log, which come before all else. -/
  complaints : List String
  log : List LogEvent
  /-- The text that reports a failure. -/
  report : String
  client : Option (Client σ)

/-- The name of the program and its version. -/
def versionText : String := "triton-sign 0.1.0\n"

/-- How the command is used. -/
def helpText : String :=
  "Sign Triton cloud API requests with an SSH key\n\n" ++
  "Usage: triton-sign [OPTIONS] <COMMAND>\n\n" ++
  "Commands:\n" ++
  "  header [--date <DATE>]  Print the date and Authorization headers for a request\n" ++
  "  sign-raw <DATA>         Sign an arbitrary string with a private key file\n" ++
  "  fingerprint <FILE>      Print the MD5 fingerprint of a private key file\n" ++
  "  agent-keys              List keys held by the SSH agent\n\n" ++
  "Options:\n" ++
  "      --account <ACCOUNT>            Account login name\n" ++
  "      --user <USER>                  Sub-user login name\n" ++
  "      --key-id <KEY_ID>              MD5 fingerprint of the signing key\n" ++
  "      --key-file <KEY_FILE>          Private key file (when unset the SSH agent signs)\n" ++
  "      --agent-socket <AGENT_SOCKET>  SSH agent socket path\n" ++
  "  -v, --verbose                      Log signer activity to stderr\n" ++
  "  -h, --help                         Print help\n" ++
  "  -V, --version                      Print version\n"

/-- Runs a command line that was read. -/
def Invocation.run {σ : Type} [ByteStream σ] (host : Host σ) (invocation : Invocation) :
    Record σ :=
  let filter := logFilter host.environment invocation.verbose
  let run := perform host invocation.overrides invocation.task
  let complaints := LogFilter.complaints (logRules host.environment)
  let log := run.events.filter filter.shows
  match run.value with
  | ⟨.ok output, client⟩ => ⟨0, output, complaints, log, "", client⟩
  | ⟨.error failure, client⟩ => ⟨1, "", complaints, log, failure.report, client⟩

/-- What is left of a command line that is not run. -/
def Stop.record {σ : Type} : Stop → Record σ
  | .help => ⟨0, helpText, [], [], "", none⟩
  | .version => ⟨0, versionText, [], [], "", none⟩
  | .misuse fault => ⟨2, "", [], [], "error: " ++ fault.message ++ "\n", none⟩

/-! ### What a run looks at -/

/-- The paths of files that settings may come from. -/
def settingsPaths {σ : Type} (host : Host σ) : List String :=
  Settings.dotenvPaths host ++ (Settings.defaultPath? host).toList

/-- The paths of a key file or a socket that a run uses, where the files of settings are on the
host. -/
def keyPaths {σ : Type} (host : Host σ) (invocation : Invocation) : List String :=
  match invocation.task with
  | .fingerprint file => [file]
  | .agentKeys =>
    (invocation.overrides.or (Settings.ofHost host).value).agentSocket.toList
  | _ =>
    match (Settings.load host invocation.overrides).value with
    | .error _ => []
    | .ok config =>
      match config.keySource with
      | .file path => [path]
      | .agent socket => socket.toList

/-- Runs the command with arguments. -/
def run {σ : Type} [ByteStream σ] (host : Host σ) (arguments : List String) : Record σ :=
  match Invocation.read arguments with
  | .ok invocation => invocation.run host
  | .error stop => stop.record

end RequestSigning.Command
