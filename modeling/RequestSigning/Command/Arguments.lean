import RequestSigning.Settings.Basic

/-!
# Arguments of the command

The command line has two levels: the options in front of the subcommand's name, and the
subcommand's own options and operand. The options that override settings and `--verbose` may
stand at either level, once at each; the inner one wins. Arguments are taken from left to
right, and the first that is wrong, or asks for help, ends the reading. A value that is an
argument of its own is looked at only with the next option or operand of its level, and at the
outer level so only behind the subcommand.
-/

namespace RequestSigning.Command

/-- The options that take a value. -/
inductive ValueOption
  | account
  | user
  | keyId
  | keyFile
  | agentSocket
  | date
  deriving DecidableEq, Repr

namespace ValueOption

/-- The name of an option, without the dashes. -/
def name : ValueOption → String
  | account => "account"
  | user => "user"
  | keyId => "key-id"
  | keyFile => "key-file"
  | agentSocket => "agent-socket"
  | date => "date"

/-- Whether the value of an option is a path, which may not be empty. -/
def isPath : ValueOption → Bool
  | keyFile | agentSocket => true
  | _ => false

/-- The options that override settings. -/
def overriding : List ValueOption := [account, user, keyId, keyFile, agentSocket]

end ValueOption

/-- What is wrong with an argument. -/
inductive UsageFault
  | unknownArgument (text : String)
  | unknownCommand (name : String)
  | repeated (option : String)
  | missingValue (option : String)
  | unneededValue (option : String)
  | emptyPath (name : String)
  | missingOperand (name : String)
  | missingCommand
  deriving DecidableEq, Repr

/-- The words for a fault. -/
def UsageFault.message : UsageFault → String
  | unknownArgument text => "unexpected argument '" ++ text ++ "' found"
  | unknownCommand name => "unrecognized subcommand '" ++ name ++ "'"
  | repeated option =>
    "the argument '--" ++ option ++ "' cannot be used multiple times"
  | missingValue option => "a value is required for '--" ++ option ++ "' but none was supplied"
  | unneededValue option => "no value is expected for '--" ++ option ++ "'"
  | emptyPath name => "a path is required for '" ++ name ++ "' but it is empty"
  | missingOperand name => "the argument '" ++ name ++ "' was not provided"
  | missingCommand => "a subcommand is required but none was provided"

/-- Why a command line is not run. -/
inductive Stop
  | help
  | version
  | misuse (fault : UsageFault)
  deriving DecidableEq, Repr

/-! ### Levels -/

/-- What may be given at a level. -/
structure Form where
  options : List ValueOption
  /-- Whether `--version` is among the options. -/
  hasVersion : Bool
  deriving DecidableEq, Repr

/-- What has been given at a level: values of options, the latest first, and whether
`--verbose` is among the options. -/
structure Given where
  values : List (ValueOption × String)
  verbose : Bool
  deriving DecidableEq, Repr

namespace Given

/-- Nothing given. -/
def none : Given := ⟨[], false⟩

/-- The value of an option. -/
def value? (given : Given) (option : ValueOption) : Option String :=
  (given.values.find? fun entry => entry.1 = option).map Prod.snd

/-- What is given with one more value. -/
def give (given : Given) (option : ValueOption) (value : String) : Except Stop Given :=
  if (given.value? option).isSome then .error (.misuse (.repeated option.name))
  else if option.isPath ∧ value = "" then .error (.misuse (.emptyPath ("--" ++ option.name)))
  else .ok { given with values := (option, value) :: given.values }

/-- What is given with a value that was put off, if there is one. -/
def giveLate (given : Given) : Option (ValueOption × String) → Except Stop Given
  | .none => .ok given
  | some (option, value) => given.give option value

/-- What is given with `--verbose`. -/
def giveVerbose (given : Given) : Except Stop Given :=
  if given.verbose then .error (.misuse (.repeated "verbose"))
  else .ok { given with verbose := true }

/-- The settings that are overridden. -/
def settings (given : Given) : Settings where
  account := given.value? .account
  user := given.value? .user
  keyId := given.value? .keyId
  keyMaterial := given.value? .keyFile
  agentSocket := given.value? .agentSocket

end Given

/-! ### Options -/

/-- Whether an argument is an option; a dash by itself is none. -/
def isOption (argument : String) : Bool :=
  argument.toList.head? = some '-' && argument ≠ "-"

/-- Takes the letters of an argument with one dash. -/
def takeLetters (form : Form) : List Char → Given → Except Stop Given
  | [], given => .ok given
  | c :: rest, given =>
    if c = 'v' then do
      let given ← given.giveVerbose
      takeLetters form rest given
    else if c = 'h' then .error .help
    else if c = 'V' ∧ form.hasVersion then .error .version
    else .error (.misuse (.unknownArgument (String.ofList ['-', c])))

/-- An option by its name: one that takes a value, or one that takes none. -/
inductive Named
  | value (option : ValueOption)
  | verbose
  | stop (stop : Stop)
  deriving DecidableEq, Repr

/-- The option of a name. -/
def named? (form : Form) (name : String) : Option Named :=
  if name = "verbose" then some .verbose
  else if name = "help" then some (.stop .help)
  else if name = "version" ∧ form.hasVersion then some (.stop .version)
  else (form.options.find? fun option => option.name = name).map .value

/-- The name in an argument with two dashes, and the value behind an equals sign in it. -/
def splitName (argument : String) : String × Option String :=
  let text := argument.toList.drop 2
  let name := text.takeWhile (· ≠ '=')
  match text.drop name.length with
  | [] => (String.ofList name, .none)
  | _ :: value => (String.ofList name, some (String.ofList value))

/-- What an argument that is an option does: it adds to what is given, or it needs the next
argument as its value. -/
inductive Taken
  | done (given : Given)
  | wants (option : ValueOption)
  deriving DecidableEq, Repr

/-- Takes an argument that is an option. -/
def takeOption (form : Form) (given : Given) (argument : String) : Except Stop Taken :=
  match argument.toList with
  | '-' :: '-' :: _ =>
    let (name, attached) := splitName argument
    match named? form name, attached with
    | .none, _ => .error (.misuse (.unknownArgument argument))
    | some (.value option), .none => .ok (.wants option)
    | some (.value option), some value => (given.give option value).map .done
    | some _, some _ => .error (.misuse (.unneededValue name))
    | some .verbose, .none => given.giveVerbose.map .done
    | some (.stop stop), .none => .error stop
  | letters => (takeLetters form (letters.drop 1) given).map .done

/-- Where the options of a level end: at an operand, with the arguments behind it, behind `--`,
or with the arguments. -/
inductive Rest
  | operand (argument : String) (rest : List String)
  | escaped (rest : List String)
  | nothing
  deriving DecidableEq, Repr

/-- What a level holds up to its end: what is given, a value put off, and the arguments there. -/
structure Level where
  given : Given
  late : Option (ValueOption × String)
  rest : Rest
  deriving DecidableEq, Repr

/-- What is given with the value that was put off. -/
def Level.settle (level : Level) : Except Stop Given :=
  level.given.giveLate level.late

/-- Takes options up to the first argument that is none. -/
def takeOptions (form : Form) :
    List String → Given → Option (ValueOption × String) → Except Stop Level
  | [], given, late => .ok ⟨given, late, .nothing⟩
  | [argument], given, late =>
    if argument = "--" then .ok ⟨given, late, .escaped []⟩
    else if ¬ isOption argument then .ok ⟨given, late, .operand argument []⟩
    else do
      let given ← given.giveLate late
      match ← takeOption form given argument with
      | .done given => .ok ⟨given, none, .nothing⟩
      | .wants option => .error (.misuse (.missingValue option.name))
  | argument :: value :: rest, given, late =>
    if argument = "--" then .ok ⟨given, late, .escaped (value :: rest)⟩
    else if ¬ isOption argument then .ok ⟨given, late, .operand argument (value :: rest)⟩
    else do
      let given ← given.giveLate late
      match ← takeOption form given argument with
      | .done given => takeOptions form (value :: rest) given none
      | .wants option =>
        if isOption value then .error (.misuse (.missingValue option.name))
        else takeOptions form rest given (some (option, value))

/-! ### Subcommands -/

/-- What the command is asked to do. -/
inductive Task
  | header (date : Option String)
  | signRaw (data : String)
  | fingerprint (file : String)
  | agentKeys
  deriving DecidableEq, Repr

/-- The subcommands. -/
inductive Subcommand
  | header
  | signRaw
  | fingerprint
  | agentKeys
  deriving DecidableEq, Repr

namespace Subcommand

/-- The subcommands in the order of their description. -/
def all : List Subcommand := [header, signRaw, fingerprint, agentKeys]

/-- The name of a subcommand. -/
def name : Subcommand → String
  | header => "header"
  | signRaw => "sign-raw"
  | fingerprint => "fingerprint"
  | agentKeys => "agent-keys"

/-- The subcommand of a name. -/
def ofName? (name : String) : Option Subcommand :=
  all.find? fun subcommand => subcommand.name = name

/-- What may be given behind a subcommand's name. -/
def form : Subcommand → Form
  | header => ⟨ValueOption.date :: ValueOption.overriding, false⟩
  | _ => ⟨ValueOption.overriding, false⟩

/-- The name of a subcommand's operand, if it has one. -/
def operandName? : Subcommand → Option String
  | signRaw => some "<DATA>"
  | fingerprint => some "<FILE>"
  | _ => none

/-- Takes the operand of a subcommand, unless it has none or has it already. -/
def takeOperand (subcommand : Subcommand) (operand : Option String) (argument : String) :
    Except Stop String :=
  if operand.isSome ∨ subcommand.operandName? = none then
    .error (.misuse (.unknownArgument argument))
  else if subcommand = fingerprint ∧ argument = "" then .error (.misuse (.emptyPath "<FILE>"))
  else .ok argument

/-- Takes arguments all of which are operands. -/
def takeOperands (subcommand : Subcommand) :
    Option String → List String → Except Stop (Option String)
  | operand, [] => .ok operand
  | operand, argument :: rest => do
    let taken ← subcommand.takeOperand operand argument
    takeOperands subcommand (some taken) rest

/-- Takes the arguments behind a subcommand's name. At most one of them is an operand, so two
rounds of options are enough. -/
def takeArguments (subcommand : Subcommand) (arguments : List String) :
    Except Stop (Given × Option String) := do
  let level ← takeOptions subcommand.form arguments Given.none none
  let given ← level.settle
  match level.rest with
  | .nothing => .ok (given, none)
  | .escaped rest => do
    let operand ← subcommand.takeOperands none rest
    .ok (given, operand)
  | .operand argument rest => do
    let operand ← subcommand.takeOperand none argument
    let level ← takeOptions subcommand.form rest given none
    let given ← level.settle
    match level.rest with
    | .nothing => .ok (given, some operand)
    | .escaped rest => do
      let operand ← subcommand.takeOperands (some operand) rest
      .ok (given, operand)
    | .operand argument _ => .error (.misuse (.unknownArgument argument))

/-- The task of a subcommand with what is given to it. -/
def task (subcommand : Subcommand) (given : Given) (operand : Option String) :
    Except Stop Task :=
  match subcommand, operand with
  | header, _ => .ok (.header (given.value? .date))
  | agentKeys, _ => .ok .agentKeys
  | signRaw, some data => .ok (.signRaw data)
  | fingerprint, some file => .ok (.fingerprint file)
  | signRaw, none => .error (.misuse (.missingOperand "<DATA>"))
  | fingerprint, none => .error (.misuse (.missingOperand "<FILE>"))

end Subcommand

/-! ### Command lines -/

/-- A **command line** that can be run. -/
structure Invocation where
  overrides : Settings
  verbose : Bool
  task : Task
  deriving DecidableEq, Repr

/-- The form of the level in front of the subcommand. -/
def outerForm : Form := ⟨ValueOption.overriding, true⟩

/-- Help on subcommands: each further argument has to name one, and those have none. -/
def helpOn : List String → Stop
  | [] => .help
  | [name] =>
    if name = "help" ∨ (Subcommand.ofName? name).isSome then .help
    else .misuse (.unknownCommand name)
  | name :: _ => .misuse (.unknownCommand name)

/-- The command line that arguments make up. -/
def Invocation.read (arguments : List String) : Except Stop Invocation := do
  let level ← takeOptions outerForm arguments Given.none none
  match level.rest with
  | .nothing | .escaped [] => .error (.misuse .missingCommand)
  | .escaped (argument :: _) => .error (.misuse (.unknownArgument argument))
  | .operand name rest =>
    if name = "help" then .error (helpOn rest)
    else
      match Subcommand.ofName? name with
      | none => .error (.misuse (.unknownCommand name))
      | some subcommand => do
        let (inner, operand) ← subcommand.takeArguments rest
        let task ← subcommand.task inner operand
        let outer ← level.settle
        .ok ⟨inner.settings.or outer.settings, inner.verbose || outer.verbose, task⟩

end RequestSigning.Command
