import RequestSigning.Proofs.SettingsLayers

/-!
# What a file of variables reads of the process

A value in a file of variables may refer to variables of the process. `Dotenv.File.references` gives
the names that a file refers to, in the order in which they are looked up, and reading the file
depends on the process by what stands behind these names only (`Dotenv.File.read_congr`).

So a variable that no reference can find (`Environment.finds`) makes no difference to the settings:
these are the same in environments that are the same but for it (`Settings.value_load_rerun`).

The names are followed by the reader's own states, a character at a time (`Dotenv.Partial.asked?`),
since a reference has no end mark and is looked up where the next character shows that it is over. A
reference may hold an equals sign and then finds a variable by its name and the front of its value,
so what can find a variable is a relation (`Environment.finds`) and not equality of names.
-/

namespace RequestSigning

/-! ### Environments that are the same but for a variable -/

namespace Environment

/-- The environment without a variable. -/
def without (environment : Environment) (hidden : String) : Environment :=
  ⟨environment.bindings.filter fun binding => binding.1 ≠ hidden⟩

/-- Whether a name **finds** a variable: it is the variable's, or has that and an equals sign in
front. -/
def finds (name hidden : String) : Bool :=
  (Utf8.encode hidden ++ [61]).isPrefixOf (Utf8.encode name ++ [61])

variable {hidden name : String}

/-- Hiding one variable hides no other. -/
theorem bytes?_without (environment : Environment) (h : name ≠ hidden) :
    (environment.without hidden).bytes? name = environment.bytes? name := by
  rw [bytes?, bytes?, without, List.find?_filter]
  congr 2
  funext binding
  by_cases hname : binding.1 = name
  · simp [hname, h]
  · simp [hname]

/-- An entry is not found under a name that its own name does not stand for. -/
theorem bytesBehind?_eq_none {value : Bytes} (hequals : 61 ∉ Utf8.encode hidden)
    (h : finds name hidden = false) :
    bytesBehind? name (Utf8.encode hidden ++ [61] ++ value) = none := by
  rw [bytesBehind?]
  refine if_neg fun hfront => ?_
  have hmark := List.isPrefixOf_iff_prefix.mp hfront
  have hown : Utf8.encode hidden ++ [61] <+: Utf8.encode hidden ++ [61] ++ value :=
    List.prefix_append _ _
  have hfinds : Utf8.encode hidden ++ [61] <+: Utf8.encode name ++ [61] := by
    -- the shorter one of the two is in front of the other, and the variable's name has no equals sign
    rcases List.prefix_or_prefix_of_prefix hown hmark with hlonger | hshorter
    · exact hlonger
    · rcases List.prefix_concat_iff.mp hshorter with hsame | hinside
      · exact hsame ▸ List.prefix_rfl
      · exact absurd (hinside.subset (by simp)) hequals
  rw [finds, List.isPrefixOf_iff_prefix.mpr hfinds] at h
  contradiction

/-- What stands behind a name that does not find a variable stands there without the variable. -/
theorem behind?_without (environment : Environment) (hequals : 61 ∉ Utf8.encode hidden)
    (h : finds name hidden = false) :
    (environment.without hidden).behind? name = environment.behind? name := by
  rw [behind?, behind?, without]
  congr 1
  induction environment.bindings with
  | nil => rfl
  | cons binding bindings ih =>
    by_cases hname : binding.1 = hidden
    · rw [List.filter_cons_of_neg (by simpa using hname), ih, List.findSome?_cons, hname,
        bytesBehind?_eq_none hequals h]
    · rw [List.filter_cons_of_pos (by simpa using hname), List.findSome?_cons, List.findSome?_cons, ih]

/-- Environments are **the same but for** a variable. -/
def SameBut (hidden : String) (environment other : Environment) : Prop :=
  environment.without hidden = other.without hidden

namespace SameBut

variable {environment other : Environment}

/-- Environments that differ in one variable agree on all the others. -/
theorem bytes? (h : SameBut hidden environment other) (hname : name ≠ hidden) :
    environment.bytes? name = other.bytes? name := by
  rw [← bytes?_without environment hname, h, bytes?_without other hname]

/-- They also agree on a reference, if the name in it cannot find the variable they differ in. -/
theorem behind? (h : SameBut hidden environment other) (hequals : 61 ∉ Utf8.encode hidden)
    (hfinds : finds name hidden = false) : environment.behind? name = other.behind? name := by
  rw [← behind?_without environment hequals hfinds, h, behind?_without other hequals hfinds]

end SameBut

end Environment

/-! ### Names that a file refers to -/

namespace Dotenv

variable {scope other : Scope}

/-- The name that is looked up for the next character of a value. -/
def Partial.asked? (state : Partial) (c : Char) : Option String :=
  match state.place with
  | .name read =>
    if Text.isAlphanumeric c ∨ c = '\x7b' ∧ read = [] then none else some (String.ofList read.reverse)
  | .braced read => if c = '\x7d' then some (String.ofList read.reverse) else none
  | _ => none

/-- The name that is looked up at the end of a value. -/
def Partial.askedLast? (state : Partial) : Option String :=
  if state.double then none
  else
    match state.place with
    | .name read => some (String.ofList read.reverse)
    | _ => none

/-- The names that a value's text refers to. -/
def Partial.references (scope : Scope) (state : Partial) : List Char → List String
  | [] => state.askedLast?.toList
  | c :: rest =>
    (state.asked? c).toList ++
      match state.step scope c with
      | .more state => references scope state rest
      | .done => state.askedLast?.toList
      | .fault => []

/-- The names that a logical line refers to. -/
def lineReferences (scope : Scope) (line : List Char) : List String :=
  match (Cursor.mk (Text.trimEnd line) 0).skipBlanks.assignment with
  | .error _ => []
  | .ok (_, cursor) =>
    if cursor.rest = [] ∨ cursor.rest.head? = some '#' then []
    else Partial.references scope ⟨[], false, .plain⟩ cursor.rest

/-- The names that logical lines refer to, behind those that were read. -/
def File.referencesFrom (environment : Environment) (file : File) :
    List (Except Fault (List Char)) → List String
  | [] => []
  | line :: rest =>
    (match line with
      | .error _ => []
      | .ok text => lineReferences ⟨environment, file.entries⟩ text) ++
        referencesFrom environment (file.readLine environment line) rest

/-- The names that a file **refers to**. -/
def File.references (environment : Environment) (bytes : Bytes) : List String :=
  File.referencesFrom environment .empty (logicalLines bytes)

/-! ### What is read depends on these only -/

/-- One character asks for at most one name, and only that name's value matters to the step. -/
theorem Partial.step_congr {state : Partial} {c : Char}
    (h : ∀ name ∈ state.asked? c, scope.lookup name = other.lookup name) :
    state.step scope c = state.step other c := by
  obtain ⟨output, double, place⟩ := state
  cases place with
  | name read =>
    by_cases hinside : Text.isAlphanumeric c ∨ c = '\x7b' ∧ read = []
    · rcases hinside with halphanumeric | hbrace
      · simp [step, halphanumeric]
      · simp [step, hbrace]
    · have hlookup := h (String.ofList read.reverse) (if_neg hinside)
      simp only [step, hlookup]
  | braced read =>
    by_cases hclose : c = '\x7d'
    · have hlookup := h (String.ofList read.reverse) (if_pos hclose)
      simp only [step, hlookup]
    · simp [step, hclose]
  | plain | trailing | escape | single => rfl

/-- The end of a text may complete one last reference. -/
theorem Partial.finish?_congr {state : Partial}
    (h : ∀ name ∈ state.askedLast?, scope.lookup name = other.lookup name) :
    state.finish? scope = state.finish? other := by
  obtain ⟨output, double, place⟩ := state
  cases double with
  | true => rfl
  | false =>
    cases place with
    | name read =>
      have hlookup := h (String.ofList read.reverse) rfl
      simp only [finish?, hlookup]
    | plain | trailing | escape | single | braced _ => rfl

/-- Characters are taken in the same way, and what is asked for at the end is among the names. -/
theorem Partial.run_congr {text : List Char} {state : Partial} (position : Nat)
    (h : ∀ name ∈ state.references scope text, scope.lookup name = other.lookup name) :
    Partial.run scope state position text = Partial.run other state position text ∧
      ∀ final, Partial.run scope state position text = .ok final →
        final.finish? scope = final.finish? other := by
  induction text generalizing state position with
  | nil =>
    refine ⟨rfl, fun final hfinal => ?_⟩
    obtain rfl := Except.ok.inj hfinal
    exact finish?_congr fun name hname => h name (Option.mem_toList.mpr hname)
  | cons c rest ih =>
    simp only [references, List.mem_append] at h
    have hstep : state.step scope c = state.step other c :=
      step_congr fun name hname => h name (.inl (Option.mem_toList.mpr hname))
    rw [run, run, ← hstep]
    cases hnext : state.step scope c with
    | more next =>
      rw [hnext] at h
      exact ih (position + 1) fun name hname => h name (.inr hname)
    | done =>
      rw [hnext] at h
      refine ⟨rfl, fun final hfinal => ?_⟩
      obtain rfl := Except.ok.inj hfinal
      exact finish?_congr fun name hname => h name (.inr (Option.mem_toList.mpr hname))
    | fault => exact ⟨rfl, fun final hfinal => nomatch hfinal⟩

/-- A line is read alike in scopes that give the same values to the names it asks for. -/
theorem readLine_congr {line : List Char}
    (h : ∀ name ∈ lineReferences scope line, scope.lookup name = other.lookup name) :
    readLine scope line = readLine other line := by
  rw [lineReferences] at h
  rw [readLine, readLine]
  split_ifs with hblank
  · rfl
  · cases hassignment : (Cursor.mk (Text.trimEnd line) 0).skipBlanks.assignment with
    | error position => rfl
    | ok found =>
      obtain ⟨name, cursor⟩ := found
      simp only [hassignment] at h ⊢
      split_ifs at h ⊢ with hempty
      · rfl
      · obtain ⟨hrun, hfinish⟩ := Partial.run_congr 0 h
        rw [readValue, readValue, ← hrun]
        cases hfinal : Partial.run scope ⟨[], false, .plain⟩ 0 cursor.rest with
        | error position => rfl
        | ok final => simp only [hfinish final hfinal]

namespace File

variable {environment other : Environment}

/-- The same for a line of a file, whose own earlier entries come before the environment's. -/
theorem readLine_congr {file : File} {line : Except Fault (List Char)}
    (h : ∀ text, line = .ok text → ∀ name ∈ lineReferences ⟨environment, file.entries⟩ text,
      environment.behind? name = other.behind? name) :
    file.readLine environment line = file.readLine other line := by
  cases line with
  | error fault => rfl
  | ok text =>
    have hline : Dotenv.readLine ⟨environment, file.entries⟩ text =
        Dotenv.readLine ⟨other, file.entries⟩ text := by
      refine Dotenv.readLine_congr fun name hname => ?_
      rw [Scope.lookup, Scope.lookup]
      dsimp only
      rw [h text rfl name hname]
    have hbind : (Except.ok text : Except Fault (List Char)).bind
        (Dotenv.readLine ⟨environment, file.entries⟩) =
      (Except.ok text : Except Fault (List Char)).bind (Dotenv.readLine ⟨other, file.entries⟩) := hline
    rw [readLine, readLine, hbind]

/-- A whole file is read alike when every reference that reaches the environment finds the same. -/
theorem foldl_readLine_congr {file : File} {lines : List (Except Fault (List Char))}
    (h : ∀ name ∈ referencesFrom environment file lines,
      environment.behind? name = other.behind? name) :
    lines.foldl (readLine environment) file = lines.foldl (readLine other) file := by
  induction lines generalizing file with
  | nil => rfl
  | cons line rest ih =>
    simp only [referencesFrom, List.mem_append] at h
    have hline : file.readLine environment line = file.readLine other line := by
      refine readLine_congr fun text htext name hname => h name (.inl ?_)
      rw [htext]
      exact hname
    rw [List.foldl_cons, List.foldl_cons, ih fun name hname => h name (.inr hname), hline]

/-- **References.** What is read of a file depends on the process by what it refers to only. -/
theorem read_congr {bytes : Bytes} (h : ∀ name ∈ references environment bytes,
    environment.behind? name = other.behind? name) : read environment bytes = read other bytes :=
  foldl_readLine_congr h

end File

end Dotenv

/-! ### Settings -/

/-- The host of **another run**, with another environment, at another time, and with other random
numbers. -/
def Host.rerun {σ : Type} (host : Host σ) (environment : Environment) (now : Timestamp)
    (draws : Nat → Nat) : Host σ :=
  { host with environment := environment, now := now, draws := draws }

namespace Settings

variable {σ : Type} {host : Host σ} {hidden : String} {environment : Environment}

/-- The names that the file of variables of a process refers to. -/
def references (host : Host σ) : List String :=
  match nearestDotenv host.files host.directory.reverse with
  | some bytes => Dotenv.File.references host.environment bytes
  | none => []

/-- A variable is **unread** by the settings of a process: it is none of those that settings are made
of or found by, and no reference in the file of variables finds it. -/
structure Unread (host : Host σ) (hidden : String) : Prop where
  notMem_variables : ∀ names ∈ variableNames, hidden ∉ names
  ne_directories : "HOME" ≠ hidden ∧ "XDG_CONFIG_HOME" ≠ hidden
  noEquals : 61 ∉ Utf8.encode hidden
  notFound : ∀ name ∈ references host, Environment.finds name hidden = false

section

variable (h : Unread host hidden) (hsame : Environment.SameBut hidden host.environment environment)
  (now : Timestamp) (draws : Nat → Nat)

include h hsame

theorem dotenv_rerun : dotenv (host.rerun environment now draws) = dotenv host := by
  have hfound := h.notFound
  rw [references] at hfound
  rw [dotenv, dotenv, Host.rerun]
  cases hnearest : nearestDotenv host.files host.directory.reverse with
  | none => rfl
  | some bytes =>
    simp only [hnearest] at hfound
    exact (Dotenv.File.read_congr fun name hname =>
      hsame.behind? h.noEquals (hfound name hname)).symm

/-- The settings of the environment and of `.env` do not see what a repetition changes. -/
theorem value_ofHost_rerun :
    (ofHost (host.rerun environment now draws)).value = (ofHost host).value := by
  have hlookup : ∀ names ∈ variableNames, ∀ name ∈ names,
      lookup environment (dotenv host) name = lookup host.environment (dotenv host) name := by
    intro names hnames name hname
    have hne : name ≠ hidden := fun heq => h.notMem_variables names hnames (heq ▸ hname)
    rw [lookup, lookup, Environment.text?, Environment.text?, hsame.bytes? hne]
  have hlayer : ofVariables environment (dotenv host) =
      ofVariables host.environment (dotenv host) := ofLookup_congr hlookup
  simp only [ofHost, dotenv_rerun h hsame now draws]
  exact hlayer

theorem defaultPath?_rerun : defaultPath? (host.rerun environment now draws) = defaultPath? host := by
  have hhome := hsame.bytes? h.ne_directories.1
  have hconfig := hsame.bytes? h.ne_directories.2
  simp only [defaultPath?, configHome?, home?, Host.rerun, hhome, hconfig]

/-- The user's configuration file is found and read alike in a repetition. -/
theorem ofDefaultFile_rerun :
    ofDefaultFile (host.rerun environment now draws) = ofDefaultFile host := by
  rw [ofDefaultFile, defaultPath?_rerun h hsame now draws]
  rfl

/-- **Settings.** A variable that is unread makes no difference to the settings. -/
theorem value_load_rerun (overrides : Settings) :
    (load (host.rerun environment now draws) overrides).value = (load host overrides).value := by
  simp only [load, Logged.value_bind, Logged.value_pure, ofDefaultFile_rerun h hsame now draws,
    value_ofHost_rerun h hsame now draws]

end

end Settings

end RequestSigning
