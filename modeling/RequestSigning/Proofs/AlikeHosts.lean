import RequestSigning.Proofs.SettingsMerge

/-!
# Hosts that differ in the content of their files

Two trees are alike (`FileTree.Alike`) if they have the same names, with directories in the same
places, and what stands under a name in the one is related to what stands there in the other: the
bytes of files by one relation, which may depend on the name, and connections of sockets by another.
On alike trees paths lead to the same names or fail alike. So on alike hosts the settings are the same
if the files that they are read from are (`Settings.load_of_alike`).
-/

namespace RequestSigning

variable {σ : Type}

/-- `Outcomes R` relates failures that are the same, and results that `R` relates. -/
inductive Outcomes {ε α β : Type} (R : α → β → Prop) : Except ε α → Except ε β → Prop
  | error (e : ε) : Outcomes R (.error e) (.error e)
  | ok {a : α} {b : β} (h : R a b) : Outcomes R (.ok a) (.ok b)

/-! ### Nodes and trees -/

/-- Nodes under the same names that are **alike**: of one kind, and with related contents. -/
inductive FileNode.Alike (same : Bytes → Bytes → Prop) (linked : σ → σ → Prop) :
    FileNode σ → FileNode σ → Prop
  | file {bytes other : Bytes} (h : same bytes other) : Alike same linked (.file bytes) (.file other)
  | directory : Alike same linked .directory .directory
  | socket {stream other : σ} (h : linked stream other) :
    Alike same linked (.socket stream) (.socket other)

namespace FileTree

/-- Trees that are **alike**: with the same names, and alike nodes under each. -/
def Alike (same : List String → Bytes → Bytes → Prop) (linked : σ → σ → Prop)
    (tree other : FileTree σ) : Prop :=
  ∀ names, Option.Rel (FileNode.Alike (same names) linked) (tree.node? names) (other.node? names)

/-- Trees are alike if they list alike nodes under the same names. -/
theorem alike_of_nodes {same : List String → Bytes → Bytes → Prop} {linked : σ → σ → Prop}
    {nodes others : List (List String × FileNode σ)}
    (h : List.Forall₂ (fun entry other => other.1 = entry.1 ∧
      FileNode.Alike (same entry.1) linked entry.2 other.2) nodes others) :
    Alike same linked ⟨nodes⟩ ⟨others⟩ := by
  intro names
  obtain ⟨hfind, hany⟩ :
      Option.Rel (fun entry other => FileNode.Alike (same names) linked entry.2 other.2)
        (nodes.find? fun entry => entry.1 = names) (others.find? fun entry => entry.1 = names) ∧
      (others.any fun entry => names.isPrefixOf entry.1) =
        nodes.any fun entry => names.isPrefixOf entry.1 := by
    induction h with
    | nil => exact ⟨.none, rfl⟩
    | cons hentry _ ih =>
      rw [List.find?_cons, List.find?_cons, List.any_cons, List.any_cons, hentry.1, ih.2]
      refine ⟨?_, rfl⟩
      split
      · next hnames => exact .some (of_decide_eq_true hnames ▸ hentry.2)
      · exact ih.1
  rw [node?, node?]
  dsimp only
  rw [hany]
  generalize (nodes.find? fun entry => entry.1 = names) = found,
    (others.find? fun entry => entry.1 = names) = otherFound at hfind ⊢
  cases hfind with
  | some hnode => exact .some hnode
  | none =>
    dsimp only
    split_ifs
    · exact .some .directory
    · exact .none

/-- The names after one more step, through a directory. -/
def advance (names : List String) (step : String) : List String :=
  if step = "" ∨ step = "." then names
  else if step = ".." then names.dropLast
  else names ++ [step]

variable {same : List String → Bytes → Bytes → Prop} {linked : σ → σ → Prop}
  {tree other : FileTree σ}

/-- Steps lead to the same names, or fail alike. -/
theorem Alike.follow (h : Alike same linked tree other) (names steps : List String) :
    Outcomes (FileNode.Alike (same (steps.foldl advance names)) linked)
      (tree.follow names steps) (other.follow names steps) := by
  -- the names change with every step, in both trees to the same
  induction steps generalizing names with
  | nil =>
    have hnode := h names
    rw [FileTree.follow, FileTree.follow]
    generalize tree.node? names = node, other.node? names = otherNode at hnode ⊢
    cases hnode with
    | none => exact .error _
    | some hnode => exact .ok hnode
  | cons step rest ih =>
    have hnode := h names
    rw [FileTree.follow, FileTree.follow, List.foldl_cons]
    generalize tree.node? names = node, other.node? names = otherNode at hnode ⊢
    cases hnode with
    | none => exact .error _
    | some hnode =>
      cases hnode with
      | file | socket => exact .error _
      | directory =>
        dsimp only
        rw [advance]
        split_ifs
        · exact ih _
        · exact ih _
        · exact .error _
        · exact ih _

/-- The names that a path leads to, by the steps of the path. -/
theorem names_eq_foldl (directory : List String) (path : String) :
    names directory path =
      (steps path).foldl advance (if path.toList.head? = some '/' then [] else directory) := rfl

/-- The first step is empty exactly in a path from the root. -/
theorem exists_steps_eq_cons {path : String} (hne : path ≠ "") :
    ∃ step rest, steps path = step :: rest ∧ (step = "" ↔ path.toList.head? = some '/') := by
  refine ⟨_, _, rfl, ?_⟩
  cases hlist : path.toList with
  | nil => exact absurd (String.toList_eq_nil_iff.mp hlist) hne
  | cons c rest =>
    rw [List.foldr_cons, List.head?_cons, Option.some.injEq]
    split_ifs with hslash <;> simp [hslash]

/-- The names that a path starts from. -/
def origin (directory : List String) (path : String) : List String :=
  if path.toList.head? = some '/' then [] else directory

/-- A path is followed by steps that do not depend on the tree. -/
theorem locate_eq_follow (directory : List String) {path : String}
    (hne : path ≠ "") (hshort : ¬pathLimit < path.utf8ByteSize) :
    ∃ walked, walked.foldl advance (origin directory path) = names directory path ∧
      ∀ tree : FileTree σ, tree.locate directory path =
        tree.follow (origin directory path) walked := by
  obtain ⟨step, rest, hsteps, hroot⟩ := exists_steps_eq_cons hne
  rw [names_eq_foldl, hsteps, origin]
  -- an empty first step stands for the root and is not followed
  by_cases hstep : step = ""
  · subst hstep
    rw [if_pos (hroot.mp rfl)]
    refine ⟨rest, rfl, fun tree => ?_⟩
    rw [locate, if_neg hne, if_neg hshort, hsteps]
    rfl
  · rw [if_neg (mt hroot.mpr hstep)]
    refine ⟨step :: rest, rfl, fun tree => ?_⟩
    rw [locate, if_neg hne, if_neg hshort, hsteps]
    split
    · next hcons => exact absurd (List.cons.inj hcons).1 hstep
    · rfl

theorem Alike.locate (h : Alike same linked tree other) (directory : List String) (path : String) :
    Outcomes (FileNode.Alike (same (names directory path)) linked)
      (tree.locate directory path) (other.locate directory path) := by
  by_cases hempty : path = ""
  · rw [FileTree.locate, FileTree.locate, if_pos hempty, if_pos hempty]
    exact .error _
  · by_cases hlong : pathLimit < path.utf8ByteSize
    · rw [FileTree.locate, FileTree.locate, if_neg hempty, if_neg hempty, if_pos hlong, if_pos hlong]
      exact .error _
    · obtain ⟨walked, hnames, hlocate⟩ := locate_eq_follow directory hempty hlong
      rw [hlocate tree, hlocate other, ← hnames]
      exact h.follow _ walked

theorem Alike.contains (h : Alike same linked tree other) (directory : List String)
    (path : String) : other.contains directory path = tree.contains directory path := by
  have hnode := h.locate directory path
  rw [FileTree.contains, FileTree.contains]
  generalize tree.locate directory path = node, other.locate directory path = otherNode
    at hnode ⊢
  cases hnode <;> rfl

/-- What is read at a path is related, for the names that the path leads to. -/
theorem Alike.read (h : Alike same linked tree other) (directory : List String) (path : String) :
    Outcomes (same (names directory path)) (tree.read directory path)
      (other.read directory path) := by
  have hnode := h.locate directory path
  rw [FileTree.read, FileTree.read]
  generalize tree.locate directory path = node, other.locate directory path = otherNode
    at hnode ⊢
  split_ifs
  · exact .error _
  · cases hnode with
    | error => exact .error _
    | ok hnode =>
      cases hnode with
      | file hbytes => exact .ok hbytes
      | directory | socket => exact .error _

theorem Alike.connect (h : Alike same linked tree other) (directory : List String)
    (path : String) :
    Outcomes linked (tree.connect directory path) (other.connect directory path) := by
  have hnode := h.locate directory path
  rw [FileTree.connect, FileTree.connect]
  generalize tree.locate directory path = node, other.locate directory path = otherNode
    at hnode ⊢
  split_ifs
  · exact .error _
  · exact .error _
  · exact .error _
  · cases hnode with
    | error => exact .error _
    | ok hnode =>
      cases hnode with
      | socket hlinked => exact .ok hlinked
      | directory | file => exact .error _

end FileTree

/-! ### Hosts -/

/-- Hosts that are **alike**: processes told the same, on alike trees. They may differ in the time and
in random numbers. -/
structure Host.Alike (same : List String → Bytes → Bytes → Prop) (linked : σ → σ → Prop)
    (host other : Host σ) : Prop where
  environment : other.environment = host.environment
  directory : other.directory = host.directory
  userHome : other.userHome = host.userHome
  files : FileTree.Alike same linked host.files other.files

section Hosts

variable {same : List String → Bytes → Bytes → Prop} {linked : σ → σ → Prop} {host other : Host σ}

theorem Host.Alike.read (h : Host.Alike same linked host other) (path : String) :
    Outcomes (same (FileTree.names host.directory path)) (host.read path)
      (other.read path) := by
  rw [Host.read, Host.read, h.directory]
  exact h.files.read host.directory path

theorem Host.Alike.connect (h : Host.Alike same linked host other) (path : String) :
    Outcomes linked (host.connect path) (other.connect path) := by
  rw [Host.connect, Host.connect, h.directory]
  exact h.files.connect host.directory path

/-- Where contents are the same that are related, the same is read. -/
theorem Host.Alike.read_eq (h : Host.Alike same linked host other) {path : String}
    (hsame : ∀ bytes changed, same (FileTree.names host.directory path) bytes changed →
      changed = bytes) : other.read path = host.read path := by
  have hread := h.read path
  generalize host.read path = found, other.read path = otherFound at hread ⊢
  cases hread with
  | error => rfl
  | ok hbytes => rw [hsame _ _ hbytes]

theorem Host.Alike.connect_eq (h : Host.Alike same (· = ·) host other) (path : String) :
    other.connect path = host.connect path := by
  have hconnect := h.connect path
  generalize host.connect path = found, other.connect path = otherFound at hconnect ⊢
  cases hconnect with
  | error => rfl
  | ok heq => rw [heq]

namespace Settings

/-- The names of the file of variables that is used, looked for as `nearestDotenv` does. -/
def dotenvNames? (files : FileTree σ) : List String → Option (List String)
  | [] => inDirectory []
  | name :: above =>
    match inDirectory (name :: above) with
    | some names => some names
    | none => dotenvNames? files above
where
  /-- The names of the file in one directory. -/
  inDirectory (reversed : List String) : Option (List String) :=
    match files.node? (reversed.reverse ++ [dotenvName]) with
    | some (.file _) => some (reversed.reverse ++ [dotenvName])
    | _ => none

/-- The files that settings are read from are **kept**: what is related to their contents is the same
as these. -/
structure Kept (same : List String → Bytes → Bytes → Prop) (host : Host σ) : Prop where
  dotenv : ∀ names, dotenvNames? host.files host.directory.reverse = some names →
    ∀ bytes changed, same names bytes changed → changed = bytes
  defaultFile : ∀ path, defaultPath? host = some path →
    ∀ bytes changed, same (FileTree.names host.directory path) bytes changed → changed = bytes

/-- What stands in one directory is found in both trees, or in neither. -/
theorem inDirectory_of_alike {files otherFiles : FileTree σ}
    (h : FileTree.Alike same linked files otherFiles) (reversed : List String) :
    (∃ names bytes changed, dotenvNames?.inDirectory files reversed = some names ∧
      same names bytes changed ∧ nearestDotenv.inDirectory files reversed = some bytes ∧
      nearestDotenv.inDirectory otherFiles reversed = some changed) ∨
    (dotenvNames?.inDirectory files reversed = none ∧
      nearestDotenv.inDirectory files reversed = none ∧
      nearestDotenv.inDirectory otherFiles reversed = none) := by
  have hnode := h (reversed.reverse ++ [dotenvName])
  rw [dotenvNames?.inDirectory, nearestDotenv.inDirectory, nearestDotenv.inDirectory]
  generalize files.node? (reversed.reverse ++ [dotenvName]) = node,
    otherFiles.node? (reversed.reverse ++ [dotenvName]) = otherNode at hnode ⊢
  cases hnode with
  | none => exact .inr ⟨rfl, rfl, rfl⟩
  | some hnode =>
    cases hnode with
    | file hbytes => exact .inl ⟨_, _, _, rfl, hbytes, rfl, rfl⟩
    | directory | socket => exact .inr ⟨rfl, rfl, rfl⟩

/-- The file of variables is found at the same names in both trees, with related contents, or in
neither. -/
theorem nearestDotenv_cases {files otherFiles : FileTree σ}
    (h : FileTree.Alike same linked files otherFiles) (reversed : List String) :
    (∃ names bytes changed, dotenvNames? files reversed = some names ∧ same names bytes changed ∧
      nearestDotenv files reversed = some bytes ∧ nearestDotenv otherFiles reversed = some changed) ∨
    (dotenvNames? files reversed = none ∧ nearestDotenv files reversed = none ∧
      nearestDotenv otherFiles reversed = none) := by
  induction reversed with
  | nil => exact inDirectory_of_alike h []
  | cons name above ih =>
    rw [dotenvNames?, nearestDotenv, nearestDotenv]
    rcases inDirectory_of_alike h (name :: above) with
      ⟨names, bytes, changed, hnames, hbytes, hfile, hother⟩ | ⟨hnames, hfile, hother⟩
    · rw [hnames, hfile, hother]
      exact .inl ⟨names, bytes, changed, rfl, hbytes, rfl, rfl⟩
    · rw [hnames, hfile, hother]
      exact ih

theorem nearestDotenv_of_alike {files otherFiles : FileTree σ}
    (h : FileTree.Alike same linked files otherFiles) (reversed : List String)
    (hsame : ∀ names, dotenvNames? files reversed = some names →
      ∀ bytes changed, same names bytes changed → changed = bytes) :
    nearestDotenv otherFiles reversed = nearestDotenv files reversed := by
  rcases nearestDotenv_cases h reversed with
    ⟨names, bytes, changed, hnames, hbytes, hfile, hother⟩ | ⟨-, hfile, hother⟩
  · rw [hfile, hother, hsame names hnames bytes changed hbytes]
  · rw [hfile, hother]

/-! ### The settings of alike hosts -/

section Layers

variable (h : Host.Alike same linked host other)
include h

theorem ofHost_of_alike (hkept : Kept same host) : ofHost other = ofHost host := by
  have hdotenv : dotenv other = dotenv host := by
    rw [dotenv, dotenv, h.environment, h.directory,
      nearestDotenv_of_alike h.files host.directory.reverse hkept.dotenv]
  rw [ofHost, ofHost, hdotenv, h.environment]

theorem ofDefaultFile_of_alike (hdefault : ∀ path, defaultPath? host = some path →
    ∀ bytes changed, same (FileTree.names host.directory path) bytes changed → changed = bytes) :
    ofDefaultFile other = ofDefaultFile host := by
  have hpath : defaultPath? other = defaultPath? host := by
    rw [defaultPath?, defaultPath?, configHome?, configHome?, home?, home?, h.environment,
      h.userHome]
  have hcontains : ∀ path, other.files.contains other.directory path =
      host.files.contains host.directory path := by
    intro path
    rw [h.directory, h.files.contains]
  rw [ofDefaultFile, ofDefaultFile, hpath, funext hcontains]
  cases hfilter : (defaultPath? host).filter (host.files.contains host.directory) with
  | none => rfl
  | some path =>
    have hread := h.read_eq (hdefault path (Option.filter_eq_some_iff.mp hfilter).1)
    dsimp only
    rw [ofFile, ofFile, hread]

/-- **Alike hosts have the same settings** if the files of the settings are kept, and the same is
logged on the way. -/
theorem load_of_alike (hkept : Kept same host) (overrides : Settings) :
    load other overrides = load host overrides := by
  rw [load, load, ofDefaultFile_of_alike h hkept.defaultFile, ofHost_of_alike h hkept]

end Layers

end Settings

end Hosts

end RequestSigning
