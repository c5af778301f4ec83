import RequestSigning.Settings.Sources
import Mathlib.Tactic.Common

/-!
# When the process goes before the file of variables

The variables of a process and those of a file are looked up together, name by name: a field is read
from the first of its names that has a value in either, and an empty variable of the process hides
one of the file. This is the layer of the process before the layer of the file only where the process
leaves no name open in front of the one that it gives a value under, or sets none of a field's names
at all (`Unmixed`). `ofHost_layered_iff` says that this condition is exact.
-/

namespace RequestSigning.Settings

/-- The names of the variables for each field, in the order in which they are tried. -/
def variableNames : List (List String) :=
  [["TRITON_ACCOUNT", "SDC_ACCOUNT"], ["TRITON_USER", "SDC_USER"],
    ["TRITON_KEY_ID", "SDC_KEY_ID"], ["TRITON_KEY_MATERIAL"], ["SSH_AUTH_SOCK"]]

/-! ### Values under some names -/

section

variable {process file lookup : String → Option String} {name value : String}
  {names before after : List String}

theorem firstValue_cons_of_none (h : lookup name = none) :
    firstValue lookup (name :: names) = firstValue lookup names := by
  rw [firstValue, List.findSome?_cons, h]
  rfl

theorem firstValue_cons_of_empty (h : lookup name = some "") :
    firstValue lookup (name :: names) = firstValue lookup names := by
  rw [firstValue, List.findSome?_cons, h]
  rfl

theorem firstValue_cons_of_ne (h : lookup name = some value) (hvalue : value ≠ "") :
    firstValue lookup (name :: names) = some value := by
  have hkept : (some value).filter (fun value => value ≠ "") = some value := by
    rw [Option.filter_some, if_pos (decide_eq_true hvalue)]
  rw [firstValue, List.findSome?_cons, h, hkept]

theorem firstValue_congr {other : String → Option String}
    (h : ∀ name ∈ names, lookup name = other name) :
    firstValue lookup names = firstValue other names := by
  induction names with
  | nil => rfl
  | cons name names ih =>
    rw [List.forall_mem_cons] at h
    have hrest := ih h.2
    simp only [firstValue, List.findSome?_cons, h.1] at hrest ⊢
    rw [hrest]

theorem firstValue_eq_none_iff :
    firstValue lookup names = none ↔ ∀ name ∈ names, ∀ value, lookup name = some value → value = "" := by
  simp [firstValue, List.findSome?_eq_none_iff, Option.filter_eq_none_iff]

/-- Names with empty values in front change nothing. -/
theorem firstValue_append_of_empty (h : ∀ name ∈ before, lookup name = some "") :
    firstValue lookup (before ++ after) = firstValue lookup after := by
  induction before with
  | nil => rfl
  | cons name before ih =>
    rw [List.forall_mem_cons] at h
    rw [List.cons_append, firstValue_cons_of_empty h.1, ih h.2]

/-! ### Names that decide -/

/-- The process **decides** a field by its names: one of them has a value that is not empty, and all
in front of it are set. -/
def Decided (process : String → Option String) : List String → Prop
  | [] => False
  | name :: names => ∃ value, process name = some value ∧ (value ≠ "" ∨ Decided process names)

/-- A field's names are **unmixed** in a process: it sets none of them, or decides the field. -/
def Unmixed (process : String → Option String) (names : List String) : Prop :=
  (∀ name ∈ names, process name = none) ∨ Decided process names

/-- Where the process decides, no file is looked at. -/
theorem firstValue_of_decided (h : Decided process names) (file : String → Option String) :
    ∃ value, firstValue process names = some value ∧
      firstValue (fun name => (process name).or (file name)) names = some value := by
  induction names with
  | nil => exact h.elim
  | cons name names ih =>
    obtain ⟨value, hset, hdecided⟩ := h
    have hboth : (fun name => (process name).or (file name)) name = some value := by
      simp only [hset, Option.some_or]
    by_cases hvalue : value = ""
    · subst hvalue
      rw [firstValue_cons_of_empty hset, firstValue_cons_of_empty hboth]
      exact ih (hdecided.resolve_left (not_not.mpr rfl))
    · exact ⟨value, firstValue_cons_of_ne hset hvalue, firstValue_cons_of_ne hboth hvalue⟩

/-- Where the names are unmixed, the process goes before the file. -/
theorem firstValue_of_unmixed (h : Unmixed process names) (file : String → Option String) :
    firstValue (fun name => (process name).or (file name)) names =
      (firstValue process names).or (firstValue file names) := by
  rcases h with hunset | hdecided
  · have hprocess : firstValue process names = none := by
      rw [firstValue_eq_none_iff]
      intro name hname value hvalue
      rw [hunset name hname] at hvalue
      contradiction
    have hboth : ∀ name ∈ names, (process name).or (file name) = file name := by
      intro name hname
      rw [hunset name hname, Option.none_or]
    rw [hprocess, Option.none_or]
    exact firstValue_congr hboth
  · obtain ⟨value, hprocess, hboth⟩ := firstValue_of_decided hdecided file
    rw [hprocess, hboth]
    rfl

/-- If the process gives a value but does not decide, one of the names in front of it is open. -/
theorem exists_open_of_not_decided (hvalue : firstValue process names = some value)
    (h : ¬Decided process names) :
    ∃ before name after, names = before ++ name :: after ∧ process name = none ∧
      ∀ earlier ∈ before, process earlier = some "" := by
  induction names with
  | nil => simp [firstValue] at hvalue
  | cons name names ih =>
    cases hset : process name with
    | none => exact ⟨[], name, names, rfl, hset, by simp⟩
    | some own =>
      have hown : own = "" := by
        by_contra hown
        exact h ⟨own, hset, .inl hown⟩
      have hlater : ¬Decided process names := fun hlater => h ⟨own, hset, .inr hlater⟩
      rw [firstValue_cons_of_empty (hset.trans (congrArg some hown))] at hvalue
      obtain ⟨before, open', after, rfl, hopen, hbefore⟩ := ih hvalue hlater
      refine ⟨name :: before, open', after, rfl, hopen, ?_⟩
      rw [List.forall_mem_cons]
      exact ⟨hset.trans (congrArg some hown), hbefore⟩

/-! ### Names that do not decide -/

/-- A file whose one entry is under one of the names gives the value of that entry. -/
theorem firstValue_of_entry (hname : name ∈ names) (hentry : file name = some value)
    (hvalue : value ≠ "") (hothers : ∀ other, other ≠ name → file other = none) :
    firstValue file names = some value := by
  induction names with
  | nil => simp at hname
  | cons head names ih =>
    by_cases hhead : head = name
    · subst hhead
      exact firstValue_cons_of_ne hentry hvalue
    · rw [firstValue_cons_of_none (hothers head hhead)]
      exact ih ((List.mem_cons.mp hname).resolve_left (Ne.symm hhead))

/-- If the process sets a name but gives no value, an entry of a file under that name stays hidden,
where the layer of the file by itself would give its value. -/
theorem firstValue_ne_of_hidden (hnone : firstValue process names = none) (hname : name ∈ names)
    (hset : process name ≠ none) (hentry : file name = some value) (hvalue : value ≠ "")
    (hothers : ∀ other, other ≠ name → file other = none) :
    firstValue (fun other => (process other).or (file other)) names ≠
      (firstValue process names).or (firstValue file names) := by
  have hboth : firstValue (fun other => (process other).or (file other)) names = none := by
    rw [firstValue_eq_none_iff] at hnone ⊢
    intro other hother found hfound
    cases hprocess : process other with
    | some own =>
      rw [hprocess, Option.some_or] at hfound
      exact (Option.some.inj hfound) ▸ hnone other hother own hprocess
    | none =>
      have hne : other ≠ name := fun heq => hset (heq ▸ hprocess)
      simp [hprocess, hothers other hne] at hfound
  rw [hboth, hnone, Option.none_or, firstValue_of_entry hname hentry hvalue hothers]
  simp

/-- If the process gives a value but leaves a name in front of it open, an entry of a file under that
name is put before the process. -/
theorem firstValue_of_open {given : String} (hgiven : firstValue process names = some given)
    (h : ¬Decided process names) :
    ∃ name ∈ names, ∀ (file : String → Option String) (value : String), value ≠ "" →
      file name = some value →
      firstValue (fun other => (process other).or (file other)) names = some value := by
  obtain ⟨before, name, after, rfl, hopen, hbefore⟩ := exists_open_of_not_decided hgiven h
  refine ⟨name, by simp, fun file value hvalue hentry => ?_⟩
  have hempty : ∀ earlier ∈ before, (process earlier).or (file earlier) = some "" := by
    intro earlier hearlier
    rw [hbefore earlier hearlier, Option.some_or]
  have hboth : (process name).or (file name) = some value := by
    rw [hopen, hentry, Option.none_or]
  rw [firstValue_append_of_empty hempty]
  exact firstValue_cons_of_ne hboth hvalue

/-- Where the names are mixed, there is one under which an entry of a file is not put behind the
process; one of any two values will do for the entry. -/
theorem exists_entry_of_not_unmixed (h : ¬Unmixed process names) :
    ∃ name ∈ names, ∃ value ∈ ["x", "y"], ∀ file : String → Option String,
      file name = some value → (∀ other, other ≠ name → file other = none) →
      firstValue (fun other => (process other).or (file other)) names ≠
        (firstValue process names).or (firstValue file names) := by
  rw [Unmixed, not_or] at h
  obtain ⟨hset, hundecided⟩ := h
  cases hgiven : firstValue process names with
  | none =>
    push Not at hset
    obtain ⟨name, hname, hset⟩ := hset
    refine ⟨name, hname, "x", by simp, fun file hentry hothers => ?_⟩
    rw [← hgiven]
    exact firstValue_ne_of_hidden hgiven hname hset hentry (by decide) hothers
  | some given =>
    obtain ⟨name, hname, hbefore⟩ := firstValue_of_open hgiven hundecided
    obtain ⟨value, hvalue, hne⟩ : ∃ value ∈ ["x", "y"], value ≠ given := by
      by_cases hx : "x" = given
      · exact ⟨"y", by simp, by rw [← hx]; decide⟩
      · exact ⟨"x", by simp, hx⟩
    have hnonempty : value ≠ "" := by
      rintro rfl
      revert hvalue
      decide
    refine ⟨name, hname, value, hvalue, fun file hentry _ => ?_⟩
    rw [hbefore file value hnonempty hentry, Option.some_or]
    simpa using hne

end

/-! ### Files of one line -/

/-- A file of one line has the entry that the line writes, in every environment. -/
theorem read_line (environment : Environment) {names : List String}
    (hnames : names ∈ variableNames) {name : String} (hname : name ∈ names) {value : String}
    (hvalue : value ∈ ["x", "y"]) :
    Dotenv.File.read environment (Utf8.encode (name ++ "=" ++ value)) = ⟨[(name, value)], []⟩ := by
  have hlines : ∀ names ∈ variableNames, ∀ name ∈ names, ∀ value ∈ ["x", "y"],
      Dotenv.logicalLines (Utf8.encode (name ++ "=" ++ value)) =
        [.ok (name ++ "=" ++ value).toList] := by decide +kernel
  rw [Dotenv.File.read, hlines names hnames name hname value hvalue]
  simp only [variableNames, List.mem_cons, List.not_mem_nil, or_false] at hnames hvalue
  rcases hnames with rfl | rfl | rfl | rfl | rfl <;>
    simp only [List.mem_cons, List.not_mem_nil, or_false] at hname <;>
    rcases hvalue with rfl | rfl <;>
    rcases hname with rfl | rfl <;> rfl

/-- A host that has an environment, and a file of variables in its working directory. -/
def hostWith (σ : Type) (environment : Environment) (bytes : Bytes) : Host σ where
  environment := environment
  files := ⟨[([dotenvName], .file bytes)]⟩
  directory := []
  userHome := none
  now := ⟨1, 1, by decide, by decide⟩
  draws := fun _ => 0

theorem dotenv_hostWith (σ : Type) (environment : Environment) (bytes : Bytes) :
    dotenv (hostWith σ environment bytes) = Dotenv.File.read environment bytes := rfl

/-! ### Layers -/

/-- The settings of a host are read in one go: a name is looked up in the process, and if it is not
set there in the file of variables. -/
theorem value_ofHost {σ : Type} (host : Host σ) :
    (ofHost host).value = ofLookup fun name =>
      (host.environment.text? name).or ((dotenv host).value? name) := rfl

/-- Settings depend on what is looked up under their names only. -/
theorem ofLookup_congr {lookup other : String → Option String}
    (h : ∀ names ∈ variableNames, ∀ name ∈ names, lookup name = other name) :
    ofLookup lookup = ofLookup other := by
  have hvalue : ∀ names ∈ variableNames, firstValue lookup names = firstValue other names :=
    fun names hnames => firstValue_congr (h names hnames)
  simp only [variableNames, List.forall_mem_cons] at hvalue
  obtain ⟨haccount, huser, hkeyId, hkeyMaterial, hsocket, -⟩ := hvalue
  rw [ofLookup, ofLookup, haccount, huser, hkeyId, hkeyMaterial, hsocket]

/-- Settings read from variables are two layers, one behind the other, exactly if every field is. -/
theorem ofLookup_eq_or_iff {lookup first second : String → Option String} :
    ofLookup lookup = (ofLookup first).or (ofLookup second) ↔
      ∀ names ∈ variableNames, firstValue lookup names =
        (firstValue first names).or (firstValue second names) := by
  simp [ofLookup, or, variableNames]

/-- **The process before the file.** Whatever files a host has, its settings are the layer of the
process before the layer of the file of variables, exactly if the names of every field are unmixed in
the process: it sets none of them, or gives a value under one and leaves none in front of it open. -/
theorem ofHost_layered_iff {σ : Type} (environment : Environment) :
    (∀ host : Host σ, host.environment = environment →
      (ofHost host).value =
        (ofLookup environment.text?).or (ofLookup (dotenv host).value?)) ↔
      ∀ names ∈ variableNames, Unmixed environment.text? names := by
  constructor
  · intro hlayered names hnames
    by_contra hmixed
    obtain ⟨name, hname, value, hvalue, hne⟩ := exists_entry_of_not_unmixed hmixed
    let file : Dotenv.File := ⟨[(name, value)], []⟩
    have hfile : dotenv (hostWith σ environment (Utf8.encode (name ++ "=" ++ value))) = file :=
      (dotenv_hostWith σ environment _).trans (read_line environment hnames hname hvalue)
    have hhost := hlayered (hostWith σ environment (Utf8.encode (name ++ "=" ++ value))) rfl
    rw [value_ofHost, hfile] at hhost
    refine hne file.value? ?_ ?_ (ofLookup_eq_or_iff.mp hhost names hnames)
    · simp [file, Dotenv.File.value?]
    · intro other hother
      simp [file, Dotenv.File.value?, Ne.symm hother]
  · rintro hunmixed host rfl
    refine ofLookup_eq_or_iff.mpr fun names hnames => ?_
    exact firstValue_of_unmixed (hunmixed names hnames) _

/-! ### Two hosts with mixed names -/

/-- The process gives the account under its older name, the file under the newer one. -/
def olderNameHost : Host Unit :=
  hostWith Unit ⟨[("SDC_ACCOUNT", Utf8.encode "env-legacy")]⟩ (Utf8.encode "TRITON_ACCOUNT=file\n")

/-- The process has an empty account, the file one that is not empty. -/
def emptyValueHost : Host Unit :=
  hostWith Unit ⟨[("TRITON_ACCOUNT", [])]⟩ (Utf8.encode "TRITON_ACCOUNT=file\n")

/-- The file goes before the process on the one host, and is not used on the other. -/
theorem ofHost_not_layered :
    (ofHost olderNameHost).value.account = some "file" ∧
      ((ofLookup olderNameHost.environment.text?).or
        (ofLookup (dotenv olderNameHost).value?)).account = some "env-legacy" ∧
      (ofHost emptyValueHost).value.account = none ∧
      ((ofLookup emptyValueHost.environment.text?).or
        (ofLookup (dotenv emptyValueHost).value?)).account = some "file" := by
  decide +kernel

end RequestSigning.Settings
