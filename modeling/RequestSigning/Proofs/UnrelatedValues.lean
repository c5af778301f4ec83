import RequestSigning.Proofs.LogSecrecy
import RequestSigning.Proofs.RewordedFiles

/-!
# Values that nothing asks for

Two runs of one command line are compared, on hosts with other values in the file of variables
(`Settings.OtherValues`): unmarked ones of names that no setting has and that the file does not refer
to. `Command.unrelated_values_unseen` says that the runs are the same, but for the reports of rejected
lines with another value (`Settings.changedReports`), each of which stands in its place in the log.

Such a report tells the text that could not be read, values and all. So where a line with another
value is rejected, the value can be seen in the log (`Command.rejected_values_logged`).
-/

namespace RequestSigning

open Agent

variable {σ α β : Type}

/-! ### The names of files -/

namespace FileTree

/-- The steps of a text, the first one apart. -/
def stepsCut (text : List Char) : List Char × List (List Char) :=
  text.foldr
    (fun c (cut : List Char × List (List Char)) =>
      if c = '/' then ([], cut.1 :: cut.2) else (c :: cut.1, cut.2))
    ([], [])

theorem steps_eq (path : String) : steps path =
    ((stepsCut path.toList).1 :: (stepsCut path.toList).2).map String.ofList := rfl

theorem stepsCut_of_notMem {text : List Char} (h : '/' ∉ text) : stepsCut text = (text, []) := by
  induction text with
  | nil => rfl
  | cons c rest ih =>
    rw [List.mem_cons, not_or] at h
    have hcons : stepsCut (c :: rest) = (c :: (stepsCut rest).1, (stepsCut rest).2) :=
      if_neg (Ne.symm h.1)
    rw [hcons, ih h.2]

/-- The steps behind a `/` are the last steps of the whole path. -/
theorem exists_stepsCut_append (front text : List Char) : ∃ others,
    (stepsCut (front ++ '/' :: text)).2 = others ++ (stepsCut text).1 :: (stepsCut text).2 := by
  induction front with
  | nil => exact ⟨[], rfl⟩
  | cons c front ih =>
    obtain ⟨others, hothers⟩ := ih
    rw [List.cons_append]
    by_cases hslash : c = '/'
    · have hcons : stepsCut (c :: (front ++ '/' :: text)) =
          ([], (stepsCut (front ++ '/' :: text)).1 :: (stepsCut (front ++ '/' :: text)).2) :=
        if_pos hslash
      rw [hcons, hothers]
      exact ⟨_ :: others, rfl⟩
    · have hcons : stepsCut (c :: (front ++ '/' :: text)) =
          (c :: (stepsCut (front ++ '/' :: text)).1, (stepsCut (front ++ '/' :: text)).2) :=
        if_neg hslash
      rw [hcons, hothers]
      exact ⟨others, rfl⟩

/-- A path leads to what stands behind its last slash. -/
theorem exists_names_append (directory : List String) (front : String) {last : String}
    (hslash : '/' ∉ last.toList) (hstep : last ≠ "" ∧ last ≠ "." ∧ last ≠ "..") :
    ∃ above, names directory (front ++ "/" ++ last) = above ++ [last] := by
  have htext : (front ++ "/" ++ last).toList = front.toList ++ '/' :: last.toList := by simp
  obtain ⟨others, hothers⟩ := exists_stepsCut_append front.toList last.toList
  rw [stepsCut_of_notMem hslash] at hothers
  have hsteps : steps (front ++ "/" ++ last) =
      ((stepsCut (front ++ "/" ++ last).toList).1 :: others).map String.ofList ++ [last] := by
    rw [steps_eq, htext, hothers, ← List.cons_append, List.map_append]
    simp
  rw [names_eq_foldl, hsteps, List.foldl_append, List.foldl_cons, List.foldl_nil, advance,
    if_neg (not_or.mpr ⟨hstep.1, hstep.2.1⟩), if_neg hstep.2.2]
  exact ⟨_, rfl⟩

end FileTree

namespace Settings

variable {host other : Host σ}

/-- Wherever the search upwards finds a `.env`, its path ends in that name. -/
theorem exists_dotenvNames_eq {files : FileTree σ} {reversed place : List String}
    (h : dotenvNames? files reversed = some place) : ∃ above, place = above ++ [dotenvName] := by
  have hinside : ∀ reversed, dotenvNames?.inDirectory files reversed = some place →
      ∃ above, place = above ++ [dotenvName] := by
    intro reversed hfound
    rw [dotenvNames?.inDirectory] at hfound
    split at hfound
    · exact ⟨_, (Option.some.inj hfound).symm⟩
    · cases hfound
  induction reversed with
  | nil => exact hinside [] h
  | cons name above ih =>
    rw [dotenvNames?] at h
    split at h
    · next found hfound => exact hinside _ (hfound.trans h)
    · exact ih h

theorem below_of_last {directory name : String} {c : Char} (h : directory.toList.getLast? = some c)
    (hslash : c ≠ '/') : below directory name = directory ++ "/" ++ name := by
  have hsome : directory ≠ "" := by
    rintro rfl
    cases h
  rw [below, if_neg]
  rintro (hempty | hlast)
  · exact hsome hempty
  · exact hslash (Option.some.inj (h.symm.trans hlast))

/-- The user's file is not the file of variables. -/
theorem names_ne_of_defaultPath {place : List String}
    (hplace : dotenvNames? host.files host.directory.reverse = some place) {path : String}
    (hpath : defaultPath? host = some path) : FileTree.names host.directory path ≠ place := by
  obtain ⟨directory, -, rfl⟩ := Option.map_eq_some_iff.mp hpath
  have hlast : (below directory "triton").toList.getLast? = some 'n' := by
    rw [below]
    split_ifs <;> simp
  obtain ⟨above, rfl⟩ := exists_dotenvNames_eq hplace
  obtain ⟨found, hfound⟩ : ∃ found, FileTree.names host.directory
      (below directory "triton" ++ "/" ++ "auth.toml") = found ++ ["auth.toml"] :=
    FileTree.exists_names_append host.directory _ (by decide) (by decide)
  rw [below_of_last hlast (by decide), hfound]
  intro hsame
  have hnames : ["auth.toml"] = [dotenvName] := List.append_inj_right' hsame rfl
  revert hnames
  decide

/-! ### Reports of lines -/

/-- The **changed reports** of two files of variables: what is logged of lines in one place that are
rejected for different reasons. -/
def changedReports (bytes changed : Bytes) : List (LogEvent × LogEvent) :=
  (Dotenv.changedFaults (Dotenv.logicalLines bytes) (Dotenv.logicalLines changed)).map
    (Prod.map dotenvEvent dotenvEvent)

theorem eq_dotenvEvent_of_mem {bytes changed : Bytes} {pair : LogEvent × LogEvent}
    (h : pair ∈ changedReports bytes changed) :
    ∃ fault other, pair = (dotenvEvent fault, dotenvEvent other) := by
  obtain ⟨⟨fault, other⟩, -, rfl⟩ := List.mem_map.mp h
  exact ⟨fault, other, rfl⟩

/-- Reports of lines are all shown, or none is. -/
theorem shows_dotenvEvent (filter : LogFilter) (fault other : Dotenv.Fault) :
    filter.shows (dotenvEvent other) = filter.shows (dotenvEvent fault) := rfl

end Settings

/-- Logs that are **the same but for changed reports**: whenever the file of variables is read, each of
them stands in the place of the other one. -/
def SameButReports (reports : List (LogEvent × LogEvent)) (events others : List LogEvent) : Prop :=
  ∃ readings, Replaced (List.replicate readings reports).flatten events others

namespace SameButReports

variable {bytes changed : Bytes} {reports : List (LogEvent × LogEvent)}
  {events others front otherFront : List LogEvent}

/-- A log has its reports in their places. -/
theorem refl (events : List LogEvent) : SameButReports reports events events :=
  ⟨0, Replaced.refl events⟩

/-- Logs are compared piece by piece. -/
theorem append (hfront : SameButReports reports front otherFront)
    (h : SameButReports reports events others) :
    SameButReports reports (front ++ events) (otherFront ++ others) := by
  obtain ⟨before, hfront⟩ := hfront
  obtain ⟨readings, h⟩ := h
  refine ⟨before + readings, ?_⟩
  rw [List.replicate_add, List.flatten_append]
  exact hfront.append h

/-- With no report that may change, the logs are equal. -/
theorem eq_of_nil (h : SameButReports [] events others) : others = events := by
  obtain ⟨readings, h⟩ := h
  rw [List.flatten_replicate_nil] at h
  exact h.eq_of_nil

/-- What a log shows is the same but for these reports, if they are shown, and the same if not. -/
theorem filter (h : SameButReports (Settings.changedReports bytes changed) events others)
    (filter : LogFilter) : SameButReports (Settings.changedReports bytes changed)
      (events.filter filter.shows) (others.filter filter.shows) := by
  obtain ⟨readings, h⟩ := h
  have hreport : ∀ pair ∈ (List.replicate readings (Settings.changedReports bytes changed)).flatten,
      ∃ fault other, pair = (Settings.dotenvEvent fault, Settings.dotenvEvent other) := by
    intro pair hpair
    obtain ⟨reports, hreports, hmem⟩ := List.mem_flatten.mp hpair
    exact Settings.eq_dotenvEvent_of_mem (List.eq_of_mem_replicate hreports ▸ hmem)
  have hshows : ∀ pair ∈ (List.replicate readings (Settings.changedReports bytes changed)).flatten,
      filter.shows pair.1 = filter.shows (Settings.dotenvEvent .notText) ∧
        filter.shows pair.2 = filter.shows pair.1 := by
    intro pair hpair
    obtain ⟨fault, other, rfl⟩ := hreport pair hpair
    exact ⟨Settings.shows_dotenvEvent filter _ _, Settings.shows_dotenvEvent filter _ _⟩
  have hfilter := h.filter fun pair hpair => (hshows pair hpair).2
  cases hshown : filter.shows (Settings.dotenvEvent .notText) with
  | true =>
    rw [List.filter_eq_self.mpr fun pair hpair => (hshows pair hpair).1.trans hshown] at hfilter
    exact ⟨readings, hfilter⟩
  | false =>
    rw [List.filter_eq_nil_iff.mpr fun pair hpair => by simp [(hshows pair hpair).1, hshown]]
      at hfilter
    exact ⟨0, hfilter⟩

end SameButReports

/-- Stages with the same result, which log the same but for reports. -/
structure Logged.SameButReports (reports : List (LogEvent × LogEvent)) (x y : Logged α) : Prop where
  value : y.value = x.value
  events : RequestSigning.SameButReports reports x.events y.events

namespace Logged.SameButReports

variable {reports : List (LogEvent × LogEvent)} {x y : Logged α}

theorem of_eq (h : y = x) : SameButReports reports x y where
  value := by rw [h]
  events := h ▸ .refl _

/-- Runs in steps are compared step by step, as long as the values stay equal. -/
theorem bind (h : SameButReports reports x y) {f g : α → Logged β}
    (hnext : SameButReports reports (f x.value) (g x.value)) :
    SameButReports reports (x >>= f) (y >>= g) where
  value := by rw [value_bind, value_bind, h.value, hnext.value]
  events := by
    rw [events_bind, events_bind, h.value]
    exact h.events.append hnext.events

end Logged.SameButReports

/-! ### Other values in the file of variables -/

namespace Settings

/-- Hosts with **other values** in the file of variables: they are alike but for that file, and there
unmarked values are other ones. No setting has the names of these values, and the file does not refer
to them. -/
structure OtherValues (names : List String) (place : List String) (bytes changed : Bytes)
    (host other : Host σ) : Prop where
  alike : host.Alike (SameBut place bytes changed) (· = ·) other
  dotenv : dotenvNames? host.files host.directory.reverse = some place
  reworded : Dotenv.Reworded names .complete (Dotenv.textLines bytes) (Dotenv.textLines changed)
  notMem_variables : ∀ own ∈ variableNames, ∀ name ∈ own, name ∉ names
  notMem_references : ∀ name ∈ references host, name ∉ names

namespace OtherValues

variable {names : List String} {place : List String} {bytes changed : Bytes} {host other : Host σ}
  (h : OtherValues names place bytes changed host other)
include h

/-- The `.env` of the one host and of the other give the same entries, and faults that differ at the
changed lines alone. -/
theorem alike_dotenv : Dotenv.File.Alike names
    (Dotenv.changedFaults (Dotenv.logicalLines bytes) (Dotenv.logicalLines changed))
    (Settings.dotenv host) (Settings.dotenv other) := by
  have hreferences := h.notMem_references
  rcases nearestDotenv_cases h.alike.files host.directory.reverse with
    ⟨_, found, otherFound, hnames, hfound, hfile, hother⟩ | ⟨hnames, -⟩
  · obtain rfl := Option.some.inj (h.dotenv.symm.trans hnames)
    rcases hfound with ⟨-, rfl, rfl⟩ | ⟨hno, -⟩
    · rw [references, hfile] at hreferences
      rw [Settings.dotenv, Settings.dotenv, h.alike.directory, h.alike.environment, hfile, hother]
      exact Dotenv.File.alike_read h.reworded hreferences
    · exact absurd rfl hno
  · rw [h.dotenv] at hnames
    cases hnames

/-- Of the variables of these hosts the same settings are made. -/
theorem sameButReports_ofHost :
    Logged.SameButReports (changedReports bytes changed) (ofHost host) (ofHost other) where
  value := by
    rw [value_ofHost, value_ofHost, h.alike.environment]
    refine ofLookup_congr fun own hown name hname => ?_
    rw [h.alike_dotenv.value? (h.notMem_variables own hown name hname)]
  events := by
    refine ⟨1, ?_⟩
    rw [List.replicate_one, List.flatten_singleton, ofHost, ofHost]
    exact h.alike_dotenv.faults.map dotenvEvent

/-- The settings are the same and so is what is logged on the way, but for the reports of the
changed lines. -/
theorem sameButReports_load (overrides : Settings) :
    Logged.SameButReports (changedReports bytes changed) (load host overrides)
      (load other overrides) := by
  have hdefault : ofDefaultFile other = ofDefaultFile host := by
    refine ofDefaultFile_of_alike h.alike fun path hpath found otherFound hfound => ?_
    rcases hfound with ⟨hnames, -⟩ | ⟨-, hsame⟩
    · exact absurd hnames (names_ne_of_defaultPath h.dotenv hpath)
    · exact hsame
  exact (Logged.SameButReports.of_eq hdefault).bind (h.sameButReports_ofHost.bind (.of_eq rfl))

/-- A key is read the same, unless it is in the file of variables and the other values change it. -/
theorem readKey_eq {path : String}
    (hkey : FileTree.names host.directory path = place → parseKey changed = parseKey bytes) :
    readKey other path = readKey host path := by
  have hread := h.alike.read path
  rw [readKey, readKey]
  generalize host.read path = found, other.read path = otherFound at hread ⊢
  cases hread with
  | error cause => rfl
  | ok hbytes =>
    rcases hbytes with ⟨hnames, rfl, rfl⟩ | ⟨-, rfl⟩
    · exact hkey hnames
    · rfl

end OtherValues

end Settings

/-! ### Tasks -/

namespace Command

/-- The paths of **key files** that a task may read. -/
def keyFiles (host : Host σ) (overrides : Settings) : Task → List String
  | .fingerprint file => [file]
  | .agentKeys => []
  | .header _ | .signRaw _ =>
    match (Settings.load host overrides).value with
    | .error _ => []
    | .ok config =>
      match config.keySource with
      | .file path => [path]
      | .agent _ => []

section

variable [ByteStream σ] {host other : Host σ} {names : List String} {place : List String}
  {bytes changed : Bytes} {overrides : Settings}

/-- On hosts with other values a task gives the same, and logs the same but for reports. -/
theorem sameButReports_perform
    (h : Settings.OtherValues names place bytes changed host other) {task : Task}
    (hdate : task ≠ .header none)
    (hdraws : other.draws = host.draws ∨ Drawless host overrides task)
    (hkeys : ∀ path ∈ keyFiles host overrides task,
      FileTree.names host.directory path = place → parseKey changed = parseKey bytes) :
    Logged.SameButReports (Settings.changedReports bytes changed) (perform host overrides task)
      (perform other overrides task) := by
  have hconnect : other.connect = host.connect := funext h.alike.connect_eq
  have hstages : Stages (Logged.SameButReports (Settings.changedReports bytes changed)) host other
      overrides task :=
    { refl := fun _ => .of_eq rfl
      load := fun f g hnext => (h.sameButReports_load overrides).bind hnext
      ofHost := fun f g hnext => h.sameButReports_ofHost.bind hnext
      signDate := by
        rintro date config rfl hload
        cases hsource : config.keySource with
        | agent socket => exact .of_eq (signDate_congr_of_agent hconnect hsource date)
        | file path =>
          have hread := h.readKey_eq (hkeys path (by simp [keyFiles, hload, hsource]))
          have hdrawsAlike := drawsAlike_of_task hdraws rfl hload hsource
          exact .of_eq (signDate_congr_of_key hread hdrawsAlike hsource date)
      signData := by
        rintro data config path rfl hload hsource
        have hread := h.readKey_eq (hkeys path (by simp [keyFiles, hload, hsource]))
        rw [signData_congr hread (drawsAlike_of_task hdraws rfl hload hsource)]
        exact .of_eq rfl
      showKey := by
        rintro file rfl
        rw [showKey, showKey, h.readKey_eq (hkeys file List.mem_cons_self)]
        exact .of_eq rfl
      showAgentKeys := fun socket => by
        simp only [showAgentKeys, hconnect]
        exact .of_eq rfl }
  exact hstages.perform hdate

/-- A run is the same but for its log if its task gives the same. -/
theorem Invocation.run_of_value {invocation : Invocation}
    (henvironment : other.environment = host.environment)
    (hvalue : (perform other invocation.overrides invocation.task).value =
      (perform host invocation.overrides invocation.task).value) :
    invocation.run other = { invocation.run host with log := (invocation.run other).log } := by
  rw [run, run, henvironment, hvalue]
  obtain ⟨outcome | output, client⟩ := (perform host invocation.overrides invocation.task).value <;>
    rfl

/-- **Unrelated values are not seen.** Let a command line give the date if it asks for a header, and
sign with no key that draws random numbers, unless these are the same in two runs. If the hosts of the
two runs have other unmarked values of names in the file of variables, which no setting has and the
file does not refer to, the runs are the same but for their logs: they leave the same exit code, output,
complaints and report, and ask the agent the same. Line by line the logs are the same too, whatever
`--verbose` and the rules of the log show, but for the reports of those lines that have other values
and are rejected for different reasons; without such a line the runs are the same. A key that is in the
file of variables must be the same with these values. -/
theorem unrelated_values_unseen {arguments : List String}
    (hdate : ∀ invocation, Invocation.read arguments = .ok invocation →
      invocation.task ≠ .header none)
    (hdraws : other.draws = host.draws ∨ ∀ invocation, Invocation.read arguments = .ok invocation →
      Drawless host invocation.overrides invocation.task)
    (h : Settings.OtherValues names place bytes changed host other)
    (hkeys : ∀ invocation, Invocation.read arguments = .ok invocation →
      ∀ path ∈ keyFiles host invocation.overrides invocation.task,
        FileTree.names host.directory path = place → parseKey changed = parseKey bytes) :
    run other arguments = { run host arguments with log := (run other arguments).log } ∧
      SameButReports (Settings.changedReports bytes changed) (run host arguments).log
        (run other arguments).log ∧
      (Settings.changedReports bytes changed = [] → run other arguments = run host arguments) := by
  have hruns : run other arguments = { run host arguments with log := (run other arguments).log } ∧
      SameButReports (Settings.changedReports bytes changed) (run host arguments).log
        (run other arguments).log := by
    cases hread : Invocation.read arguments with
    | error stop =>
      -- a command line that is not run logs nothing
      rw [run, run, hread]
      cases stop <;> exact ⟨rfl, .refl []⟩
    | ok invocation =>
      have hperform := sameButReports_perform h (hdate invocation hread)
        (hdraws.imp_right fun hdrawless => hdrawless invocation hread) (hkeys invocation hread)
      rw [run, run, hread]
      dsimp only
      refine ⟨Invocation.run_of_value h.alike.environment hperform.value, ?_⟩
      rw [Invocation.log_run, Invocation.log_run, h.alike.environment]
      exact hperform.events.filter _
  refine ⟨hruns.1, hruns.2, fun hnone => ?_⟩
  have hlogs := hruns.2
  rw [hnone] at hlogs
  rw [hruns.1, hlogs.eq_of_nil]

end

/-! ### Runs with the password of another program -/

/-- The text of a line with a password. -/
def passwordLine (password : String) : List Char :=
  "PASSWORD=".toList ++ (password.toList ++ " # of another program\n".toList)

/-- A file of variables with that line, and with the socket of an agent. -/
def passwordText (password : String) : Bytes :=
  Utf8.encode (String.ofList (passwordLine password) ++ "SSH_AUTH_SOCK=/s\n")

/-- A host with this file, and with that agent. -/
def passwordHost (password : String) : Host MemoryStream :=
  { sampleHost with
    files := ⟨([Settings.dotenvName], .file (passwordText password)) :: sampleHost.files.nodes⟩ }

/-- Passwords of one word, which are read, and of two, which are not. -/
def passwords : List String := ["secret", "hidden", "open sesame", "pass phrase"]

/-- Two hosts whose `.env` files differ and nothing else. -/
theorem alike_passwordHost (password changed : String) :
    (passwordHost password).Alike
      (SameBut [Settings.dotenvName] (passwordText password) (passwordText changed)) (· = ·)
      (passwordHost changed) where
  environment := rfl
  directory := rfl
  userHome := rfl
  files := FileTree.alike_of_nodes
    (.cons ⟨rfl, .file (.inl ⟨rfl, rfl, rfl⟩)⟩ (.cons ⟨rfl, .socket rfl⟩ .nil))

theorem lineLead_password : Dotenv.LineLead "PASSWORD".toList "PASSWORD=".toList := by
  have hname : Dotenv.IsName "PASSWORD".toList :=
    ⟨⟨'P', rfl, rfl⟩, List.all_eq_true.mp (by decide)⟩
  exact ⟨[], _, rfl, List.forall_mem_nil _, @Dotenv.Lead.bare _ [] hname (List.forall_mem_nil _)⟩

/-- Each of these passwords ends at the blank in front of the comment. -/
theorem endsLine_password {password : String} (h : password ∈ passwords) :
    Dotenv.EndsLine password.toList " # of another program\n".toList := by
  have hlast : ∀ password ∈ passwords,
      password.toList.getLast?.all (fun c => !Text.isBlank c) = true := by decide
  refine @Dotenv.EndsLine.comment _ [' '] _ (fun c hc => ?_) (List.forall_mem_singleton.mpr rfl)
    (by decide)
  simpa using (Option.all_eq_true _ _).mp (hlast password h) c hc

/-- The file has the line of the password and the one of the socket. -/
theorem textLines_passwordText {password : String} (h : password ∈ passwords) :
    Dotenv.textLines (passwordText password) =
      [some (passwordLine password), some "SSH_AUTH_SOCK=/s\n".toList] := by
  have hlines : ∀ password ∈ passwords,
      Text.fullLines (passwordLine password ++ "SSH_AUTH_SOCK=/s\n".toList) =
        [passwordLine password, "SSH_AUTH_SOCK=/s\n".toList] := by decide
  have htext : passwordText password = Utf8.encode (String.ofList
      (Text.fullLines (passwordLine password ++ "SSH_AUTH_SOCK=/s\n".toList)).flatten) := by
    rw [Text.flatten_fullLines, String.ofList_append, String.ofList_toList, passwordText]
  rw [htext, Dotenv.textLines_flatten (Text.areLines_fullLines _), hlines password h]
  rfl

/-- There is no reference in the file. -/
theorem references_passwordHost {password : String} (h : password ∈ passwords) :
    Settings.references (passwordHost password) = [] := by
  have hnone : ∀ password ∈ passwords,
      Dotenv.File.referencesFrom sampleHost.environment .empty (Dotenv.joinLines [] .complete
        [some (passwordLine password), some "SSH_AUTH_SOCK=/s\n".toList]) = [] := by decide +kernel
  rw [← hnone password h, ← textLines_passwordText h]
  rfl

section

variable {password changed : String} (hpassword : password ∈ passwords)
  (hchanged : changed ∈ passwords)
  (haccepts : Dotenv.acceptsFirst (Dotenv.logicalLines (passwordText changed)) =
    Dotenv.acceptsFirst (Dotenv.logicalLines (passwordText password)))
include hpassword hchanged haccepts

/-- The one line of `PASSWORD` is reworded and no other. -/
theorem reworded_passwordText : Dotenv.Reworded ["PASSWORD"] .complete
    (Dotenv.textLines (passwordText password)) (Dotenv.textLines (passwordText changed)) := by
  have hunmarked : ∀ password ∈ passwords, Dotenv.Unmarked password.toList := by decide
  have hafter : ∀ password ∈ passwords,
      Dotenv.Scan.complete.afterLine (some (passwordLine password)) = .complete := by decide +kernel
  simp only [Dotenv.logicalLines_eq, textLines_passwordText hpassword,
    textLines_passwordText hchanged] at haccepts ⊢
  exact .value (by decide) lineLead_password (hunmarked password hpassword)
    (hunmarked changed hchanged) (endsLine_password hpassword) (endsLine_password hchanged)
    (.inr ⟨by decide, (hafter changed hchanged).trans (hafter password hpassword).symm⟩) haccepts
    (.same .nil)

theorem otherValues_passwordHost :
    Settings.OtherValues ["PASSWORD"] [Settings.dotenvName] (passwordText password)
      (passwordText changed) (passwordHost password) (passwordHost changed) where
  alike := alike_passwordHost password changed
  dotenv := rfl
  reworded := reworded_passwordText hpassword hchanged haccepts
  notMem_variables := by decide
  notMem_references := by
    rw [references_passwordHost hpassword]
    exact List.forall_mem_nil _

end

/-- The keys of the agent, with a log of what is done. -/
def agentKeysArguments : List String := ["agent-keys", "-v"]

/-- Another program's password is changed for another that reads as well, and the runs are equal. -/
theorem unrelated_values_unseen_password :
    passwordText "hidden" ≠ passwordText "secret" ∧
      (run (passwordHost "secret") agentKeysArguments).exit = 0 ∧
      run (passwordHost "hidden") agentKeysArguments =
        run (passwordHost "secret") agentKeysArguments := by
  have hread : Invocation.read agentKeysArguments =
      .ok ⟨Settings.empty, true, .agentKeys⟩ := by decide +kernel
  have htask : ∀ invocation, Invocation.read agentKeysArguments = .ok invocation →
      invocation.task ≠ .header none ∧
        keyFiles (passwordHost "secret") invocation.overrides invocation.task = [] := by
    intro invocation hinvocation
    obtain rfl := Except.ok.inj (hread.symm.trans hinvocation)
    exact ⟨nofun, rfl⟩
  have haccepted : ∀ password ∈ ["secret", "hidden"],
      Dotenv.acceptsFirst (Dotenv.logicalLines (passwordText password)) = true := by decide +kernel
  have hvalues : Settings.OtherValues ["PASSWORD"] [Settings.dotenvName] (passwordText "secret")
      (passwordText "hidden") (passwordHost "secret") (passwordHost "hidden") :=
    otherValues_passwordHost (by decide) (by decide) (by simp [haccepted])
  have hdraws : (passwordHost "hidden").draws = (passwordHost "secret").draws := rfl
  obtain ⟨-, -, hsame⟩ := unrelated_values_unseen
    (fun invocation hinvocation => (htask invocation hinvocation).1) (.inl hdraws) hvalues
    (fun invocation hinvocation => by
      rw [(htask invocation hinvocation).2]
      exact List.forall_mem_nil _)
  exact ⟨by decide +kernel, by decide +kernel, hsame (by decide +kernel)⟩

/-- A password of two words is told in the report of its line. -/
theorem rejected_values_logged :
    Settings.OtherValues ["PASSWORD"] [Settings.dotenvName] (passwordText "open sesame")
        (passwordText "pass phrase") (passwordHost "open sesame") (passwordHost "pass phrase") ∧
      (run (passwordHost "open sesame") agentKeysArguments).log.head?.map LogEvent.line =
        some ("DEBUG triton_auth::config: skipping unreadable .env entry " ++
          "error=Error parsing line: 'open sesame', error at line index: 5") ∧
      (run (passwordHost "pass phrase") agentKeysArguments).log.head?.map LogEvent.line =
        some ("DEBUG triton_auth::config: skipping unreadable .env entry " ++
          "error=Error parsing line: 'pass phrase', error at line index: 5") := by
  refine ⟨?_, by decide +kernel, by decide +kernel⟩
  exact otherValues_passwordHost (by decide) (by decide) (by decide +kernel)

end Command

end RequestSigning
