/-!
# TOML documents as trees

What a document says, as far as it matters to a reader of text settings: a table of names, each
with a text, another table, a list of tables, or some other value. Tables remember how they came
about, since only some of them may be added to later.

Assigning fails where the name is taken, so a document that was read gives no name two values.
Whether a table was written in brackets, by a dotted name or in a line of its own decides if a later
header may add to it.
-/

namespace RequestSigning.Toml

/-- A **node** of a document. -/
inductive Node
  | text (value : String)
  /-- A value that is no text, and that nothing can be added to. -/
  | closed
  /-- A table. It is `implied` while only names below it have been given, and `dotted` if those
  were dotted names. -/
  | table (implied dotted : Bool) (entries : List (String × Node))
  /-- The tables of one name in double brackets, the latest first. -/
  | tables (elements : List (List (String × Node)))

/-- The names of a table with their nodes, the latest first. -/
abbrev Entries := List (String × Node)

/-- A table that names are added to. -/
structure Table where
  implied : Bool
  dotted : Bool
  entries : Entries

/-- The table of a whole document or below a header, without entries. -/
def Table.empty : Table := ⟨false, false, []⟩

/-- The node of a table. -/
def Table.node (table : Table) : Node :=
  .table table.implied table.dotted table.entries

/-- The node of a name. -/
def Entries.get? (entries : Entries) (name : String) : Option Node :=
  (entries.find? fun entry => entry.1 = name).map Prod.snd

/-- The entries with a node for a name, in the place of the one it has. -/
def Entries.put (entries : Entries) (name : String) (node : Node) : Entries :=
  (name, node) :: entries.filter fun entry => entry.1 ≠ name

/-- Changes the table at the end of a path of names. Names on the way that are new become
tables. A name with a value on the way is refused, and for a path of a dotted name also one
whose table is not implied; of a list of tables the latest is meant. -/
def Table.modify? (dotted : Bool) (change : Table → Option Table) :
    List String → Table → Option Table
  | [], table => change table
  | name :: path, table =>
    match Entries.get? table.entries name with
    | none => do
      let inner ← modify? dotted change path ⟨true, dotted, []⟩
      some { table with entries := Entries.put table.entries name inner.node }
    | some (.table implied innerDotted entries) =>
      if dotted ∧ ¬ implied then none
      else do
        let inner ← modify? dotted change path ⟨implied, innerDotted, entries⟩
        some { table with entries := Entries.put table.entries name inner.node }
    | some (.tables (latest :: earlier)) => do
      let inner ← modify? dotted change path ⟨false, false, latest⟩
      some
        { table with
          entries := Entries.put table.entries name (.tables (inner.entries :: earlier)) }
    | some _ => none

/-- The table with a new name for a node; `direct` says that the name was not dotted. A name that
is there already is refused, and so is a name in a table of the other kind. -/
def Table.insert? (direct : Bool) (name : String) (node : Node) (table : Table) : Option Table :=
  if table.dotted = direct then none
  else
    match Entries.get? table.entries name with
    | none => some { table with entries := Entries.put table.entries name node }
    | some _ => none

/-- The table with a node for a dotted name, the last part of which is given by itself. -/
def Table.assign? (path : List String) (name : String) (node : Node) (table : Table) :
    Option Table :=
  table.modify? true (Table.insert? path.isEmpty name node) path

/-! ### Documents -/

/-- A **document** while it is read: the table of the whole, and the table under way, which is
put into the whole when the next header comes. -/
structure Document where
  root : Table
  current : Table
  /-- The names of the header of the table under way; none before the first header. -/
  path : List String
  /-- Whether that header has double brackets. -/
  listed : Bool

/-- The document without lines. -/
def Document.empty : Document := ⟨.empty, .empty, [], false⟩

/-- The table of the whole with the table under way in its place. -/
def Document.close? (document : Document) : Option Table :=
  match document.path.getLast? with
  | none => some document.current
  | some name =>
    document.root.modify? false
      (fun parent =>
        match Entries.get? parent.entries name, document.listed with
        | none, false =>
          some { parent with entries := Entries.put parent.entries name document.current.node }
        | none, true =>
          some
            { parent with
              entries := Entries.put parent.entries name (.tables [document.current.entries]) }
        | some (.tables elements), true =>
          some
            { parent with
              entries :=
                Entries.put parent.entries name (.tables (document.current.entries :: elements)) }
        | _, _ => none)
      document.path.dropLast

/-- Starts the table of a header. A header may take over a table that is implied by the names
of other headers, and no other. -/
def Document.openTable? (document : Document) (path : List String) : Option Document := do
  let root ← document.close?
  let name ← path.getLast?
  let inherited ← lookup? root path.dropLast name
  let root ← root.modify? false
    (fun parent => some { parent with entries := parent.entries.filter fun e => e.1 ≠ name })
    path.dropLast
  some ⟨root, ⟨false, false, inherited⟩, path, false⟩
where
  /-- The entries of the implied table that a header takes over, if it may stand there. -/
  lookup? (table : Table) : List String → String → Option Entries
    | [], name =>
      match Entries.get? table.entries name with
      | none => some []
      | some (.table true false entries) => some entries
      | some _ => none
    | step :: path, name =>
      match Entries.get? table.entries step with
      | none => some []
      | some (.table implied dotted entries) => lookup? ⟨implied, dotted, entries⟩ path name
      | some (.tables (latest :: _)) => lookup? ⟨false, false, latest⟩ path name
      | some _ => none

/-- Starts one more table of a header with double brackets. -/
def Document.openListed? (document : Document) (path : List String) : Option Document := do
  let root ← document.close?
  let name ← path.getLast?
  let root ← root.modify? false
    (fun parent =>
      match Entries.get? parent.entries name with
      | none => some { parent with entries := Entries.put parent.entries name (.tables []) }
      | some (.tables _) => some parent
      | some _ => none)
    path.dropLast
  some ⟨root, .empty, path, true⟩

/-- Gives a dotted name a node in the table under way. -/
def Document.assign? (document : Document) (path : List String) (name : String) (node : Node) :
    Option Document := do
  let current ← document.current.assign? path name node
  some { document with current := current }

end RequestSigning.Toml
