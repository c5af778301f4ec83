import RequestSigning.Command.Run
import Std.Time.DateTime.Timestamp

/-!
# The program

Gathers what a run looks at, runs the command, and prints what it leaves. Connections to
sockets are beyond the runtime, so every agent is found to have hung up.

Nothing is decided here. The files, the variables, the time and the random numbers are gathered into
a host, the command is run on it as a function, and its record is printed; all that is proved about
the command is about that function.
-/

namespace RequestSigning.Program

open Agent

/-- A connection that was closed at the other end. -/
def closedConnection : MemoryStream :=
  { incoming := []
    written := []
    room := some 0
    writeFault := .brokenPipe
    flushFault := none }

/-- The path of some names from the root. -/
def pathOf (names : List String) : String :=
  String.join (names.map fun name => "/" ++ name)

/-- Names and values as the system keeps them for a process: `name=value`, each ended by a null
byte. -/
def environmentOf (bytes : Bytes) : Environment :=
  let cut := bytes.foldr
    (fun b (cut : Bytes × List Bytes) =>
      if b = 0 then ([], cut.1 :: cut.2) else (b :: cut.1, cut.2))
    ([], [])
  ⟨(cut.1 :: cut.2).filterMap fun entry =>
    let name := entry.takeWhile (· ≠ 61)
    (Utf8.decode? name).map fun text => (text, entry.drop (name.length + 1))⟩

/-- The node that the system has under some names. -/
def node? (names : List String) : IO (Option (FileNode MemoryStream)) := do
  let here ← IO.currentDir
  let path := here / pathOf names
  try
    match (← path.metadata).type with
    | .dir => return some .directory
    | .file => return some (.file (← IO.FS.readBinFile path).toList)
    | _ => return some (.socket closedConnection)
  catch _ => return none

/-- The nodes on the way to a path. -/
def nodesFor (directory : List String) (path : String) :
    IO (List (List String × FileNode MemoryStream)) := do
  let mut nodes := []
  for names in FileTree.lineage (FileTree.names directory path) do
    match ← node? names with
    | some node => nodes := (names, node) :: nodes
    | none => pure ()
  return nodes

/-- The tree with the nodes on the way to some paths. -/
def extended (tree : FileTree MemoryStream) (directory : List String) (paths : List String) :
    IO (FileTree MemoryStream) := do
  let mut nodes := tree.nodes
  for path in paths do
    nodes := nodes ++ (← nodesFor directory path)
  return ⟨nodes⟩

/-- The time it is. -/
def currentTime : IO Timestamp := do
  let t := (← Std.Time.Timestamp.now).val
  match Timestamp.of? t.second.val t.nano.val.toNat with
  | some time => return time
  | none => throw (IO.userError "the time is out of range")

/-- A random number wide enough for every curve. -/
def randomNumber : IO Nat := do
  return Bytes.toNat (← IO.getRandomBytes 80).toList

/-- The host of this process, without files. -/
def currentHost : IO (Host MemoryStream) := do
  let environment := environmentOf (← IO.FS.readBinFile "/proc/self/environ").toList
  let directory := FileTree.names [] (← IO.currentDir).toString
  let now ← currentTime
  let first ← randomNumber
  let second ← randomNumber
  return {
    environment := environment
    files := ⟨[]⟩
    directory := directory
    userHome := none
    now := now
    draws := fun i => if i = 0 then first else second }

/-- The host with the files that a command line needs. -/
def hostFor (arguments : List String) : IO (Host MemoryStream) := do
  let host ← currentHost
  match Command.Invocation.read arguments with
  | .error _ => return host
  | .ok invocation =>
    let files ← extended host.files host.directory (Command.settingsPaths host)
    let host := { host with files := files }
    let files ← extended host.files host.directory (Command.keyPaths host invocation)
    return { host with files := files }

end RequestSigning.Program

open RequestSigning in
def main (arguments : List String) : IO UInt32 := do
  let host ← Program.hostFor arguments
  let record := Command.run host arguments
  for complaint in record.complaints do
    IO.eprintln complaint
  for event in record.log do
    IO.eprintln (logTime host.now ++ " " ++ event.line)
  IO.eprint record.report
  IO.print record.output
  return UInt32.ofNat record.exit
