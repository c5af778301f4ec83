import RequestSigning.Bytes
import RequestSigning.IoFault

/-!
# Trees of files

The files, directories and sockets that a path can lead to. A node is kept under the names on
the way to it from the root; every directory on the way to a node is there too. A path is
followed step by step: each step starts from a directory, `.` and the empty step stay in it,
and `..` leads to the directory above.
-/

namespace RequestSigning

/-- What stands at the end of a path. A socket holds the connection that a caller gets. -/
inductive FileNode (σ : Type)
  | file (bytes : Bytes)
  | directory
  | socket (connection : σ)

/-- A **file tree**: nodes under the names that lead to them. -/
structure FileTree (σ : Type) where
  nodes : List (List String × FileNode σ)

namespace FileTree

variable {σ : Type}

/-- The node under some names, if there is one. -/
def node? (tree : FileTree σ) (names : List String) : Option (FileNode σ) :=
  match tree.nodes.find? fun entry => entry.1 = names with
  | some entry => some entry.2
  | none =>
    if names = [] ∨ tree.nodes.any fun entry => names.isPrefixOf entry.1 then some .directory
    else none

/-- The steps of a path, the first of which is empty in an absolute path. -/
def steps (path : String) : List String :=
  let cut := path.toList.foldr
    (fun c (cut : List Char × List (List Char)) =>
      if c = '/' then ([], cut.1 :: cut.2) else (c :: cut.1, cut.2))
    ([], [])
  (cut.1 :: cut.2).map String.ofList

/-- The names that a path leads to from a working directory where every step goes through a
directory. -/
def names (directory : List String) (path : String) : List String :=
  let start := if path.toList.head? = some '/' then [] else directory
  (steps path).foldl
    (fun names step =>
      if step = "" ∨ step = "." then names
      else if step = ".." then names.dropLast
      else names ++ [step])
    start

/-- The names of all directories from the root to a node, and of the node. -/
def lineage (names : List String) : List (List String) :=
  (List.range (names.length + 1)).map names.take

/-- Bytes in the longest name. -/
def nameLimit : Nat := 255

/-- Bytes in the longest path. -/
def pathLimit : Nat := 4095

/-- Follows steps from the node under some names. -/
def follow (tree : FileTree σ) : List String → List String → Except IoFault (FileNode σ)
  | names, [] =>
    match tree.node? names with
    | some node => .ok node
    | none => .error .notFound
  | names, step :: rest =>
    match tree.node? names with
    | none => .error .notFound
    | some .directory =>
      if step = "" ∨ step = "." then follow tree names rest
      else if step = ".." then follow tree names.dropLast rest
      else if nameLimit < step.utf8ByteSize then .error .nameTooLong
      else follow tree (names ++ [step]) rest
    | some _ => .error .notDirectory

/-- The node that a path leads to from a working directory. -/
def locate (tree : FileTree σ) (directory : List String) (path : String) :
    Except IoFault (FileNode σ) :=
  if path = "" then .error .notFound
  else if pathLimit < path.utf8ByteSize then .error .nameTooLong
  else
    match steps path with
    | "" :: rest => follow tree [] rest
    | steps => follow tree directory steps

/-- Whether a path leads anywhere. -/
def contains (tree : FileTree σ) (directory : List String) (path : String) : Bool :=
  match tree.locate directory path with
  | .ok _ => true
  | .error _ => false

/-- The bytes of the file that a path leads to. -/
def read (tree : FileTree σ) (directory : List String) (path : String) :
    Except IoFault Bytes :=
  if path.toList.contains '\x00' then .error .pathHasNul
  else
    match tree.locate directory path with
    | .error fault => .error fault
    | .ok (.file bytes) => .ok bytes
    | .ok .directory => .error .isDirectory
    | .ok (.socket _) => .error .noDevice

/-- Bytes in the longest path of a socket, and one more. -/
def socketPathLimit : Nat := 108

/-- A connection to the socket that a path leads to. Nothing listens at other nodes. -/
def connect (tree : FileTree σ) (directory : List String) (path : String) :
    Except IoFault σ :=
  if path.toList.contains '\x00' then .error .socketPathHasNul
  else if socketPathLimit ≤ path.utf8ByteSize then .error .socketPathTooLong
  else if path = "" then .error .invalidArgument
  else
    match tree.locate directory path with
    | .error fault => .error fault
    | .ok (.socket connection) => .ok connection
    | .ok _ => .error .connectionRefused

end FileTree

end RequestSigning
