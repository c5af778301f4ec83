import RequestSigning.Environment
import RequestSigning.FileTree
import RequestSigning.Http.Date

/-!
# What a process finds around it

Everything outside a process that settings, signers and commands depend on.

A host is given as a value: files, the variables, the time, the draws of random numbers, and a
stream for each socket. So two runs can be compared by changing one of these, and the type of the
streams is left open for proofs to choose.
-/

namespace RequestSigning

/-- The **host** of a process. -/
structure Host (σ : Type) where
  environment : Environment
  files : FileTree σ
  /-- The names from the root to the working directory. -/
  directory : List String
  /-- The user's home directory in the system's records, for a process that is not told one. -/
  userHome : Option String
  now : Timestamp
  /-- Random numbers, by how many were drawn before. -/
  draws : Nat → Nat

namespace Host

variable {σ : Type}

/-- The bytes of a file. -/
def read (host : Host σ) (path : String) : Except IoFault Bytes :=
  host.files.read host.directory path

/-- A connection to a socket. -/
def connect (host : Host σ) (path : String) : Except IoFault σ :=
  host.files.connect host.directory path

end Host

end RequestSigning
