import RequestSigning.Error

/-!
# Settings

A layer of settings may leave each of its five fields open. Layers are merged field by field,
an earlier layer winning; what the merged layer says is resolved to a configuration, which
names the account, the key, and where the key is.

Merging is associative with the empty layer for its unit, so it does not matter in which groups
layers are merged. An account and a key have to be known in the end; a user need not be, and without
key material the key is an agent's.
-/

namespace RequestSigning

/-- A **layer** of settings. -/
structure Settings where
  account : Option String
  user : Option String
  keyId : Option String
  /-- Path of a file with a private key. -/
  keyMaterial : Option String
  /-- Path of the socket that an agent listens at. -/
  agentSocket : Option String
  deriving DecidableEq, Repr

/-- Where the private key is: in a file, or with an agent at a socket, if one is known. -/
inductive KeySource
  | file (path : String)
  | agent (socket : Option String)
  deriving DecidableEq, Repr

/-- A **configuration**: who signs, with which key, and where that is. -/
structure Config where
  account : String
  user : Option String
  keyId : String
  keySource : KeySource
  deriving DecidableEq, Repr

namespace Settings

/-- The layer that sets nothing. -/
def empty : Settings := ⟨none, none, none, none, none⟩

/-- The fields of a layer, and where it leaves one open that of another layer. -/
def or (first second : Settings) : Settings where
  account := first.account.or second.account
  user := first.user.or second.user
  keyId := first.keyId.or second.keyId
  keyMaterial := first.keyMaterial.or second.keyMaterial
  agentSocket := first.agentSocket.or second.agentSocket

/-- Where the key is. A file is preferred to an agent, in whichever layer it is named. -/
def keySource (settings : Settings) : KeySource :=
  match settings.keyMaterial with
  | some path => .file path
  | none => .agent settings.agentSocket

/-- The configuration that settings describe. -/
def resolve (settings : Settings) : Except ConfigFault Config :=
  match settings.account, settings.keyId with
  | none, _ => .error .accountMissing
  | some _, none => .error .keyIdMissing
  | some account, some keyId => .ok ⟨account, settings.user, keyId, settings.keySource⟩

end Settings

end RequestSigning
