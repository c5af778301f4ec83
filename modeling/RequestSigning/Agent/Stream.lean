import RequestSigning.Bytes
import RequestSigning.IoFault

/-!
# Streams to an agent

What a client needs of a connection, and a connection that is a plain value: its incoming bytes are
all there from the start, and it says when writing and flushing fail.

A stream is a state, and each operation gives the next one, also when it fails. What was written can
be seen in the state afterwards, so a statement about the traffic is one about two states. Reading
waits for as many bytes as are asked for, and fails if the stream ends before that.
-/

namespace RequestSigning.Agent

/-- A **byte stream**: bytes are written and flushed, and exactly as many bytes as asked for are
read. Each operation leaves a new state of the stream. -/
class ByteStream (σ : Type) where
  write : σ → Bytes → Except IoFault Unit × σ
  flush : σ → Except IoFault Unit × σ
  read : σ → Nat → Except IoFault Bytes × σ

/-- As many bytes of the incoming ones as asked for, and those behind them. If there are too few
they are used up. -/
def takeExactly (n : Nat) (incoming : Bytes) : Except IoFault Bytes × Bytes :=
  let taken := incoming.take n
  if taken.length = n then (.ok taken, incoming.drop n) else (.error .endOfStream, [])

/-! ### Streams in memory -/

/-- A **stream in memory**. -/
structure MemoryStream where
  /-- The bytes not yet read. -/
  incoming : Bytes
  /-- The bytes written so far. -/
  written : Bytes
  /-- How many more bytes can be written, if there is a limit. -/
  room : Option Nat
  /-- Why writing fails once there is no more room. -/
  writeFault : IoFault
  /-- Why flushing fails, if it does. -/
  flushFault : Option IoFault
  deriving DecidableEq

namespace MemoryStream

/-- Writes as many of the bytes as there is room for. -/
def write (stream : MemoryStream) (bytes : Bytes) : Except IoFault Unit × MemoryStream :=
  match stream.room with
  | none => (.ok (), { stream with written := stream.written ++ bytes })
  | some room =>
    if bytes.length ≤ room then
      (.ok (),
        { stream with
          written := stream.written ++ bytes
          room := some (room - bytes.length) })
    else
      (.error stream.writeFault,
        { stream with
          written := stream.written ++ bytes.take room
          room := some 0 })

/-- Flushes what was written. -/
def flush (stream : MemoryStream) : Except IoFault Unit × MemoryStream :=
  match stream.flushFault with
  | none => (.ok (), stream)
  | some fault => (.error fault, stream)

/-- Reads exactly `n` bytes. -/
def read (stream : MemoryStream) (n : Nat) : Except IoFault Bytes × MemoryStream :=
  let (answer, rest) := takeExactly n stream.incoming
  (answer, { stream with incoming := rest })

instance : ByteStream MemoryStream := ⟨write, flush, read⟩

end MemoryStream

end RequestSigning.Agent
