/-!
# Failures of the operating system

What can go wrong with a file or a stream, and the words for it.

The words are the runtime's own, numbers included, since they appear in errors and in the log. A
fault is kept with what the system said of it, and what it is about, a path or a socket, is added by
whoever reports it.
-/

namespace RequestSigning

/-- A **failure** of an operation on a file or a stream. -/
inductive IoFault
  | notFound
  | notDirectory
  | isDirectory
  | connectionRefused
  | brokenPipe
  /-- The other end of a stream was closed with bytes on it that nobody had read. -/
  | connectionReset
  /-- A path, or a name in it, is longer than the system allows. -/
  | nameTooLong
  /-- A file that cannot be opened for reading, such as a socket. -/
  | noDevice
  | invalidArgument
  /-- A null character in the path of a file. -/
  | pathHasNul
  /-- A null character in the path of a socket. -/
  | socketPathHasNul
  | socketPathTooLong
  /-- The stream ended before all that was asked for had been read. -/
  | endOfStream
  /-- The bytes of a file are no text. -/
  | notUtf8
  /-- Any other failure, by its words. -/
  | described (text : String)
  deriving DecidableEq, Repr

/-- The words for a failure. -/
def IoFault.message : IoFault → String
  | .notFound => "No such file or directory (os error 2)"
  | .notDirectory => "Not a directory (os error 20)"
  | .isDirectory => "Is a directory (os error 21)"
  | .connectionRefused => "Connection refused (os error 111)"
  | .brokenPipe => "Broken pipe (os error 32)"
  | .connectionReset => "Connection reset by peer (os error 104)"
  | .nameTooLong => "File name too long (os error 36)"
  | .noDevice => "No such device or address (os error 6)"
  | .invalidArgument => "Invalid argument (os error 22)"
  | .pathHasNul => "file name contained an unexpected NUL byte"
  | .socketPathHasNul => "paths must not contain interior null bytes"
  | .socketPathTooLong => "path must be shorter than SUN_LEN"
  | .endOfStream => "failed to fill whole buffer"
  | .notUtf8 => "stream did not contain valid UTF-8"
  | .described text => text

end RequestSigning
