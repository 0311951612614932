/-!
# Faults

What can go wrong while bytes are read: the replay of a stream is spent, content
does not decode, a file cannot be read.  A fault that another party reports is
carried along as `foreign`.
-/

namespace Discern

/-- **The kinds of faults** that callers tell apart. -/
inductive FaultKind where
  | other
  | unexpectedEnd
  | invalidData
  | invalidInput
  | brokenPipe
  | notConnected
  | notFound
  | isDirectory
  | notDirectory
deriving DecidableEq, Inhabited

/-- The name of a kind. -/
def FaultKind.name : FaultKind → String
  | other => "Other"
  | unexpectedEnd => "UnexpectedEof"
  | invalidData => "InvalidData"
  | invalidInput => "InvalidInput"
  | brokenPipe => "BrokenPipe"
  | notConnected => "NotConnected"
  | notFound => "NotFound"
  | isDirectory => "IsADirectory"
  | notDirectory => "NotADirectory"

/-- **A fault while bytes are read.** -/
inductive Fault where
  /-- More was read than can be replayed. -/
  | limitExceeded
  /-- A source ends before its reported length. -/
  | sourceTooShort
  /-- Text that is no base64. -/
  | badBase64
  /-- Data that is no gzip, or a sum that does not agree. -/
  | badGzip
  /-- Gzip data that ends too early. -/
  | gzipCutShort
  /-- There is no such file. -/
  | absent
  /-- A directory stands where a file is wanted. -/
  | directory
  /-- A file stands where a directory is wanted. -/
  | noDirectory
  /-- A file that is wanted as text is not UTF-8. -/
  | notText
  /-- A fault that was reported from outside. -/
  | foreign (kind : FaultKind) (message : String)
deriving DecidableEq, Inhabited

namespace Fault

def kind : Fault → FaultKind
  | limitExceeded => .other
  | sourceTooShort => .unexpectedEnd
  | badBase64 => .invalidData
  | badGzip => .invalidInput
  | gzipCutShort => .unexpectedEnd
  | absent => .notFound
  | directory => .isDirectory
  | noDirectory => .notDirectory
  | notText => .invalidData
  | foreign kind _ => kind

def message : Fault → String
  | limitExceeded => "read limit exceeded, stream can no longer be reset"
  | sourceTooShort => "source shorter than its reported length"
  | badBase64 => "invalid base64 text"
  | badGzip => "corrupt gzip stream"
  | gzipCutShort => "unexpected end of file"
  | absent => "No such file or directory (os error 2)"
  | directory => "Is a directory (os error 21)"
  | noDirectory => "Not a directory (os error 20)"
  | notText => "stream did not contain valid UTF-8"
  | foreign _ message => message

end Fault

end Discern
