import MessageTunnel.Log
import MessageTunnel.Storage.FileSystem
import MessageTunnel.Trace.Event
/-!
The writer of one trace file. It gathers what it is given in a buffer and writes when the buffer is
full. A failed write or a close ends it: it then has no output any more and nothing it is given
reaches the file.
-/
set_option autoImplicit false

namespace MessageTunnel.Trace

/-- An open file with what is still to be written to it. -/
structure Output where
  handle : Handle
  buffer : Bytes
  deriving DecidableEq, Repr

def bufferSize : Nat := 8192

namespace Output

def flush (o : Output) (fs : FileSystem) : Except IoError Unit × Output × FileSystem :=
  let (result, handle, fs) := fs.write o.handle o.buffer
  (result, ⟨handle, o.buffer.drop (handle.position - o.handle.position)⟩, fs)

/-- Takes one piece: into the buffer, if it then fits, or straight to the file, if it is as long as
a whole buffer. -/
def push (o : Output) (fs : FileSystem) (piece : Bytes) :
    Except IoError Unit × Output × FileSystem :=
  let (flushed, o, fs) :=
    if bufferSize < o.buffer.length + piece.length then o.flush fs else (.ok (), o, fs)
  match flushed with
  | .error e => (.error e, o, fs)
  | .ok () =>
    if piece.length < bufferSize then (.ok (), { o with buffer := o.buffer ++ piece }, fs)
    else
      let (result, handle, fs) := fs.write o.handle piece
      (result, { o with handle := handle }, fs)

def pushAll (o : Output) (fs : FileSystem) : List Bytes → Except IoError Unit × Output × FileSystem
  | [] => (.ok (), o, fs)
  | piece :: rest =>
    match o.push fs piece with
    | (.ok (), o, fs) => o.pushAll fs rest
    | failed => failed

/-- Gives the file up after one more try to write what is left. -/
def drop (o : Output) (fs : FileSystem) : FileSystem := (o.flush fs).2.2

end Output

structure Writer where
  path : String
  fileName : String
  created : Nat
  output : Option Output
  deriving DecidableEq, Repr

namespace Writer

def append (w : Writer) (fs : FileSystem) (entry : Json) : List Log.Entry × Writer × FileSystem :=
  match w.output with
  | none => ([], w, fs)
  | some o =>
    match o.pushAll fs (pieces entry) with
    | (.ok (), o, fs) => ([], { w with output := some o }, fs)
    | (.error e, o, fs) => ([.traceWriteFailed w.path e], { w with output := none }, o.drop fs)

def create (fs : FileSystem) (dir : String) (vantage : Vantage) (id : ConnectionId) (now : Nat) :
    Except (String × IoError) (List Log.Entry × Writer × FileSystem) :=
  let fileName := id.hex ++ ".qlog"
  let path := Path.join dir fileName
  match fs.create path with
  | .error e => .error (path, e)
  | .ok (handle, fs) =>
    .ok (append ⟨path, fileName, now, some ⟨handle, []⟩⟩ fs (header vantage id))

def record (w : Writer) (fs : FileSystem) (now : Nat) (event : TraceEvent) :
    List Log.Entry × Writer × FileSystem :=
  w.append fs (Trace.record (now - w.created) event)

def close (w : Writer) (fs : FileSystem) : List Log.Entry × Writer × FileSystem :=
  match w.output with
  | none => ([], w, fs)
  | some o =>
    match o.flush fs with
    | (.ok (), _, fs) => ([], { w with output := none }, fs)
    | (.error e, o, fs) => ([.traceFlushFailed w.path e], { w with output := none }, o.drop fs)

def abandon (w : Writer) (fs : FileSystem) : Writer × FileSystem :=
  match w.output with
  | none => (w, fs)
  | some o => ({ w with output := none }, o.drop fs)

end Writer

end MessageTunnel.Trace
