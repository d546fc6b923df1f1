import MessageTunnel.Trace.Writer
/-!
The writers of all connections. The first reference to a connection creates its trace file and
announces the file's name; as long as the connection is not released every further reference leads
to the same writer. Without a directory the registry does nothing.
-/
set_option autoImplicit false

namespace MessageTunnel.Trace

inductive RegistryError where
  | createDirectory (path : String) (cause : IoError)
  | createFile (path : String) (cause : IoError)
  deriving DecidableEq, Repr

def RegistryError.message : RegistryError → String
  | createDirectory path cause =>
    "failed to create diagnostics directory " ++ path ++ ": " ++ cause.message
  | createFile path cause => "failed to create diagnostics file " ++ path ++ ": " ++ cause.message

inductive Notice where
  | announced (fileName : String)
  | logged (entry : Log.Entry)
  deriving DecidableEq, Repr

/-- Every writer that was ever created has a number; the live ones can be found by connection. -/
structure Registry where
  dir : Option String
  vantage : Vantage
  files : FileSystem
  writers : List Writer
  live : List (ConnectionId × Nat)

namespace Registry

/-- An empty directory is none. -/
def new (dir : Option String) (vantage : Vantage) (files : FileSystem) : Registry :=
  ⟨dir.filter fun d => !d.isEmpty, vantage, files, [], []⟩

def isEnabled (r : Registry) : Bool := r.dir.isSome

def writer? (r : Registry) (number : Nat) : Option Writer := r.writers[number]?

def store (r : Registry) (number : Nat) :
    List Log.Entry × Writer × FileSystem → List Notice × Registry
  | (entries, w, fs) =>
    (entries.map .logged, { r with writers := r.writers.set number w, files := fs })

/-- The number of the writer for a connection; none if the registry is not enabled. -/
def writerFor (r : Registry) (id : ConnectionId) (now : Nat) :
    Except RegistryError (Option Nat) × List Notice × Registry :=
  match r.dir, r.live.lookup id with
  | none, _ => (.ok none, [], r)
  | some _, some number => (.ok (some number), [], r)
  | some dir, none =>
    match r.files.ensureDirectory dir with
    | (fs, .error e) => (.error (.createDirectory dir e), [], { r with files := fs })
    | (fs, .ok ()) =>
      match Writer.create fs dir r.vantage id now with
      | .error (path, e) => (.error (.createFile path e), [], { r with files := fs })
      | .ok (entries, w, fs) =>
        let number := r.writers.length
        (.ok (some number),
          entries.map .logged ++ [.logged (.traceCreated w.path), .announced w.fileName],
          { r with files := fs, writers := r.writers ++ [w], live := (id, number) :: r.live })

def record (r : Registry) (number : Nat) (now : Nat) (event : TraceEvent) :
    List Notice × Registry :=
  match r.writer? number with
  | none => ([], r)
  | some w => r.store number (w.record r.files now event)

def close (r : Registry) (number : Nat) : List Notice × Registry :=
  match r.writer? number with
  | none => ([], r)
  | some w => r.store number (w.close r.files)

def release (r : Registry) (id : ConnectionId) : List Notice × Registry :=
  match r.live.lookup id with
  | none => ([], r)
  | some number => { r with live := r.live.filter fun e => e.1 ≠ id }.close number

def abandon (r : Registry) : Registry :=
  let (writers, files) := r.writers.foldl (fun (done, fs) w =>
    let (w, fs) := w.abandon fs
    (done ++ [w], fs)) ([], r.files)
  { r with writers := writers, files := files, live := [] }

end Registry

end MessageTunnel.Trace
