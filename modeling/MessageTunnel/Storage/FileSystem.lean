import MessageTunnel.Storage.IoError
import MessageTunnel.Storage.Path
import MessageTunnel.Text.Utf8
/-!
A tree of directories, files and links of both kinds, and the operations on it that writing traces
and reading settings need. A file may have little room left, so that a write can fail in the middle.
-/
set_option autoImplicit false

namespace MessageTunnel

abbrev Bytes := List UInt8

/-- The names that lead from the top directory to a node, without links on the way. -/
abbrev Location := List String

inductive Node where
  | directory
  /-- Only so many bytes can still be written where `room` is given. -/
  | file (content : Bytes) (room : Option Nat)
  /-- a symbolic link -/
  | link (target : String)
  /-- a further name of the file at a place -/
  | hardLink (place : Location)
  /-- a file to which nothing can be written and from which nothing is read -/
  | device
  deriving DecidableEq, Repr

def Node.isLink : Node → Bool
  | link _ | hardLink _ => true
  | directory | file .. | device => false

structure FileSystem where
  nodes : List (Location × Node)
  here : Location

/-- What a path leads to: a node, or a free name in a directory. -/
inductive Target where
  | node (l : Location)
  | free (l : Location)

structure Handle where
  location : Location
  position : Nat
  deriving DecidableEq, Repr

namespace FileSystem

def scratch (here : Location) : FileSystem :=
  ⟨[(here, .directory), (["dev"], .directory), (["dev", "full"], .device)], here⟩

def node? (fs : FileSystem) (l : Location) : Option Node :=
  if l = [] then some .directory else fs.nodes.lookup l

def put (fs : FileSystem) (l : Location) (n : Node) : FileSystem :=
  { fs with nodes :=
      if (fs.nodes.lookup l).isSome then fs.nodes.map fun e => if e.1 = l then (l, n) else e
      else fs.nodes ++ [(l, n)] }

def hasFile (fs : FileSystem) (l : Location) : Bool :=
  match fs.node? l with
  | some (.file ..) | some .device => true
  | _ => false

/-- A path may lead through so many symbolic links. -/
def maxLinks : Nat := 40

def maxName : Nat := 255

def maxPath : Nat := 4095

/-- Follows names from a location. Every name but the last has to be that of a directory or of a
link to one. -/
def walk (fs : FileSystem) (links : Nat) (at_ : Location) (names : List String) :
    Except IoError Target :=
  match names with
  | [] => .ok (.node at_)
  | name :: rest =>
    if fs.node? at_ ≠ some .directory then .error .notDirectory
    else if name = "" ∨ name = "." then walk fs links at_ rest
    else if name = ".." then walk fs links at_.dropLast rest
    else if maxName < name.utf8ByteSize then .error .nameTooLong
    else match fs.node? (at_ ++ [name]) with
      | none => if rest.all (·.isEmpty) then .ok (.free (at_ ++ [name])) else .error .notFound
      | some (.link target) =>
        match links with
        | 0 => .error .tooManyLinks
        | links + 1 =>
          walk fs links (if Path.isAbsolute target then [] else at_) (Path.pieces target ++ rest)
      | some (.hardLink place) =>
        if fs.hasFile place then walk fs links place rest else .error .notFound
      | some _ => walk fs links (at_ ++ [name]) rest
termination_by (links, names.length)

def start (fs : FileSystem) (path : String) : Location :=
  if Path.isAbsolute path then [] else fs.here

def checkPath (path : String) : Except IoError Unit :=
  if path.toList.contains (Char.ofNat 0) then .error .nulInPath
  else if path.isEmpty then .error .notFound
  else if maxPath < path.utf8ByteSize then .error .nameTooLong
  else .ok ()

def resolve (fs : FileSystem) (path : String) : Except IoError Target := do
  checkPath path
  fs.walk maxLinks (fs.start path) (Path.pieces path)

def isDirectory (fs : FileSystem) (path : String) : Bool :=
  match fs.resolve path with
  | .ok (.node l) => fs.node? l = some .directory
  | _ => false

def makeDirectory (fs : FileSystem) (path : String) : Except IoError FileSystem := do
  checkPath path
  let names := (Path.pieces path).reverse.dropWhile (·.isEmpty)
  match ← fs.walk maxLinks (fs.start path) (names.drop 1).reverse, names.head? with
  | .free _, _ => throw .notFound
  | .node above, some name =>
    if fs.node? above ≠ some .directory then throw .notDirectory
    if name = "." ∨ name = ".." then throw .alreadyExists
    if maxName < name.utf8ByteSize then throw .nameTooLong
    if (fs.node? (above ++ [name])).isSome then throw .alreadyExists
    return fs.put (above ++ [name]) .directory
  | .node _, none => throw .alreadyExists

def makeDirectories (fs : FileSystem) (depth : Nat) (path : String) :
    FileSystem × Except IoError Unit :=
  if path.isEmpty then (fs, .ok ())
  else match fs.makeDirectory path, depth with
    | .ok fs, _ => (fs, .ok ())
    | .error .notFound, depth + 1 =>
      match Path.parent? path with
      | none => (fs, .error .notFound)
      | some above =>
        match fs.makeDirectories depth above with
        | (fs, .error e) => (fs, .error e)
        | (fs, .ok ()) =>
          match fs.makeDirectory path with
          | .ok fs => (fs, .ok ())
          | .error e => (fs, if fs.isDirectory path then .ok () else .error e)
    | .error e, _ => (fs, if fs.isDirectory path then .ok () else .error e)

def ensureDirectory (fs : FileSystem) (path : String) : FileSystem × Except IoError Unit :=
  if fs.isDirectory path then (fs, .ok ()) else fs.makeDirectories path.length path

def create (fs : FileSystem) (path : String) : Except IoError (Handle × FileSystem) := do
  match ← fs.resolve path with
  | .free l => return (⟨l, 0⟩, fs.put l (.file [] none))
  | .node l =>
    match fs.node? l with
    | some .directory => throw .isDirectory
    | some (.file content room) =>
      return (⟨l, 0⟩, fs.put l (.file [] (room.map (· + content.length))))
    | _ => return (⟨l, 0⟩, fs)

def read (fs : FileSystem) (path : String) : Except IoError Bytes := do
  match ← fs.resolve path with
  | .free _ => throw .notFound
  | .node l =>
    match fs.node? l with
    | some (.file content _) => return content
    | some .directory => throw .isDirectory
    | _ => return []

def readText (fs : FileSystem) (path : String) : Except IoError String := do
  match Utf8.decode (← fs.read path) with
  | some text => return String.ofList text
  | none => throw .notText

def overlay (content : Bytes) (position : Nat) (bytes : Bytes) : Bytes :=
  content.take position ++ List.replicate (position - content.length) 0 ++ bytes ++
    content.drop (position + bytes.length)

/-- Writes as many bytes as there is room for. What is left over is an error. -/
def write (fs : FileSystem) (h : Handle) (bytes : Bytes) :
    Except IoError Unit × Handle × FileSystem :=
  match fs.node? h.location with
  | some (.file content room) =>
    let fitting := match room with
      | none => bytes
      | some free => bytes.take free
    (if fitting.length < bytes.length then .error .noSpace else .ok (),
      { h with position := h.position + fitting.length },
      fs.put h.location
        (.file (overlay content h.position fitting) (room.map (· - fitting.length))))
  | _ => (if bytes.isEmpty then .ok () else .error .noSpace, h, fs)

/-- The content of a file under one of its names. -/
def contentUnder? (fs : FileSystem) (l : Location) : Option Bytes :=
  let place := match fs.node? l with
    | some (.hardLink place) => place
    | _ => l
  match fs.node? place with
  | some (.file content _) => some content
  | _ => none

/-- The files of a directory, by name. Symbolic links are left out. -/
def filesIn (fs : FileSystem) (path : String) : List (String × Bytes) :=
  match fs.resolve path with
  | .ok (.node dir) =>
    let names := fs.nodes.filterMap fun (l, _) => if l.dropLast = dir then l.getLast? else none
    (names.mergeSort fun a b => decide (a ≤ b)).filterMap fun name =>
      (fs.contentUnder? (dir ++ [name])).map fun content => (name, content)
  | _ => []

end FileSystem

end MessageTunnel
