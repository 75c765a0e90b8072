import LuaDebugger.Path
/-!
# A file system as data

The debugger reads programs and configuration files from a file system given to it as data:
files by absolute, cleaned path, and the directories that exist without holding files. A
directory also exists when some file or directory lies below it, and the root always exists.

Every operation that fails names its action, the path and the problem, as
`open /a/b: no such file or directory`:

* `read` fails on a missing path, or on a directory (`read <path>: is a directory`);
* `write` needs the parent directory to exist and the path not to be a directory;
* `remove` and `rename` need the path to exist; a rename replaces the target file;
* `mkdir` needs the parent to exist and the path to be free.

A change to a path reports itself as a `FileChange`, which a watcher of the file reads;
`perform` runs an operation and lists the changes it made.
-/

namespace LuaDebugger

/-- What went wrong with a path. -/
inductive FileProblem where
  /-- Nothing exists at the path. -/
  | missing
  /-- The path names a directory. -/
  | directory
  /-- Something already exists at the path. -/
  | occupied
  /-- A directory on the way to the path is a file. -/
  | notDirectory
  deriving DecidableEq, Repr

namespace FileProblem

/-- The text of the problem. -/
def text : FileProblem → String
  | .missing => "no such file or directory"
  | .directory => "is a directory"
  | .occupied => "file exists"
  | .notDirectory => "not a directory"

end FileProblem

/-- Why an operation on a file failed: the action, the path (both paths for a rename) and
the problem. -/
structure FileFault where
  /-- The action that failed: `open`, `read`, `remove`, `rename` or `mkdir`. -/
  action : String
  /-- The path, or the two paths of a rename. -/
  path : String
  /-- What was wrong. -/
  problem : FileProblem
  deriving DecidableEq, Repr

namespace FileFault

/-- The message of the fault. -/
def message (f : FileFault) : String := f.action ++ " " ++ f.path ++ ": " ++ f.problem.text

/-- Whether the fault says that the path does not exist. -/
def isMissing (f : FileFault) : Bool := f.problem == .missing

end FileFault

/-- How a file changed: it was written (created or modified), or it went away. -/
inductive FileChange where
  /-- The file was created or its contents changed. -/
  | written
  /-- The file was removed or renamed away. -/
  | removed
  deriving DecidableEq, Repr

/-- The name of a change as an event names it. -/
def FileChange.name : FileChange → String
  | .written => "write"
  | .removed => "remove"

/-- The name of a change with a numeric code, `unknown` for a code of none. -/
def FileChange.nameOfCode : Int → String
  | 0 => "write"
  | 1 => "remove"
  | _ => "unknown"

/-- Files by absolute, cleaned path, and directories that hold no file. -/
structure FileSystem where
  /-- The files and their contents. -/
  files : List (String × ByteArray) := []
  /-- Directories known to exist. -/
  dirs : List String := []
  deriving Inhabited

namespace FileSystem

/-- The prefix that the paths below a directory start with. -/
def below (path : String) : String := if path = "/" then "/" else path ++ "/"

/-- The directory that holds a path. -/
def parent (path : String) : String :=
  match (path.splitOn "/").dropLast with
  | [] | [""] => "/"
  | parts => "/".intercalate parts

/-- Whether a path names an existing directory. -/
def isDirectory (fs : FileSystem) (path : String) : Bool :=
  path = "/" || fs.dirs.any (fun d ↦ d = path || d.startsWith (below path)) ||
    fs.files.any (·.1.startsWith (below path))

/-- Whether a path names an existing file. -/
def isFile (fs : FileSystem) (path : String) : Bool := fs.files.any (·.1 = path)

/-- The directories on the way to a path, the root left out. -/
def ancestors (path : String) : List String :=
  let parts := (path.splitOn "/").filter (· ≠ "")
  (List.range (parts.length - 1)).map fun i ↦ "/" ++ "/".intercalate (parts.take (i + 1))

/-- Whether a directory on the way to a path is a file. -/
def blocked (fs : FileSystem) (path : String) : Bool := (ancestors path).any fs.isFile

/-- What is wrong with a path that does not exist: a file on the way, or nothing there. -/
def absence (fs : FileSystem) (path : String) : FileProblem :=
  if fs.blocked path then .notDirectory else .missing

/-- The contents of the file at the absolute path `path`. -/
def read (fs : FileSystem) (path : String) : Except FileFault ByteArray :=
  match fs.files.find? (·.1 = path) with
  | some (_, b) => .ok b
  | none =>
    if fs.isDirectory path then .error ⟨"read", path, .directory⟩
    else .error ⟨"open", path, fs.absence path⟩

/-- The files with the one at `path` replaced or added. -/
def put (fs : FileSystem) (path : String) (content : ByteArray) : FileSystem :=
  if fs.isFile path then
    { fs with files := fs.files.map fun (p, c) ↦ if p = path then (p, content) else (p, c) }
  else { fs with files := fs.files ++ [(path, content)] }

/-- Writes a file, creating it when it does not exist. -/
def write (fs : FileSystem) (path : String) (content : ByteArray) : Except FileFault FileSystem :=
  if fs.isDirectory path then .error ⟨"open", path, .directory⟩
  else if !fs.isDirectory (parent path) then .error ⟨"open", path, fs.absence path⟩
  else .ok (fs.put path content)

/-- Adds bytes at the end of a file, creating it when it does not exist. -/
def append (fs : FileSystem) (path : String) (content : ByteArray) : Except FileFault FileSystem :=
  match fs.files.find? (·.1 = path) with
  | some (_, old) => .ok (fs.put path (old ++ content))
  | none => fs.write path content

/-- Removes a file or an empty directory. -/
def remove (fs : FileSystem) (path : String) : Except FileFault FileSystem :=
  if fs.isFile path then .ok { fs with files := fs.files.filter (·.1 != path) }
  else if fs.dirs.contains path then .ok { fs with dirs := fs.dirs.filter (· != path) }
  else .error ⟨"remove", path, fs.absence path⟩

/-- Moves a file to another path, replacing a file there. -/
def rename (fs : FileSystem) (src dst : String) : Except FileFault FileSystem :=
  match fs.files.find? (·.1 = src) with
  | none => .error ⟨"rename", src ++ " " ++ dst, fs.absence src⟩
  | some (_, content) =>
    if !fs.isDirectory (parent dst) then .error ⟨"rename", src ++ " " ++ dst, fs.absence dst⟩
    else .ok ({ fs with files := fs.files.filter (·.1 != src) }.put dst content)

/-- Makes a directory. -/
def mkdir (fs : FileSystem) (path : String) : Except FileFault FileSystem :=
  if fs.isFile path || fs.isDirectory path then .error ⟨"mkdir", path, .occupied⟩
  else if !fs.isDirectory (parent path) then .error ⟨"mkdir", path, fs.absence path⟩
  else .ok { fs with dirs := fs.dirs ++ [path] }

end FileSystem

/-- An operation on files, by absolute path. -/
inductive FileOp where
  /-- Writes a file. -/
  | write (path : String) (content : ByteArray)
  /-- Adds bytes at the end of a file. -/
  | append (path : String) (content : ByteArray)
  /-- Removes a file or an empty directory. -/
  | remove (path : String)
  /-- Moves a file. -/
  | rename (src dst : String)
  /-- Changes the mode of a path, which must exist. -/
  | chmod (path : String)
  /-- Makes a directory. -/
  | mkdir (path : String)

/-- Performs an operation: the new file system and the changes it made, each with its
path, as a watcher sees them. A rename removes the source and writes the target, and a
change of mode is no change. -/
def FileSystem.perform (fs : FileSystem) :
    FileOp → Except FileFault (FileSystem × List (String × FileChange))
  | .write p c => (fs.write p c).map (·, [(p, .written)])
  | .append p c => (fs.append p c).map (·, [(p, .written)])
  | .remove p => (fs.remove p).map (·, [(p, .removed)])
  | .rename s d => (fs.rename s d).map (·, [(s, .removed), (d, .written)])
  | .chmod p =>
    if fs.isFile p || fs.isDirectory p then .ok (fs, []) else .error ⟨"chmod", p, fs.absence p⟩
  | .mkdir p => (fs.mkdir p).map (·, [(p, .written)])

end LuaDebugger
